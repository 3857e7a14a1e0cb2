import WarmStandby.Proofs.Provenance

/-!
# What a container holds and where it came from

A run that expands its layout takes active tasks only, and all that it makes of
them are standbys.  So the roles of the tasks of a container tell whether the
run made it, and so do the ids that the run records.  Only a container without
tasks shows no role, whichever of the two it is.
-/

set_option autoImplicit false

namespace WarmStandby

/-! ## Roles of a container's tasks -/

namespace Container

variable {container : Container}

theorem hasStandbyTasks_iff :
    container.hasStandbyTasks = true ↔
      ∃ task ∈ container.tasks.toList, task.role = .standby := by
  simp [hasStandbyTasks]

theorem hasStandbyTasks_of_active
    (active : ∀ task ∈ container.tasks.toList, task.role = .active) :
    container.hasStandbyTasks = false := by
  apply Bool.eq_false_iff.mpr
  intro found
  obtain ⟨task, member, standby⟩ := hasStandbyTasks_iff.mp found
  rw [active task member] at standby
  cases standby

theorem hasStandbyTasks_of_standby (nonempty : container.isEmpty = false)
    (standby : ∀ task ∈ container.tasks.toList, task.role = .standby) :
    container.hasStandbyTasks = true := by
  obtain ⟨task, member⟩ := List.exists_mem_of_ne_nil container.tasks.toList
    (List.isEmpty_eq_false_iff.mp nonempty)
  exact hasStandbyTasks_iff.mpr ⟨task, member, standby task member⟩

end Container

theorem Layout.PurelyActive.role_eq_active {layout : Layout}
    (pure : layout.PurelyActive) {container : Container}
    (member : container ∈ layout.toList) {task : Task}
    (held : task ∈ container.tasks.toList) : task.role = .active := by
  apply pure.active (container.id, task)
  exact Layout.mem_assignments_iff.mpr ⟨container, member, rfl, held⟩

theorem Buddy.role_eq_standby {active : Container} {replica : UInt32}
    {task : Task} (held : task ∈ (derive active replica).model.tasks.toList) :
    task.role = .standby := by
  obtain ⟨source, _, rfl⟩ := mem_derive_tasks_iff.mp held
  rfl

/-! ## Recorded buddies -/

/-- The run has recorded a buddy whose text is the id of the container. -/
def Outcome.Recorded (outcome : Outcome) (container : Container) : Prop :=
  ∃ buddy ∈ outcome.buddies.toList, buddy.text = container.id

theorem Outcome.any_text_iff_recorded {outcome : Outcome}
    {container : Container} :
    outcome.buddies.toList.any (fun buddy => buddy.text == container.id) =
      true ↔ outcome.Recorded container := by
  simp [Outcome.Recorded]

theorem Outcome.mem_activeContainers_iff {outcome : Outcome}
    {container : Container} :
    container ∈ outcome.activeContainers ↔
      container ∈ outcome.layout.toList ∧ ¬ outcome.Recorded container := by
  rw [Outcome.activeContainers, List.mem_filter, Bool.not_eq_true',
    ← Bool.not_eq_true, Outcome.any_text_iff_recorded]

namespace Outcome.Expands

variable {outcome : Outcome} {layout : Layout} {factor : ReplicationFactor}
variable (expands : outcome.Expands layout factor)

include expands

theorem mem_layout_iff_not_recorded {container : Container}
    (member : container ∈ outcome.layout.toList) :
    container ∈ layout.toList ↔ ¬ outcome.Recorded container := by
  rw [← expands.activeContainers_eq, Outcome.mem_activeContainers_iff]
  exact and_iff_right member

theorem role_eq_active_of_not_recorded {container : Container}
    (member : container ∈ outcome.layout.toList)
    (unrecorded : ¬ outcome.Recorded container) :
    ∀ task ∈ container.tasks.toList, task.role = .active := by
  intro task held
  have given := (expands.mem_layout_iff_not_recorded member).mpr unrecorded
  exact expands.pure.role_eq_active given held

theorem role_eq_standby_of_recorded {container : Container}
    (member : container ∈ outcome.layout.toList)
    (recorded : outcome.Recorded container) :
    ∀ task ∈ container.tasks.toList, task.role = .standby := by
  intro task held
  rcases expands.mem_iff.mp member with
    given | ⟨source, _, replica, _, rfl⟩
  · exact absurd recorded
      ((expands.mem_layout_iff_not_recorded member).mp given)
  · exact Buddy.role_eq_standby held

theorem hasStandbyTasks_iff_recorded {container : Container}
    (member : container ∈ outcome.layout.toList)
    (nonempty : container.isEmpty = false) :
    container.hasStandbyTasks = true ↔ outcome.Recorded container := by
  by_cases recorded : outcome.Recorded container
  · apply iff_of_true _ recorded
    exact Container.hasStandbyTasks_of_standby nonempty
      (expands.role_eq_standby_of_recorded member recorded)
  · apply iff_of_false _ recorded
    rw [Bool.not_eq_true]
    exact Container.hasStandbyTasks_of_active
      (expands.role_eq_active_of_not_recorded member recorded)

/-- The containers of active tasks, found by their contents, are those that the
run did not make, less the empty ones. -/
theorem activeContainers_by_contents :
    outcome.layout.activeContainers =
      outcome.activeContainers.filter (fun container => !container.isEmpty) := by
  rw [Layout.activeContainers, Outcome.activeContainers, List.filter_filter]
  apply List.filter_congr
  intro container member
  cases empty : container.isEmpty with
  | true => rfl
  | false =>
      have agree := expands.hasStandbyTasks_iff_recorded member empty
      rw [← Outcome.any_text_iff_recorded, Bool.coe_iff_coe] at agree
      rw [agree]

end Outcome.Expands

/-- What the tasks of a container tell of its origin agrees with what the run
recorded of it, for every container that has any. -/
theorem Layout.contents_agree_with_provenance {layout : Layout} {value : Int}
    {outcome : Outcome} (nonempty : layout.isEmpty = false) (two : 2 ≤ value)
    (success : layout.generate value = .ok outcome) :
    outcome.layout.activeContainers =
      outcome.activeContainers.filter (fun container => !container.isEmpty) ∧
    ∀ container ∈ outcome.layout.toList, container.isEmpty = false →
      (container.hasStandbyTasks = true ↔ outcome.Recorded container) ∧
      (outcome.Recorded container →
        ∀ task ∈ container.tasks.toList, task.role = .standby) := by
  obtain ⟨factor, _, expands⟩ :=
    expands_of_generate_eq_ok nonempty two success
  refine ⟨expands.activeContainers_by_contents, ?_⟩
  intro container member holdsTasks
  exact ⟨expands.hasStandbyTasks_iff_recorded member holdsTasks,
    expands.role_eq_standby_of_recorded member⟩

namespace Sample

def seven : Container :=
  ⟨"7", .ofList [.active "a" [partition 1] 1, .active "a-0" [] 2]⟩

theorem contents_agree_with_provenance_dashed :
    dashed.isEmpty = false ∧ ∃ outcome, dashed.generate 3 = .ok outcome ∧
      outcome.layout.activeContainers =
        dashed.toList.filter (fun container => !container.isEmpty) ∧
      (Buddy.derive seven 1).model ∈ outcome.layout.toList ∧
      outcome.Recorded (Buddy.derive seven 1).model := by
  have nonempty : dashed.isEmpty = false := by decide +kernel
  have given : seven ∈ dashed.toList := by decide +kernel
  have holdsTasks : (Buddy.derive seven 1).model.isEmpty = false := by
    decide +kernel
  have standbys : (Buddy.derive seven 1).model.hasStandbyTasks = true := by
    decide +kernel
  obtain ⟨outcome, success⟩ := generate_dashed
  obtain ⟨factor, copies, expands⟩ :=
    Layout.expands_of_generate_eq_ok nonempty (by decide) success
  have inRange : (1 : UInt32).toNat < factor.buddiesPerContainer := by
    rw [ReplicationFactor.buddiesPerContainer]
    change 1 < _
    omega
  have made : (Buddy.derive seven 1).model ∈ outcome.layout.toList :=
    expands.mem_iff.mpr (.inr ⟨seven, given, 1, inRange, rfl⟩)
  obtain ⟨sameActive, agree⟩ :=
    Layout.contents_agree_with_provenance nonempty (by decide) success
  rw [expands.activeContainers_eq] at sameActive
  exact ⟨nonempty, outcome, success, sameActive, made,
    (agree _ made holdsTasks).1.mp standbys⟩

end Sample

end WarmStandby
