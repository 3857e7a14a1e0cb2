import Mathlib.Tactic.Ring
import WarmStandby.Proofs.GenerationRun
import WarmStandby.Sample

/-!
# The expanded layout

A run that succeeds returns the containers of its layout as they were, one
container of standbys for each of them and each replica index, and no other.
-/

set_option autoImplicit false

namespace WarmStandby

/-! ## Containers -/

namespace Outcome.Expands

variable {outcome : Outcome} {layout : Layout} {factor : ReplicationFactor}
variable (expands : outcome.Expands layout factor)

include expands

theorem mem_iff {container : Container} :
    container ∈ outcome.layout.toList ↔
      container ∈ layout.toList ∨
        ∃ source ∈ layout.toList, ∃ replica : UInt32,
          replica.toNat < factor.buddiesPerContainer ∧
            (Buddy.derive source replica).model = container := by
  rw [expands.containers.mem_iff, Layout.mem_append_buddies_iff]

theorem get?_of_active {id : ContainerId} {container : Container}
    (found : layout.get? id = some container) :
    outcome.layout.get? id = some container := by
  obtain ⟨member, sameId⟩ := Roster.get?_eq_some_iff.mp found
  exact Roster.get?_eq_some_iff.mpr
    ⟨expands.mem_iff.mpr (.inl member), sameId⟩

theorem get?_of_buddy {source : Container} {replica : UInt32}
    (member : source ∈ layout.toList)
    (inRange : replica.toNat < factor.buddiesPerContainer) :
    outcome.layout.get? (BuddyId.text ⟨source.id, replica⟩) =
      some (Buddy.derive source replica).model :=
  Roster.get?_eq_some_iff.mpr ⟨expands.mem_iff.mpr
    (.inr ⟨source, member, replica, inRange, rfl⟩), rfl⟩

theorem get?_of_other {id : ContainerId} (notActive : id ∉ layout.ids)
    (notBuddy : ∀ source ∈ layout.ids, ∀ replica : UInt32,
      replica.toNat < factor.buddiesPerContainer →
        id ≠ BuddyId.text ⟨source, replica⟩) :
    outcome.layout.get? id = none := by
  rw [Roster.get?_eq_none_iff, Roster.mem_keys_iff]
  intro known
  obtain ⟨container, member, rfl⟩ := known
  rcases expands.mem_iff.mp member with
    active | ⟨source, sourceMember, replica, inRange, rfl⟩
  · exact notActive (Roster.mem_keys_iff.mpr ⟨container, active, rfl⟩)
  · exact notBuddy source.id
      (Roster.mem_keys_iff.mpr ⟨source, sourceMember, rfl⟩) replica inRange rfl

end Outcome.Expands

/-! ## Counts -/

namespace Layout

theorem standbyTaskCount_eq (layout : Layout) :
    layout.standbyTaskCount =
      (layout.toList.map (fun container =>
        container.tasks.toList.countP
          (fun task => task.role.isStandby))).sum := by
  rw [standbyTaskCount, assignments, List.countP_flatMap]
  simp only [Function.comp_def, List.countP_map]

/-- A measure that is the same for all buddies of a container counts once for
each replica index. -/
theorem sum_measure_derive {factor : ReplicationFactor}
    {containers : List Container} {measure measureOfBuddy : Container → Nat}
    (each : ∀ source ∈ containers, ∀ replica,
      measure (Buddy.derive source replica).model = measureOfBuddy source) :
    ((containers.flatMap (fun container =>
        factor.indices.map (Buddy.derive container))).map
          (fun buddy => measure buddy.model)).sum =
      (containers.map measureOfBuddy).sum * factor.buddiesPerContainer := by
  induction containers with
  | nil => simp
  | cons source rest inductionHypothesis =>
      obtain ⟨sourceEach, restEach⟩ := List.forall_mem_cons.mp each
      have ofSource :
          ((factor.indices.map (Buddy.derive source)).map
              (fun buddy => measure buddy.model)).sum =
            factor.buddiesPerContainer * measureOfBuddy source := by
        simp [Function.comp_def, sourceEach]
      rw [List.flatMap_cons, List.map_append, List.sum_append, ofSource,
        inductionHypothesis restEach, List.map_cons, List.sum_cons]
      ring

end Layout

namespace Outcome.Expands

variable {outcome : Outcome} {layout : Layout} {factor : ReplicationFactor}
variable (expands : outcome.Expands layout factor)

include expands

theorem sum_measure {measure measureOfBuddy : Container → Nat}
    (each : ∀ source ∈ layout.toList, ∀ replica,
      measure (Buddy.derive source replica).model = measureOfBuddy source) :
    (outcome.layout.toList.map measure).sum =
      (layout.toList.map measure).sum +
        (layout.toList.map measureOfBuddy).sum * factor.buddiesPerContainer := by
  rw [(expands.containers.map measure).sum_nat, List.map_append,
    List.sum_append, List.map_map]
  exact congrArg _ (Layout.sum_measure_derive each)

theorem size_eq :
    outcome.layout.size =
      layout.size + layout.size * factor.buddiesPerContainer := by
  rw [Roster.size, expands.containers.length_eq, List.length_append,
    List.length_map, layout.length_buddies]
  rfl

theorem taskCount_eq :
    outcome.layout.taskCount =
      layout.taskCount + layout.taskCount * factor.buddiesPerContainer :=
  expands.sum_measure (fun source _ => Buddy.derive_model_size source)

theorem standbyTaskCount_eq :
    outcome.layout.standbyTaskCount =
      layout.taskCount * factor.buddiesPerContainer := by
  have noStandby : layout.standbyTaskCount = 0 := by
    refine List.countP_eq_zero.mpr ?_
    intro assignment member
    rw [expands.pure.active assignment member]
    simp [Role.isStandby]
  rw [Layout.standbyTaskCount_eq] at noStandby
  rw [Layout.standbyTaskCount_eq, expands.sum_measure
    (fun source _ => Buddy.derive_countP_standby source), noStandby]
  exact Nat.zero_add _

end Outcome.Expands

namespace Layout

theorem expanded_layout_is_layout_with_buddies (layout : Layout) (value : Int)
    (outcome : Outcome) (nonempty : layout.isEmpty = false) (two : 2 ≤ value)
    (success : layout.generate value = .ok outcome) :
    (∀ id container, layout.get? id = some container →
      outcome.layout.get? id = some container) ∧
    (∀ id source (index : Nat), layout.get? id = some source →
      (index : Int) ≤ value - 2 →
      ∃ buddy,
        outcome.layout.get? (id ++ "-" ++ Decimal.text index) = some buddy ∧
        buddy.id = id ++ "-" ++ Decimal.text index ∧
        buddy.tasks.toList.Perm (source.tasks.toList.map (fun task =>
          { name := "Standby " ++ (task.name ++ "-" ++ Decimal.text index)
            partitions := task.partitions
            changelog := task.changelog
            role := .standby }))) ∧
    (∀ id, id ∉ layout.ids →
      (∀ source ∈ layout.ids, ∀ index : Nat, (index : Int) ≤ value - 2 →
        id ≠ source ++ "-" ++ Decimal.text index) →
      outcome.layout.get? id = none) ∧
    (outcome.layout.size : Int) = layout.size * value ∧
    (outcome.layout.taskCount : Int) = layout.taskCount * value ∧
    (outcome.layout.standbyTaskCount : Int) =
      layout.taskCount * (value - 1) := by
  obtain ⟨factor, copies, expands⟩ :=
    expands_of_generate_eq_ok nonempty two success
  have buddiesExact : (factor.buddiesPerContainer : Int) = value - 1 := by
    rw [ReplicationFactor.buddiesPerContainer]
    omega
  refine ⟨fun id container => expands.get?_of_active, ?_, ?_, ?_, ?_, ?_⟩
  · intro id source index found inRange
    obtain ⟨member, rfl⟩ := Roster.get?_eq_some_iff.mp found
    have indexRange : index < factor.buddiesPerContainer := by omega
    have indexExact := ReplicationFactor.toNat_ofNat_of_lt indexRange
    have replicaRange :
        (UInt32.ofNat index).toNat < factor.buddiesPerContainer := by
      rw [indexExact]
      exact indexRange
    have buddyFound := expands.get?_of_buddy member replicaRange
    rw [BuddyId.text, ReplicaText.render, indexExact] at buddyFound
    refine ⟨_, buddyFound, ?_, ?_⟩
    · rw [Buddy.derive_model_id, BuddyId.text, ReplicaText.render, indexExact]
      rfl
    · have copied :=
        TaskRoster.toList_replicate_perm source.tasks (UInt32.ofNat index)
      simp only [Task.standby, StandbyName.text, ReplicaText.render, indexExact]
        at copied
      exact copied
  · intro id notActive notBuddy
    refine expands.get?_of_other notActive ?_
    intro source member replica inRange
    exact notBuddy source member replica.toNat (by omega)
  · rw [expands.size_eq]
    push_cast
    rw [buddiesExact]
    ring
  · rw [expands.taskCount_eq]
    push_cast
    rw [buddiesExact]
    ring
  · rw [expands.standbyTaskCount_eq]
    push_cast
    rw [buddiesExact]

end Layout

namespace Sample

/-- A container with a buddy-like name beside the one it looks derived from, and
a container and a task without a name. -/
def dashed : Layout :=
  .ofList
    [⟨"7", .ofList [.active "a" [partition 1] 1, .active "a-0" [] 2]⟩,
      .vacant "7-5",
      ⟨"", .ofList [.active "" [partition 3] 3]⟩]

theorem generate_dashed : ∃ outcome, dashed.generate 3 = .ok outcome :=
  Layout.exists_outcome_of_isOk (by decide +kernel)

theorem expanded_layout_is_layout_with_buddies_dashed :
    dashed.isEmpty = false ∧ ∃ outcome, dashed.generate 3 = .ok outcome ∧
      (outcome.layout.size : Int) = 9 ∧
      (outcome.layout.taskCount : Int) = 9 ∧
      (outcome.layout.standbyTaskCount : Int) = 6 := by
  have nonempty : dashed.isEmpty = false := by decide +kernel
  have size : dashed.size = 3 := by decide +kernel
  have taskCount : dashed.taskCount = 3 := by decide +kernel
  obtain ⟨outcome, success⟩ := generate_dashed
  obtain ⟨_, _, _, sizeExact, taskCountExact, standbyTaskCountExact⟩ :=
    Layout.expanded_layout_is_layout_with_buddies dashed 3 outcome nonempty
      (by decide) success
  rw [size] at sizeExact
  rw [taskCount] at taskCountExact standbyTaskCountExact
  exact ⟨nonempty, outcome, success, sizeExact, taskCountExact,
    standbyTaskCountExact⟩

end Sample

end WarmStandby
