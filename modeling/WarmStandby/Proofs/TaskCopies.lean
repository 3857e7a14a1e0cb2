import WarmStandby.Proofs.ExpandedLayout

/-!
# The copies of a task

By its name alone, each task of an expanded layout belongs to one task of the
layout it came from.  The tasks that belong to one name are the active task in
its own container and one standby for every replica index, each in a container
of its own.
-/

set_option autoImplicit false

namespace WarmStandby

/-- Whether a task bears the name, or a standby name of it. -/
def Task.belongsTo (name : TaskName) (task : Task) : Bool :=
  task.name == name ||
    (StandbyName.parse? task.name).map StandbyName.active == some name

/-- The tasks that belong to a name, with the ids of their containers. -/
def Layout.copies (layout : Layout) (name : TaskName) :
    List (ContainerId × Task) :=
  layout.assignments.filter (fun assignment => assignment.2.belongsTo name)

/-! ## Belonging to a name -/

theorem Task.belongsTo_iff_of_not_reserved {task : Task} {name : TaskName}
    (unreserved : isReserved task.name = false) :
    task.belongsTo name = true ↔ task.name = name := by
  simp [belongsTo, StandbyName.parse?_eq_none_of_not_reserved unreserved]

theorem Task.standby_belongsTo_iff {source : Task} {replica : UInt32}
    {name : TaskName} (unreserved : isReserved name = false) :
    (source.standby replica).belongsTo name = true ↔ source.name = name := by
  have notItself : StandbyName.text ⟨source.name, replica⟩ ≠ name := by
    intro same
    rw [← same, StandbyName.isReserved_text] at unreserved
    contradiction
  simp [belongsTo, notItself]

/-! ## Assignments of an expanded layout -/

theorem Layout.nodup_assignments (layout : Layout) :
    layout.assignments.Nodup := by
  refine List.pairwise_flatMap.mpr ⟨?_, ?_⟩
  · intro container _
    refine container.tasks.nodup_toList.map ?_
    intro left right same
    exact congrArg Prod.snd same
  · refine (List.pairwise_map.mp layout.nodup_keys).imp ?_
    intro left right distinct leftPair leftMember rightPair rightMember same
    obtain ⟨leftTask, _, rfl⟩ := List.mem_map.mp leftMember
    obtain ⟨rightTask, _, rfl⟩ := List.mem_map.mp rightMember
    exact distinct (congrArg Prod.fst same)

namespace Outcome.Expands

variable {outcome : Outcome} {layout : Layout} {factor : ReplicationFactor}
variable (expands : outcome.Expands layout factor)

include expands

theorem containers_apart :
    outcome.layout.toList.Pairwise Container.Apart := by
  refine (expands.containers.pairwise_iff Container.Apart.symm).mpr
    (List.pairwise_append.mpr ⟨expands.pure.containers_apart,
      List.pairwise_map.mpr (expands.pure.buddies_apart factor), ?_⟩)
  intro container member model modelMember
  obtain ⟨buddy, buddyMember, rfl⟩ := List.mem_map.mp modelMember
  exact expands.pure.apart_of_fresh member buddyMember
    (expands.fresh buddy buddyMember)

theorem eq_of_mem_names {left right : Container} {name : TaskName}
    (leftMember : left ∈ outcome.layout.toList)
    (rightMember : right ∈ outcome.layout.toList)
    (leftHolds : name ∈ left.tasks.keys)
    (rightHolds : name ∈ right.tasks.keys) : left = right := by
  by_contra distinct
  have apart :=
    expands.containers_apart.forall leftMember rightMember distinct
  exact apart.2 name leftHolds rightHolds

theorem mem_assignments_iff {id : ContainerId} {task : Task} :
    (id, task) ∈ outcome.layout.assignments ↔
      (id, task) ∈ layout.assignments ∨
        ∃ assignment ∈ layout.assignments, ∃ replica : UInt32,
          replica.toNat < factor.buddiesPerContainer ∧
            BuddyId.text ⟨assignment.1, replica⟩ = id ∧
            assignment.2.standby replica = task := by
  simp only [Layout.mem_assignments_iff, expands.mem_iff, or_and_right,
    exists_or]
  refine or_congr_right ?_
  constructor
  · intro held
    obtain ⟨_, ⟨source, member, replica, inRange, rfl⟩, rfl, taskMember⟩ := held
    obtain ⟨sourceTask, sourceTaskMember, rfl⟩ :=
      Buddy.mem_derive_tasks_iff.mp taskMember
    exact ⟨(source.id, sourceTask), Layout.mem_assignments_iff.mpr
      ⟨source, member, rfl, sourceTaskMember⟩, replica, inRange, rfl, rfl⟩
  · intro copied
    obtain ⟨⟨_, sourceTask⟩, assigned, replica, inRange, rfl, rfl⟩ := copied
    obtain ⟨source, member, rfl, sourceTaskMember⟩ :=
      Layout.mem_assignments_iff.mp assigned
    exact ⟨_, ⟨source, member, replica, inRange, rfl⟩, rfl,
      Buddy.mem_derive_tasks_iff.mpr ⟨sourceTask, sourceTaskMember, rfl⟩⟩

theorem copies_perm {assignment : ContainerId × Task}
    (member : assignment ∈ layout.assignments) :
    (outcome.layout.copies assignment.2.name).Perm
      (assignment :: factor.indices.map (fun replica =>
        (BuddyId.text ⟨assignment.1, replica⟩,
          assignment.2.standby replica))) := by
  have unreserved := expands.pure.unreserved assignment member
  have nodupListed : (assignment :: factor.indices.map (fun replica =>
      (BuddyId.text ⟨assignment.1, replica⟩,
        assignment.2.standby replica))).Nodup := by
    refine List.nodup_cons.mpr ⟨?_, ?_⟩
    · intro listed
      obtain ⟨replica, _, same⟩ := List.mem_map.mp listed
      rw [← same, Task.standby_name, StandbyName.isReserved_text] at unreserved
      contradiction
    · refine factor.nodup_indices.map ?_
      intro left right same
      have sameId := BuddyId.text_injective (congrArg Prod.fst same)
      exact congrArg BuddyId.replica sameId
  refine (List.perm_ext_iff_of_nodup
    (outcome.layout.nodup_assignments.filter _) nodupListed).mpr ?_
  intro copy
  obtain ⟨id, task⟩ := copy
  rw [List.mem_filter, expands.mem_assignments_iff, List.mem_cons,
    List.mem_map]
  constructor
  · intro listed
    obtain ⟨assigned, belongs⟩ := listed
    rcases assigned with
      active | ⟨source, sourceMember, replica, inRange, rfl, rfl⟩
    · have sameName := (Task.belongsTo_iff_of_not_reserved
        (expands.pure.unreserved _ active)).mp belongs
      exact .inl (expands.pure.eq_of_name_eq active member sameName)
    · have sameName := (Task.standby_belongsTo_iff unreserved).mp belongs
      rw [expands.pure.eq_of_name_eq sourceMember member sameName]
      exact .inr ⟨replica, ReplicationFactor.mem_indices_iff.mpr inRange, rfl⟩
  · intro listed
    rcases listed with rfl | ⟨replica, listed, same⟩
    · exact ⟨.inl member,
        (Task.belongsTo_iff_of_not_reserved unreserved).mpr rfl⟩
    · obtain ⟨rfl, rfl⟩ := Prod.mk.inj same
      exact ⟨.inr ⟨assignment, member, replica,
        ReplicationFactor.mem_indices_iff.mp listed, rfl, rfl⟩,
        (Task.standby_belongsTo_iff unreserved).mpr rfl⟩

theorem length_copies {assignment : ContainerId × Task}
    (member : assignment ∈ layout.assignments) :
    (outcome.layout.copies assignment.2.name).length =
      factor.buddiesPerContainer + 1 := by
  rw [(expands.copies_perm member).length_eq, List.length_cons,
    List.length_map, ReplicationFactor.length_indices]

theorem nodup_copies_containers {assignment : ContainerId × Task}
    (member : assignment ∈ layout.assignments) :
    ((outcome.layout.copies assignment.2.name).map Prod.fst).Nodup := by
  obtain ⟨source, sourceMember, sameId, _⟩ :=
    Layout.mem_assignments_iff.mp member
  rw [((expands.copies_perm member).map Prod.fst).nodup_iff, List.map_cons,
    List.map_map, List.nodup_cons]
  refine ⟨?_, ?_⟩
  · intro listed
    obtain ⟨replica, replicaMember, taken⟩ := List.mem_map.mp listed
    have inRange := ReplicationFactor.mem_indices_iff.mp replicaMember
    refine expands.fresh (Buddy.derive source replica)
      (Layout.derive_mem_buddies sourceMember inRange) ?_
    refine Roster.mem_keys_iff.mpr ⟨source, sourceMember, ?_⟩
    rw [Buddy.derive_model_id, sameId]
    exact taken.symm
  · refine factor.nodup_indices.map ?_
    intro left right same
    exact congrArg BuddyId.replica (BuddyId.text_injective same)

theorem filter_active_copies {assignment : ContainerId × Task}
    (member : assignment ∈ layout.assignments) :
    (outcome.layout.copies assignment.2.name).filter
        (fun copy => copy.2.role.isActive) = [assignment] := by
  have active := expands.pure.active assignment member
  have filtered := (expands.copies_perm member).filter
    (fun copy => copy.2.role.isActive)
  refine List.perm_singleton.mp (filtered.trans ?_)
  simp [active, List.filter_map, Function.comp_def, Task.standby,
    Task.standbyCopy, Role.isActive]

theorem filter_standby_copies_perm {assignment : ContainerId × Task}
    (member : assignment ∈ layout.assignments) :
    ((outcome.layout.copies assignment.2.name).filter
        (fun copy => copy.2.role.isStandby)).Perm
      (factor.indices.map (fun replica =>
        (BuddyId.text ⟨assignment.1, replica⟩,
          assignment.2.standby replica))) := by
  have active := expands.pure.active assignment member
  refine ((expands.copies_perm member).filter _).trans ?_
  simp [active, List.filter_map, Function.comp_def, Task.standby,
    Task.standbyCopy, Role.isStandby]

theorem existsUnique_belongsTo {assignment : ContainerId × Task}
    (member : assignment ∈ outcome.layout.assignments) :
    ∃! name, name ∈ layout.taskNames ∧ assignment.2.belongsTo name = true := by
  rcases expands.mem_assignments_iff.mp member with
    active | ⟨source, sourceMember, replica, _, _, isStandby⟩
  · have unreserved := expands.pure.unreserved assignment active
    refine ⟨assignment.2.name, ⟨List.mem_map_of_mem active,
      (Task.belongsTo_iff_of_not_reserved unreserved).mpr rfl⟩, ?_⟩
    intro name owning
    obtain ⟨_, belongs⟩ := owning
    exact ((Task.belongsTo_iff_of_not_reserved unreserved).mp belongs).symm
  · have unreserved := expands.pure.unreserved source sourceMember
    rw [← isStandby]
    refine ⟨source.2.name, ⟨List.mem_map_of_mem sourceMember,
      (Task.standby_belongsTo_iff unreserved).mpr rfl⟩, ?_⟩
    intro name owning
    obtain ⟨known, belongs⟩ := owning
    obtain ⟨other, otherMember, rfl⟩ := List.mem_map.mp known
    exact ((Task.standby_belongsTo_iff
      (expands.pure.unreserved other otherMember)).mp belongs).symm

end Outcome.Expands

namespace Layout

/-- An expanded layout holds as many copies of each task as the factor says. -/
theorem every_task_has_factor_copies (layout : Layout) (value : Int)
    (outcome : Outcome) (nonempty : layout.isEmpty = false) (two : 2 ≤ value)
    (success : layout.generate value = .ok outcome) :
    (∀ left ∈ outcome.layout.toList, ∀ right ∈ outcome.layout.toList,
      ∀ name, name ∈ left.tasks.keys → name ∈ right.tasks.keys →
        left = right) ∧
    (∀ id task, (id, task) ∈ layout.assignments →
      ((outcome.layout.copies task.name).length : Int) = value ∧
      ((outcome.layout.copies task.name).map Prod.fst).Nodup ∧
      (outcome.layout.copies task.name).filter
        (fun copy => copy.2.role.isActive) = [(id, task)] ∧
      (((outcome.layout.copies task.name).filter
        (fun copy => copy.2.role.isStandby)).map (fun copy =>
          (StandbyName.parse? copy.2.name).map
            (fun name => name.replica.toNat))).Perm
        ((List.range (value - 1).toNat).map some) ∧
      (∀ copy ∈ outcome.layout.copies task.name,
        copy.2.partitions = task.partitions ∧
          copy.2.changelog = task.changelog)) ∧
    (∀ assignment ∈ outcome.layout.assignments,
      ∃! name, name ∈ layout.taskNames ∧
        assignment.2.belongsTo name = true) := by
  obtain ⟨factor, copies, expands⟩ :=
    expands_of_generate_eq_ok nonempty two success
  have buddiesExact : factor.buddiesPerContainer = (value - 1).toNat := by
    rw [ReplicationFactor.buddiesPerContainer]
    omega
  refine ⟨fun left leftMember right rightMember name =>
    expands.eq_of_mem_names leftMember rightMember, ?_,
    fun assignment => expands.existsUnique_belongsTo⟩
  intro id task member
  refine ⟨?_, expands.nodup_copies_containers member,
    expands.filter_active_copies member, ?_, ?_⟩
  · rw [expands.length_copies member]
    omega
  · refine ((expands.filter_standby_copies_perm member).map _).trans ?_
    rw [← buddiesExact, ← factor.map_toNat_indices, List.map_map, List.map_map]
    refine List.Perm.of_eq (List.map_congr_left ?_)
    intro replica _
    simp
  · intro copy copyMember
    rcases List.mem_cons.mp ((expands.copies_perm member).mem_iff.mp copyMember)
      with rfl | isStandby
    · exact ⟨rfl, rfl⟩
    · obtain ⟨replica, _, rfl⟩ := List.mem_map.mp isStandby
      exact ⟨rfl, rfl⟩

end Layout

namespace Sample

theorem every_task_has_factor_copies_dashed :
    dashed.isEmpty = false ∧
      ("7", Task.active "a-0" [] 2) ∈ dashed.assignments ∧
      ∃ outcome, dashed.generate 3 = .ok outcome ∧
        ((outcome.layout.copies "a-0").length : Int) = 3 ∧
        (outcome.layout.copies "a-0").filter
          (fun copy => copy.2.role.isActive) =
            [("7", Task.active "a-0" [] 2)] := by
  have nonempty : dashed.isEmpty = false := by decide +kernel
  have member : ("7", Task.active "a-0" [] 2) ∈ dashed.assignments := by
    decide +kernel
  obtain ⟨outcome, success⟩ := generate_dashed
  obtain ⟨_, copies, _⟩ :=
    Layout.every_task_has_factor_copies dashed 3 outcome nonempty (by decide)
      success
  obtain ⟨length, _, active, _⟩ := copies _ _ member
  exact ⟨nonempty, member, outcome, success, length, active⟩

end Sample

end WarmStandby
