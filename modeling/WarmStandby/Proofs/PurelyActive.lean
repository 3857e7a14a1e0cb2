import WarmStandby.Proofs.RosterLaws
import WarmStandby.Validation

/-!
# Purely active layouts

Validation lets just those layouts pass whose tasks are all active, bear no
reserved name and have names of their own across all containers.
-/

set_option autoImplicit false

namespace WarmStandby

@[simp]
theorem Role.isStandby_eq_true_iff {role : Role} :
    role.isStandby = true ↔ role = .standby := by
  cases role <;> simp [isStandby]

@[simp]
theorem Role.isStandby_eq_false_iff {role : Role} :
    role.isStandby = false ↔ role = .active := by
  cases role <;> simp [isStandby]

theorem Owners.ownerOf?_eq_none_iff {owners : Owners} {name : TaskName} :
    owners.ownerOf? name = none ↔ name ∉ owners.keys := by
  rw [Owners.ownerOf?, Option.map_eq_none_iff, Roster.get?_eq_none_iff]

namespace Layout

def taskNames (layout : Layout) : List TaskName :=
  layout.assignments.map (fun assignment => assignment.2.name)

structure PurelyActive (layout : Layout) : Prop where
  active : ∀ assignment ∈ layout.assignments, assignment.2.role = .active
  unreserved : ∀ assignment ∈ layout.assignments,
    isReserved assignment.2.name = false
  distinct : layout.taskNames.Nodup

theorem mem_assignments_iff {layout : Layout} {id : ContainerId} {task : Task} :
    (id, task) ∈ layout.assignments ↔
      ∃ container ∈ layout.toList,
        container.id = id ∧ task ∈ container.tasks.toList := by
  simp only [assignments, List.mem_flatMap, List.mem_map, Prod.mk.injEq]
  constructor
  · intro assigned
    obtain ⟨container, member, held, taskMember, sameId, same⟩ := assigned
    rw [← same]
    exact ⟨container, member, sameId, taskMember⟩
  · intro assigned
    obtain ⟨container, member, sameId, taskMember⟩ := assigned
    exact ⟨container, member, task, taskMember, sameId, rfl⟩

theorem assignments_ascending (layout : Layout) :
    layout.assignments.Pairwise (fun earlier later =>
      earlier.1 < later.1 ∨
        earlier.1 = later.1 ∧ earlier.2.name < later.2.name) := by
  refine List.pairwise_flatMap.mpr ⟨?_, ?_⟩
  · intro container _
    refine List.pairwise_map.mpr (container.tasks.ascending.imp ?_)
    intro left right before
    exact .inr ⟨rfl, compareOfLessAndEq_eq_lt.mp before⟩
  · refine layout.ascending.imp ?_
    intro left right before earlier earlierMember later laterMember
    obtain ⟨leftTask, _, rfl⟩ := List.mem_map.mp earlierMember
    obtain ⟨rightTask, _, rfl⟩ := List.mem_map.mp laterMember
    exact .inl (compareOfLessAndEq_eq_lt.mp before)

theorem checkAssignments_cons_eq_ok_iff {container : ContainerId} {task : Task}
    {rest : List (ContainerId × Task)} {owners : Owners} :
    checkAssignments owners ((container, task) :: rest) = .ok () ↔
      task.role = .active ∧ isReserved task.name = false ∧
        task.name ∉ owners.keys ∧
        checkAssignments (owners.insert (task.name, container)) rest =
          .ok () := by
  rw [checkAssignments]
  cases role : task.role with
  | standby => simp [Role.isActive]
  | active =>
      cases reserved : isReserved task.name with
      | true => simp [Role.isActive]
      | false =>
          cases owner : owners.ownerOf? task.name with
          | some first =>
              have owned : task.name ∈ owners.keys := by
                by_contra absent
                rw [Owners.ownerOf?_eq_none_iff.mpr absent] at owner
                contradiction
              simp [owned, Role.isActive]
          | none =>
              simp [Owners.ownerOf?_eq_none_iff.mp owner, Role.isActive]

theorem checkAssignments_eq_ok_iff {assignments : List (ContainerId × Task)}
    {owners : Owners} :
    checkAssignments owners assignments = .ok () ↔
      (∀ assignment ∈ assignments, assignment.2.role = .active ∧
        isReserved assignment.2.name = false ∧
        assignment.2.name ∉ owners.keys) ∧
      (assignments.map (fun assignment => assignment.2.name)).Nodup := by
  induction assignments generalizing owners with
  | nil => simp [checkAssignments]
  | cons assignment rest inductionHypothesis =>
      obtain ⟨container, task⟩ := assignment
      rw [checkAssignments_cons_eq_ok_iff, inductionHypothesis,
        List.forall_mem_cons, List.map_cons, List.nodup_cons]
      -- The names after this one have to be fresh to the owners that include
      -- it; that it is not among them is the head of `Nodup`.
      simp only [Roster.mem_keys_insert, not_or, List.mem_map, not_exists,
        not_and]
      constructor
      · intro accepted
        obtain ⟨active, unreserved, fresh, each, distinct⟩ := accepted
        refine ⟨⟨⟨active, unreserved, fresh⟩, ?_⟩, ?_, distinct⟩
        · intro other member
          obtain ⟨otherActive, otherUnreserved, _, otherFresh⟩ :=
            each other member
          exact ⟨otherActive, otherUnreserved, otherFresh⟩
        · intro other member
          obtain ⟨_, _, apart, _⟩ := each other member
          exact apart
      · intro accepted
        obtain ⟨⟨⟨active, unreserved, fresh⟩, each⟩, apart, distinct⟩ := accepted
        refine ⟨active, unreserved, fresh, ?_, distinct⟩
        intro other member
        obtain ⟨otherActive, otherUnreserved, otherFresh⟩ := each other member
        exact ⟨otherActive, otherUnreserved, apart other member, otherFresh⟩

/-- Assignments that pass by themselves are passed over when more follow. -/
theorem checkAssignments_append {before after : List (ContainerId × Task)}
    {owners : Owners} (accepted : checkAssignments owners before = .ok ()) :
    checkAssignments owners (before ++ after) =
      checkAssignments (before.foldl (fun owners assignment =>
        owners.insert (assignment.2.name, assignment.1)) owners) after := by
  induction before generalizing owners with
  | nil => rfl
  | cons assignment rest inductionHypothesis =>
      obtain ⟨container, task⟩ := assignment
      obtain ⟨active, unreserved, fresh, restAccepted⟩ :=
        checkAssignments_cons_eq_ok_iff.mp accepted
      have unowned := Owners.ownerOf?_eq_none_iff.mpr fresh
      rw [List.cons_append, checkAssignments, active, unreserved, unowned]
      exact inductionHypothesis restAccepted

theorem checkAssignments_eq_error {assignments : List (ContainerId × Task)}
    {owners : Owners} {fault : GenerationFault}
    (failure : checkAssignments owners assignments = .error fault) :
    (∃ reason, fault = .invalidLayout reason) ∨
      ∃ container task, fault = .reservedName container task := by
  induction assignments generalizing owners with
  | nil => contradiction
  | cons assignment rest inductionHypothesis =>
      obtain ⟨container, task⟩ := assignment
      rw [checkAssignments] at failure
      split at failure
      · exact .inl ⟨_, (Except.error.inj failure).symm⟩
      · split at failure
        · exact .inr ⟨_, _, (Except.error.inj failure).symm⟩
        · split at failure
          · exact .inl ⟨_, (Except.error.inj failure).symm⟩
          · exact inductionHypothesis failure

theorem validate_eq_ok_iff {layout : Layout} :
    layout.validate = .ok () ↔ layout.PurelyActive := by
  rw [validate, checkAssignments_eq_ok_iff]
  constructor
  · intro accepted
    obtain ⟨each, distinct⟩ := accepted
    exact ⟨fun assignment member => (each assignment member).1,
      fun assignment member => (each assignment member).2.1, distinct⟩
  · intro pure
    obtain ⟨active, unreserved, distinct⟩ := pure
    refine ⟨fun assignment member => ⟨active assignment member,
      unreserved assignment member, ?_⟩, distinct⟩
    exact List.not_mem_nil

/-- A task name belongs to at most one assignment. -/
theorem PurelyActive.eq_of_name_eq {layout : Layout}
    (pure : layout.PurelyActive) {left right : ContainerId × Task}
    (leftMember : left ∈ layout.assignments)
    (rightMember : right ∈ layout.assignments)
    (same : left.2.name = right.2.name) : left = right :=
  List.inj_on_of_nodup_map pure.distinct leftMember rightMember same

theorem PurelyActive.eq_of_mem_names {layout : Layout}
    (pure : layout.PurelyActive) {left right : Container} {name : TaskName}
    (leftMember : left ∈ layout.toList) (rightMember : right ∈ layout.toList)
    (leftHolds : name ∈ left.tasks.keys)
    (rightHolds : name ∈ right.tasks.keys) : left = right := by
  obtain ⟨leftTask, leftTaskMember, rfl⟩ := Roster.mem_keys_iff.mp leftHolds
  obtain ⟨rightTask, rightTaskMember, same⟩ :=
    Roster.mem_keys_iff.mp rightHolds
  have sameAssignment : (left.id, leftTask) = (right.id, rightTask) :=
    pure.eq_of_name_eq
      (mem_assignments_iff.mpr ⟨left, leftMember, rfl, leftTaskMember⟩)
      (mem_assignments_iff.mpr ⟨right, rightMember, rfl, rightTaskMember⟩)
      same.symm
  exact layout.eq_of_key_eq leftMember rightMember
    (congrArg Prod.fst sameAssignment)

end Layout

end WarmStandby
