import WarmStandby.Proofs.GenerationOutcomes
import WarmStandby.Proofs.TaskCopies

/-!
# Expanding an expanded layout

A layout is expanded once.  An expanded layout holds standbys if the layout it
came from holds tasks, and validation reports the first of them.  A layout of
containers without tasks passes validation again after its expansion, but then
the first buddy of its first container has an id that is taken.
-/

set_option autoImplicit false

namespace WarmStandby

/-! ## Validation up to a standby -/

namespace Layout

theorem checkAssignments_of_standby {container : ContainerId} {task : Task}
    {rest : List (ContainerId × Task)} {owners : Owners}
    (standby : task.role = .standby) :
    checkAssignments owners ((container, task) :: rest) =
      .error (.invalidLayout (.notActive task.name container .standby)) := by
  rw [checkAssignments, standby]
  rfl

theorem taskCount_eq_length (layout : Layout) :
    layout.taskCount = layout.assignments.length := by
  rw [taskCount, assignments, List.length_flatMap, ← List.sum_eq_foldr]
  simp only [List.length_map]
  rfl

structure FirstStandby (layout : Layout) (id : ContainerId) (task : Task) :
    Prop where
  assigned : (id, task) ∈ layout.assignments
  standby : task.role = .standby
  least : ∀ other ∈ layout.assignments, other.2.role = .standby →
    id < other.1 ∨ id = other.1 ∧ task.name ≤ other.2.name

theorem firstStandby_of_split {layout : Layout} {id : ContainerId} {task : Task}
    {before after : List (ContainerId × Task)}
    (split : layout.assignments = before ++ (id, task) :: after)
    (standby : task.role = .standby)
    (active : ∀ earlier ∈ before, earlier.2.role = .active) :
    layout.FirstStandby id task := by
  refine ⟨by simp [split], standby, ?_⟩
  intro other assigned otherStandby
  have ascending := layout.assignments_ascending
  rw [split] at assigned ascending
  have noStandby : ∀ earlier ∈ before, ¬ earlier.2.role = .standby := by
    intro earlier member
    rw [active earlier member]
    exact nofun
  rcases eq_or_related_of_first ascending noStandby assigned otherStandby with
    rfl | below
  · exact .inr ⟨rfl, String.le_refl _⟩
  · exact below.imp_right (And.imp_right Std.le_of_lt)

end Layout

/-! ## The standbys of an expanded layout -/

namespace Outcome.Expands

variable {outcome : Outcome} {layout : Layout} {factor : ReplicationFactor}
variable (expands : outcome.Expands layout factor)

include expands

theorem mem_assignments_of_active {assignment : ContainerId × Task}
    (member : assignment ∈ outcome.layout.assignments)
    (active : assignment.2.role = .active) : assignment ∈ layout.assignments := by
  rcases expands.mem_assignments_iff.mp member with
    original | ⟨source, _, replica, _, _, copied⟩
  · exact original
  · rw [← copied] at active
    contradiction

theorem checkAssignments_of_active {before after : List (ContainerId × Task)}
    (split : outcome.layout.assignments = before ++ after)
    (active : ∀ earlier ∈ before, earlier.2.role = .active) :
    Layout.checkAssignments .empty before = .ok () := by
  have original : ∀ earlier ∈ before, earlier ∈ layout.assignments := by
    intro earlier member
    refine expands.mem_assignments_of_active ?_ (active earlier member)
    rw [split]
    exact List.mem_append_left after member
  have distinct := outcome.layout.nodup_assignments
  rw [split] at distinct
  refine Layout.checkAssignments_eq_ok_iff.mpr ⟨?_, ?_⟩
  · intro earlier member
    exact ⟨active earlier member,
      expands.pure.unreserved earlier (original earlier member),
      List.not_mem_nil⟩
  · refine List.Nodup.map_on ?_ (List.nodup_append.mp distinct).1
    intro left leftMember right rightMember same
    exact expands.pure.eq_of_name_eq (original left leftMember)
      (original right rightMember) same

theorem exists_firstStandby (occupied : 0 < layout.taskCount)
    (several : 0 < factor.buddiesPerContainer) :
    ∃ id task, outcome.layout.FirstStandby id task ∧
      outcome.layout.validate =
        .error (.invalidLayout (.notActive task.name id .standby)) := by
  rw [Layout.taskCount_eq_length, List.length_pos_iff] at occupied
  obtain ⟨source, sourceMember⟩ := List.exists_mem_of_ne_nil _ occupied
  have copy : (BuddyId.text ⟨source.1, 0⟩, source.2.standby 0) ∈
      outcome.layout.assignments :=
    expands.mem_assignments_iff.mpr
      (.inr ⟨source, sourceMember, 0, several, rfl, rfl⟩)
  cases found : outcome.layout.assignments.find?
      (fun assignment => assignment.2.role.isStandby) with
  | none =>
      have noCopy := List.find?_eq_none.mp found _ copy
      exact absurd rfl noCopy
  | some first =>
      obtain ⟨id, task⟩ := first
      obtain ⟨isStandby, before, after, split, noneBefore⟩ :=
        List.find?_eq_some_iff_append.mp found
      have standby : task.role = .standby :=
        Role.isStandby_eq_true_iff.mp isStandby
      have active : ∀ earlier ∈ before, earlier.2.role = .active := by
        intro earlier member
        simpa using noneBefore earlier member
      refine ⟨id, task, Layout.firstStandby_of_split split standby active, ?_⟩
      rw [Layout.validate, split, Layout.checkAssignments_append
        (expands.checkAssignments_of_active split active)]
      exact Layout.checkAssignments_of_standby standby

theorem validate_of_vacant (vacant : layout.taskCount = 0) :
    outcome.layout.validate = .ok () := by
  have noTasks : outcome.layout.assignments = [] := by
    rw [← List.length_eq_zero_iff, ← Layout.taskCount_eq_length,
      expands.taskCount_eq, vacant, Nat.zero_mul]
  rw [Layout.validate, noTasks]
  rfl

end Outcome.Expands

/-! ## The first container of an expanded layout -/

theorem BuddyId.not_text_lt_active (buddy : BuddyId) :
    ¬ buddy.text < buddy.active := by
  rw [String.lt_iff, text, ReplicaText.toList_render, List.not_lt]
  exact List.le_append_left

namespace Outcome.Expands

variable {outcome : Outcome} {layout : Layout} {factor : ReplicationFactor}
variable (expands : outcome.Expands layout factor)

include expands

/-- A buddy comes after the container that it was derived from, so the first
container is none. -/
theorem head_mem {first : Container} {rest : List Container}
    (listed : outcome.layout.toList = first :: rest) :
    first ∈ layout.toList := by
  have ascending := outcome.layout.ascending
  rw [listed] at ascending
  have below := (List.pairwise_cons.mp ascending).1
  have member : first ∈ outcome.layout.toList := by simp [listed]
  rcases expands.mem_iff.mp member with
    active | ⟨source, sourceMember, replica, _, derived⟩
  · exact active
  · have sourceListed := expands.mem_iff.mpr (.inl sourceMember)
    rw [listed] at sourceListed
    rcases List.mem_cons.mp sourceListed with rfl | inRest
    · exact sourceMember
    · have firstBefore : first.id < source.id :=
        compareOfLessAndEq_eq_lt.mp (below source inRest)
      have notBefore := BuddyId.not_text_lt_active ⟨source.id, replica⟩
      rw [← Buddy.derive_model_id, derived] at notBefore
      exact absurd firstBefore notBefore

theorem head_le {first : Container} {rest : List Container}
    (listed : outcome.layout.toList = first :: rest) {id : ContainerId}
    (known : id ∈ layout.ids) : first.id ≤ id := by
  obtain ⟨container, member, rfl⟩ := Roster.mem_keys_iff.mp known
  have ascending := outcome.layout.ascending
  have memberListed := expands.mem_iff.mpr (.inl member)
  rw [listed] at ascending memberListed
  rcases List.mem_cons.mp memberListed with rfl | inRest
  · exact String.le_refl _
  · exact Std.le_of_lt (compareOfLessAndEq_eq_lt.mp
      ((List.pairwise_cons.mp ascending).1 container inRest))

end Outcome.Expands

/-! ## A second run -/

namespace Layout

theorem generate_eq_expand {value : Int} (one : 1 ≤ value)
    (atMost : value ≤ 4294967295) :
    ∃ factor : ReplicationFactor, (factor.copies.toNat : Int) = value ∧
      ∀ layout : Layout, layout.generate value = layout.expand factor := by
  cases accepted : ReplicationFactor.ofInt? value with
  | none =>
      exact absurd ⟨one, atMost⟩
        (ReplicationFactor.ofInt?_eq_none_iff.mp accepted)
  | some factor =>
      refine ⟨factor, ReplicationFactor.copies_of_ofInt?_eq_some accepted, ?_⟩
      intro layout
      rw [generate, accepted]

theorem expand_of_validate_eq_error {layout : Layout}
    {factor : ReplicationFactor} (nonempty : layout.isEmpty = false)
    (standbys : factor.hasStandbys = true) {fault : GenerationFault}
    (invalid : layout.validate = .error fault) :
    layout.expand factor = .error fault := by
  rw [expand]
  simp [nonempty, standbys, invalid]

end Layout

namespace Outcome.Expands

variable {outcome : Outcome} {layout : Layout}
variable {factor again : ReplicationFactor}
variable (expands : outcome.Expands layout factor)

include expands

/-- A run over an expanded layout that is valid ends at its first buddy, whose
id the first run gave away. -/
theorem expand_again_of_valid {first : Container} {rest : List Container}
    (listed : outcome.layout.toList = first :: rest)
    (several : 0 < factor.buddiesPerContainer)
    (standbys : again.hasStandbys = true)
    (valid : outcome.layout.validate = .ok ()) :
    outcome.layout.expand again = .error (.namingCollision
      { kind := .container
        derived := first.id ++ "-0"
        derivedFrom := first.id
        replica := 0
        existing := first.id ++ "-0"
        existingOwner := first.id ++ "-0" }) := by
  have nonempty : outcome.layout.isEmpty = false := by
    rw [Roster.isEmpty, listed]
    rfl
  have againSeveral := ReplicationFactor.buddiesPerContainer_pos
    (ReplicationFactor.hasStandbys_iff.mp standbys)
  obtain ⟨left, buddiesExact⟩ :=
    Nat.exists_eq_add_one_of_ne_zero (Nat.ne_of_gt againSeveral)
  have split : ∃ after, outcome.layout.buddies again =
      [] ++ Buddy.derive first 0 :: after := by
    rw [Layout.buddies, listed, List.flatMap_cons, ReplicationFactor.indices,
      buddiesExact, List.range_succ_eq_map]
    exact ⟨_, rfl⟩
  obtain ⟨after, split⟩ := split
  have taken : (Buddy.derive first 0).model.id ∈ outcome.layout.keys :=
    Roster.mem_keys_iff.mpr ⟨_, expands.mem_iff.mpr
      (.inr ⟨first, expands.head_mem listed, 0, several, rfl⟩), rfl⟩
  have idExact : (Buddy.derive first 0).model.id = first.id ++ "-0" := by
    have firstIndex : ReplicaText.separator ++ Decimal.text 0 = "-0" := by
      decide +kernel
    rw [Buddy.derive_model_id, BuddyId.text, ReplicaText.render,
      String.append_assoc]
    exact congrArg (first.id ++ ·) firstIndex
  have failure := Layout.expand_of_id_taken nonempty standbys valid split
    (List.forall_mem_nil _) taken
  rw [idExact] at failure
  exact failure

end Outcome.Expands

namespace Layout

/-- An expanded layout cannot be expanded.  If the layout holds tasks, the first
standby is reported as such; if not, the least id and the first index give an id
that the first run has given to a buddy. -/
theorem expanded_layout_not_expandable (layout : Layout) (value : Int)
    (outcome : Outcome) (nonempty : layout.isEmpty = false) (two : 2 ≤ value)
    (success : layout.generate value = .ok outcome) :
    (0 < layout.taskCount →
      ∃ id task fault, outcome.layout.FirstStandby id task ∧
        fault = .invalidLayout (.notActive task.name id .standby) ∧
        GenerationFault.message fault =
          "invalid layout: " ++ ("task " ++ task.name ++ " in container " ++ id
            ++ " has role " ++ "standbyState" ++ ", expected active") ∧
        ∀ again : Int, 2 ≤ again → again ≤ 4294967295 →
          outcome.layout.generate again = .error fault) ∧
    (layout.taskCount = 0 →
      ∃ id ∈ layout.ids, (∀ other ∈ layout.ids, id ≤ other) ∧
        ∀ again : Int, 2 ≤ again → again ≤ 4294967295 →
          outcome.layout.generate again = .error (.namingCollision
            { kind := .container
              derived := id ++ "-0"
              derivedFrom := id
              replica := 0
              existing := id ++ "-0"
              existingOwner := id ++ "-0" })) ∧
    ((∃ fault, outcome.layout.validate = .error fault) ↔
      0 < layout.taskCount) := by
  obtain ⟨factor, copies, expands⟩ :=
    expands_of_generate_eq_ok nonempty two success
  have several : 0 < factor.buddiesPerContainer :=
    ReplicationFactor.buddiesPerContainer_pos (by omega)
  obtain ⟨first, rest, listed⟩ :
      ∃ first rest, outcome.layout.toList = first :: rest := by
    obtain ⟨container, member⟩ := List.exists_mem_of_ne_nil layout.toList
      (List.isEmpty_eq_false_iff.mp nonempty)
    exact List.exists_cons_of_ne_nil
      (List.ne_nil_of_mem (expands.mem_iff.mpr (.inl member)))
  have outcomeNonempty : outcome.layout.isEmpty = false := by
    rw [Roster.isEmpty, listed]
    rfl
  refine ⟨?_, ?_, ?_, ?_⟩
  · intro occupied
    obtain ⟨id, task, firstStandby, invalid⟩ :=
      expands.exists_firstStandby occupied several
    refine ⟨id, task, _, firstStandby, rfl, rfl, ?_⟩
    intro again againTwo atMost
    obtain ⟨againFactor, againCopies, asExpansion⟩ :=
      generate_eq_expand (by omega) atMost
    rw [asExpansion]
    exact expand_of_validate_eq_error outcomeNonempty
      (ReplicationFactor.hasStandbys_iff.mpr (by omega)) invalid
  · intro vacant
    refine ⟨first.id, List.mem_map_of_mem (expands.head_mem listed),
      fun _ => expands.head_le listed, ?_⟩
    intro again againTwo atMost
    obtain ⟨againFactor, againCopies, asExpansion⟩ :=
      generate_eq_expand (by omega) atMost
    rw [asExpansion]
    exact expands.expand_again_of_valid listed several
      (ReplicationFactor.hasStandbys_iff.mpr (by omega))
      (expands.validate_of_vacant vacant)
  · intro invalid
    obtain ⟨fault, invalid⟩ := invalid
    refine Nat.pos_of_ne_zero ?_
    intro vacant
    rw [expands.validate_of_vacant vacant] at invalid
    contradiction
  · intro occupied
    obtain ⟨_, _, _, invalid⟩ := expands.exists_firstStandby occupied several
    exact ⟨_, invalid⟩

end Layout

namespace Sample

theorem generate_numbered : ∃ outcome, numbered.generate 2 = .ok outcome :=
  Layout.exists_outcome_of_isOk (by decide +kernel)

theorem expanded_layout_not_expandable_dashed :
    (∃ outcome id task, dashed.generate 3 = .ok outcome ∧
      outcome.layout.FirstStandby id task ∧
      outcome.layout.generate 2 =
        .error (.invalidLayout (.notActive task.name id .standby))) ∧
    ∃ outcome, ∃ id ∈ numbered.ids, numbered.generate 2 = .ok outcome ∧
      outcome.layout.generate 3 = .error (.namingCollision
        { kind := .container
          derived := id ++ "-0"
          derivedFrom := id
          replica := 0
          existing := id ++ "-0"
          existingOwner := id ++ "-0" }) := by
  refine ⟨?_, ?_⟩
  · obtain ⟨outcome, success⟩ := generate_dashed
    obtain ⟨ofTasks, _, _⟩ := Layout.expanded_layout_not_expandable dashed 3
      outcome (by decide +kernel) (by decide) success
    obtain ⟨id, task, fault, first, rfl, _, failure⟩ :=
      ofTasks (by decide +kernel)
    exact ⟨outcome, id, task, success, first,
      failure 2 (by decide) (by decide)⟩
  · obtain ⟨outcome, success⟩ := generate_numbered
    obtain ⟨_, ofVacant, _⟩ := Layout.expanded_layout_not_expandable numbered 2
      outcome (by decide +kernel) (by decide) success
    obtain ⟨id, known, _, failure⟩ := ofVacant (by decide +kernel)
    exact ⟨outcome, id, known, success, failure 3 (by decide) (by decide)⟩

end Sample

end WarmStandby
