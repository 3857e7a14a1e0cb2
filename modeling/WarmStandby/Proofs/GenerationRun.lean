import WarmStandby.Generation
import WarmStandby.Proofs.DerivedBuddies

/-!
# The run of a generation

The nested loop over containers and replica indices offers the buddies of the
layout to one merge, in order.  For a purely active layout it ends at the first
buddy whose id is an id of the layout, and otherwise takes every buddy.
-/

set_option autoImplicit false

namespace WarmStandby

/-! ## The loop -/

namespace Generation

def Progress.after (progress : Progress) (offered : List Buddy) :
    Except GenerationFault Merge → Except GenerationFault Progress
  | .error fault => .error fault
  | .ok merge => .ok ⟨merge, offered.reverse ++ progress.taken⟩

theorem addBuddies_eq (active : Container) (left next : Nat)
    (progress : Progress) :
    addBuddies active left next progress =
      let offered := (List.range' next left).map
        (fun index => Buddy.derive active (UInt32.ofNat index))
      progress.after offered (progress.merge.pushUntilRefused offered) := by
  induction left generalizing next progress with
  | zero => rfl
  | succ left inductionHypothesis =>
      simp only [addBuddies, List.range'_succ, List.map_cons,
        Merge.pushUntilRefused]
      cases pushed : progress.merge.push
          (Buddy.derive active (UInt32.ofNat next)) with
      | mk verdict merge =>
          cases verdict with
          | error fault => rfl
          | ok taken =>
              -- Both go on from the same merge; what the loop has taken so far
              -- only stands below what the rest of it adds.
              simp only [inductionHypothesis]
              cases merge.pushUntilRefused ((List.range' (next + 1) left).map
                (fun index => Buddy.derive active (UInt32.ofNat index))) with
              | error fault => rfl
              | ok final => simp [Progress.after]

theorem addAllBuddies_eq (factor : ReplicationFactor)
    (containers : List Container) (progress : Progress) :
    addAllBuddies factor containers progress =
      let offered := containers.flatMap (fun container =>
        factor.indices.map (Buddy.derive container))
      progress.after offered (progress.merge.pushUntilRefused offered) := by
  induction containers generalizing progress with
  | nil => rfl
  | cons active rest inductionHypothesis =>
      have offeredFirst :
          (List.range' 0 factor.buddiesPerContainer).map
              (fun index => Buddy.derive active (UInt32.ofNat index)) =
            factor.indices.map (Buddy.derive active) := by
        rw [ReplicationFactor.indices, List.map_map, List.range_eq_range']
        rfl
      simp only [addAllBuddies, addBuddies_eq, offeredFirst, List.flatMap_cons,
        Merge.pushUntilRefused_append]
      cases progress.merge.pushUntilRefused
          (factor.indices.map (Buddy.derive active)) with
      | error fault => rfl
      | ok middle =>
          simp only [Progress.after, inductionHypothesis]
          cases middle.pushUntilRefused (rest.flatMap (fun container =>
            factor.indices.map (Buddy.derive container))) with
          | error fault => rfl
          | ok final => simp

end Generation

/-! ## Expanding a layout -/

/-- What an outcome tells of a layout whose buddies were all taken. -/
structure Outcome.Expands (outcome : Outcome) (layout : Layout)
    (factor : ReplicationFactor) : Prop where
  pure : layout.PurelyActive
  fresh : ∀ buddy ∈ layout.buddies factor, buddy.model.id ∉ layout.keys
  containers : outcome.layout.toList.Perm
    (layout.toList ++ (layout.buddies factor).map Buddy.model)
  buddies : outcome.buddies.toList = (layout.buddies factor).map Buddy.id
  events : outcome.events =
    .received layout.size factor.copies ::
      (layout.buddies factor).map Event.ofBuddy ++
      [.buddyContainersAdded
        ((layout.buddies factor).map (fun buddy => buddy.model.id))]

namespace Layout

variable {layout : Layout} {factor : ReplicationFactor}

/-- Past its checks, the run is one merge of all buddies. -/
theorem expand_eq_of_validate (nonempty : layout.isEmpty = false)
    (standbys : factor.hasStandbys = true)
    (valid : layout.validate = .ok ()) :
    layout.expand factor =
      match (Merge.start layout).pushUntilRefused (layout.buddies factor) with
      | .error fault => .error fault
      | .ok merge => .ok
          { layout := merge.layout
            events := .received layout.size factor.copies ::
              (layout.buddies factor).map Event.ofBuddy ++
              [.buddyContainersAdded
                ((layout.buddies factor).map (fun buddy => buddy.model.id))]
            buddies := .ofList ((layout.buddies factor).map Buddy.id) } := by
  rw [expand]
  simp only [nonempty, standbys, valid, Generation.addAllBuddies_eq, buddies,
    Bool.not_true, Bool.false_eq_true, if_false]
  cases (Merge.start layout).pushUntilRefused (layout.toList.flatMap
      (fun container => factor.indices.map (Buddy.derive container))) with
  | error fault => rfl
  | ok merge => simp [Generation.Progress.after]

theorem PurelyActive.pushUntilRefused_of_ids_fresh (pure : layout.PurelyActive)
    {before after : List Buddy}
    (split : layout.buddies factor = before ++ after)
    (fresh : ∀ buddy ∈ before, buddy.model.id ∉ layout.keys) :
    ∃ merge, (Merge.start layout).pushUntilRefused before = .ok merge ∧
      merge.Holds layout before := by
  have apart : before.Pairwise
      (fun earlier later => earlier.model.Apart later.model) := by
    have allApart := pure.buddies_apart factor
    rw [split] at allApart
    exact (List.pairwise_append.mp allApart).1
  refine (Merge.start_holds layout).pushUntilRefused ?_ apart
  intro buddy offered container member
  have derived : buddy ∈ layout.buddies factor := by
    rw [split]
    exact List.mem_append_left after offered
  exact pure.apart_of_fresh member derived (fresh buddy offered)

theorem expand_of_id_taken (nonempty : layout.isEmpty = false)
    (standbys : factor.hasStandbys = true) (valid : layout.validate = .ok ())
    {before after : List Buddy} {buddy : Buddy}
    (split : layout.buddies factor = before ++ buddy :: after)
    (fresh : ∀ earlier ∈ before, earlier.model.id ∉ layout.keys)
    (taken : buddy.model.id ∈ layout.keys) :
    layout.expand factor = .error (.namingCollision
      { kind := .container
        derived := buddy.model.id
        derivedFrom := buddy.id.active
        replica := buddy.id.replica
        existing := buddy.model.id
        existingOwner := buddy.model.id }) := by
  have pure := validate_eq_ok_iff.mp valid
  obtain ⟨merge, run, holds⟩ := pure.pushUntilRefused_of_ids_fresh split fresh
  have known : buddy.model.id ∈ merge.layout.keys := by
    obtain ⟨container, member, sameId⟩ := Roster.mem_keys_iff.mp taken
    refine Roster.mem_keys_iff.mpr ⟨container, ?_, sameId⟩
    exact holds.containers.mem_iff.mpr (List.mem_append_left _ member)
  have refused :=
    Merge.push_of_collision (Merge.collision?_of_id_mem known)
  rw [expand_eq_of_validate nonempty standbys valid, split,
    Merge.pushUntilRefused_append, run]
  simp only [Merge.pushUntilRefused, refused]

theorem expand_of_ids_fresh (nonempty : layout.isEmpty = false)
    (standbys : factor.hasStandbys = true) (valid : layout.validate = .ok ())
    (fresh : ∀ buddy ∈ layout.buddies factor,
      buddy.model.id ∉ layout.keys) :
    ∃ outcome, layout.expand factor = .ok outcome ∧
      outcome.Expands layout factor := by
  have pure := validate_eq_ok_iff.mp valid
  obtain ⟨merge, run, holds⟩ :=
    pure.pushUntilRefused_of_ids_fresh (List.append_nil _).symm fresh
  rw [expand_eq_of_validate nonempty standbys valid, run]
  refine ⟨_, rfl, ?_⟩
  exact
    { pure := pure
      fresh := fresh
      containers := holds.containers
      buddies := Roster.toList_ofList_of_ascending
        (List.pairwise_map.mpr (layout.buddies_ascending factor))
      events := rfl }

theorem ids_fresh_or_first_taken (layout : Layout)
    (factor : ReplicationFactor) :
    (∀ buddy ∈ layout.buddies factor, buddy.model.id ∉ layout.keys) ∨
      ∃ before buddy after,
        layout.buddies factor = before ++ buddy :: after ∧
          (∀ earlier ∈ before, earlier.model.id ∉ layout.keys) ∧
          buddy.model.id ∈ layout.keys := by
  cases found : (layout.buddies factor).find?
      (fun buddy => layout.contains buddy.model.id) with
  | none => exact .inl (by simpa using found)
  | some buddy =>
      obtain ⟨taken, before, after, split, fresh⟩ :=
        List.find?_eq_some_iff_append.mp found
      exact .inr ⟨before, buddy, after, split, by simpa using fresh,
        by simpa using taken⟩

theorem expands_of_expand_eq_ok (nonempty : layout.isEmpty = false)
    (standbys : factor.hasStandbys = true) {outcome : Outcome}
    (success : layout.expand factor = .ok outcome) :
    outcome.Expands layout factor := by
  cases valid : layout.validate with
  | error fault =>
      rw [expand] at success
      simp [nonempty, standbys, valid] at success
  | ok =>
      rcases layout.ids_fresh_or_first_taken factor with
        fresh | ⟨before, buddy, after, split, fresh, taken⟩
      · obtain ⟨expanded, expansion, expands⟩ :=
          expand_of_ids_fresh nonempty standbys valid fresh
        rw [expansion] at success
        rwa [← Except.ok.inj success]
      · rw [expand_of_id_taken nonempty standbys valid split fresh taken]
          at success
        contradiction

end Layout

/-! ## Factors -/

namespace ReplicationFactor

theorem ofInt?_eq_none_iff {value : Int} :
    ofInt? value = none ↔ ¬ (1 ≤ value ∧ value ≤ 4294967295) := by
  rw [ofInt?]
  split <;> simp_all

theorem copies_of_ofInt?_eq_some {value : Int} {factor : ReplicationFactor}
    (accepted : ofInt? value = some factor) :
    (factor.copies.toNat : Int) = value := by
  rw [ofInt?] at accepted
  split at accepted
  · rename_i inRange
    rw [← Option.some.inj accepted, UInt32.toNat_ofNat']
    omega
  · contradiction

theorem ofInt?_of_in_range {value : Int} (word : Decimal.IsInt32 value)
    (one : 1 ≤ value) :
    ∃ factor, ofInt? value = some factor ∧
      (factor.copies.toNat : Int) = value := by
  cases accepted : ofInt? value with
  | none =>
      have outOfRange := ofInt?_eq_none_iff.mp accepted
      rw [Decimal.IsInt32] at word
      omega
  | some factor => exact ⟨factor, rfl, copies_of_ofInt?_eq_some accepted⟩

theorem hasStandbys_iff {factor : ReplicationFactor} :
    factor.hasStandbys = true ↔ 2 ≤ factor.copies.toNat :=
  decide_eq_true_iff

theorem buddiesPerContainer_pos {factor : ReplicationFactor}
    (two : 2 ≤ factor.copies.toNat) : 0 < factor.buddiesPerContainer :=
  Nat.sub_pos_of_lt two

theorem ofInt?_of_several {value : Int} (word : Decimal.IsInt32 value)
    (several : 1 < value) :
    ∃ factor, ofInt? value = some factor ∧
      (factor.copies.toNat : Int) = value ∧ factor.hasStandbys = true := by
  obtain ⟨factor, accepted, copies⟩ := ofInt?_of_in_range word (by omega)
  exact ⟨factor, accepted, copies, hasStandbys_iff.mpr (by omega)⟩

end ReplicationFactor

theorem Layout.generate_eq_passThrough {layout : Layout} {value : Int}
    {factor : ReplicationFactor}
    (accepted : ReplicationFactor.ofInt? value = some factor)
    (idle : layout.isEmpty = true ∨ value = 1) :
    ∃ received reason, layout.generate value =
      .ok (Generation.passThrough layout received reason) := by
  have copies := ReplicationFactor.copies_of_ofInt?_eq_some accepted
  rw [generate, accepted]
  simp only [expand]
  cases empty : layout.isEmpty with
  | true => exact ⟨_, _, rfl⟩
  | false =>
      have oneCopy : value = 1 := by simpa [empty] using idle
      have noStandbys : factor.hasStandbys = false := by
        rw [← Bool.not_eq_true, ReplicationFactor.hasStandbys_iff]
        omega
      rw [noStandbys]
      exact ⟨_, _, rfl⟩

theorem Layout.cases_of_generate_eq_ok {layout : Layout} {value : Int}
    {outcome : Outcome} (success : layout.generate value = .ok outcome) :
    ((layout.isEmpty = true ∨ value = 1) ∧ ∃ received reason,
      outcome = Generation.passThrough layout received reason) ∨
    (layout.isEmpty = false ∧ 2 ≤ value ∧ ∃ factor : ReplicationFactor,
      (factor.copies.toNat : Int) = value ∧
        outcome.Expands layout factor) := by
  cases accepted : ReplicationFactor.ofInt? value with
  | none =>
      rw [generate, accepted] at success
      contradiction
  | some factor =>
      have copies := ReplicationFactor.copies_of_ofInt?_eq_some accepted
      have one := factor.atLeastOne
      by_cases idle : layout.isEmpty = true ∨ value = 1
      · obtain ⟨received, reason, passed⟩ :=
          generate_eq_passThrough accepted idle
        rw [passed] at success
        exact .inl ⟨idle, received, reason, (Except.ok.inj success).symm⟩
      · obtain ⟨notEmpty, several⟩ := not_or.mp idle
        have nonempty : layout.isEmpty = false :=
          Bool.eq_false_iff.mpr notEmpty
        have standbys : factor.hasStandbys = true :=
          ReplicationFactor.hasStandbys_iff.mpr (by omega)
        rw [generate, accepted] at success
        exact .inr ⟨nonempty, by omega, factor, copies,
          expands_of_expand_eq_ok nonempty standbys success⟩

theorem Layout.expands_of_generate_eq_ok {layout : Layout} {value : Int}
    {outcome : Outcome} (nonempty : layout.isEmpty = false) (two : 2 ≤ value)
    (success : layout.generate value = .ok outcome) :
    ∃ factor : ReplicationFactor, (factor.copies.toNat : Int) = value ∧
      outcome.Expands layout factor := by
  rcases cases_of_generate_eq_ok success with ⟨idle, _⟩ | ⟨_, _, expanded⟩
  · rcases idle with empty | one
    · rw [nonempty] at empty
      contradiction
    · omega
  · exact expanded

/-- That a run succeeds can be seen by evaluating it. -/
theorem Layout.exists_outcome_of_isOk {layout : Layout} {value : Int}
    (succeeds : (layout.generate value).isOk = true) :
    ∃ outcome, layout.generate value = .ok outcome := by
  cases run : layout.generate value with
  | ok outcome => exact ⟨outcome, rfl⟩
  | error fault =>
      rw [run] at succeeds
      contradiction

end WarmStandby
