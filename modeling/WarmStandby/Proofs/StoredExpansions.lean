import WarmStandby.Proofs.BatchMerge
import WarmStandby.Proofs.LayoutParts
import WarmStandby.Proofs.StoredForms

/-!
# Merges and expansions as they are stored

A merge stores every buddy that it takes under the id of the buddy, and leaves
all else as it was stored.  An expansion does the same for the buddies that it
derives.
-/

set_option autoImplicit false

namespace WarmStandby

def StoredLayout.buddies (layout : StoredLayout) (factor : ReplicationFactor) :
    List StoredContainer :=
  layout.toList.flatMap (fun entry => factor.indices.map entry.2.derive)

namespace Merge

variable {merge next : Merge} {buddy : Buddy}

theorem stored_of_push_ok (pushed : merge.push buddy = (.ok (), next)) :
    next.layout.stored = merge.layout.stored.put buddy.model.stored := by
  rcases merge.push_cases buddy with ⟨collision, _, refused⟩ | ⟨_, taken⟩
  · rw [refused] at pushed
    cases pushed
  · rw [taken] at pushed
    cases pushed
    exact merge.layout.stored_insert buddy.model

theorem eq_of_push_error {fault : GenerationFault}
    (pushed : merge.push buddy = (.error fault, next)) : next = merge := by
  rcases merge.push_cases buddy with ⟨collision, _, refused⟩ | ⟨_, taken⟩
  · rw [refused] at pushed
    cases pushed
    rfl
  · rw [taken] at pushed
    cases pushed

theorem stored_of_pushUntilRefused {buddies : List Buddy}
    (pushed : merge.pushUntilRefused buddies = .ok next) :
    next.layout.stored = merge.layout.stored.putAll
      (buddies.map (fun buddy => buddy.model.stored)) := by
  induction buddies generalizing merge with
  | nil =>
      cases Except.ok.inj pushed
      rfl
  | cons buddy rest inductionHypothesis =>
      unfold pushUntilRefused at pushed
      cases first : merge.push buddy with
      | mk verdict middle =>
          rw [first] at pushed
          cases verdict with
          | error fault => contradiction
          | ok taken =>
              rw [inductionHypothesis pushed, stored_of_push_ok first]
              rfl

end Merge

namespace Layout

variable {layout : Layout} {factor : ReplicationFactor}

theorem stored_of_merge {buddies : List Buddy} {merged : Layout}
    (made : layout.merge buddies = .ok merged) :
    merged.stored = layout.stored.putAll
      (buddies.map (fun buddy => buddy.model.stored)) := by
  unfold merge at made
  cases run : (Merge.start layout).pushUntilRefused buddies with
  | error fault =>
      rw [run] at made
      contradiction
  | ok last =>
      rw [run] at made
      cases Except.ok.inj made
      exact Merge.stored_of_pushUntilRefused run

theorem stored_buddies (layout : Layout) (factor : ReplicationFactor) :
    (layout.buddies factor).map (fun buddy => buddy.model.stored) =
      layout.stored.buddies factor := by
  unfold buddies StoredLayout.buddies stored Roster.image
  rw [List.map_flatMap, List.flatMap_map]
  simp only [List.map_map, Function.comp_def, Buddy.stored_derive]

/-- An expansion that succeeds is a merge of all buddies, also where there are
none. -/
theorem merge_buddies_of_expand {outcome : Outcome}
    (made : layout.expand factor = .ok outcome) :
    layout.merge (layout.buddies factor) = .ok outcome.layout := by
  by_cases idle : layout.isEmpty = true ∨ (factor.copies.toNat : Int) = 1
  · rw [buddies_eq_nil_of_idle rfl idle]
    cases empty : layout.isEmpty with
    | true =>
        simp only [expand, empty, if_true] at made
        cases Except.ok.inj made
        rfl
    | false =>
        have one : (factor.copies.toNat : Int) = 1 := by
          simpa [empty] using idle
        have noStandbys : factor.hasStandbys = false := by
          rw [← Bool.not_eq_true, ReplicationFactor.hasStandbys_iff]
          omega
        simp only [expand, empty, noStandbys, Bool.not_false, if_true,
          Bool.false_eq_true, if_false] at made
        cases Except.ok.inj made
        rfl
  · obtain ⟨notEmpty, several⟩ := not_or.mp idle
    have nonempty : layout.isEmpty = false := Bool.eq_false_iff.mpr notEmpty
    have one := factor.atLeastOne
    have standbys : factor.hasStandbys = true :=
      ReplicationFactor.hasStandbys_iff.mpr (by omega)
    cases valid : layout.validate with
    | error fault =>
        simp [expand, nonempty, standbys, valid] at made
    | ok =>
        rw [← map_layout_expand nonempty standbys valid, made]
        rfl

theorem stored_of_expand {outcome : Outcome}
    (made : layout.expand factor = .ok outcome) :
    outcome.layout.stored =
      layout.stored.putAll (layout.stored.buddies factor) := by
  rw [stored_of_merge (merge_buddies_of_expand made), stored_buddies]

end Layout

end WarmStandby
