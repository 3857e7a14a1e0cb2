import Mathlib.Order.Basic
import WarmStandby.Naming
import WarmStandby.Proofs.DecimalNumerals

/-!
# Replica names are read back

A text that was rendered from a base and a replica index is split at its last
dash into just these two, because a numeral holds no dash.  Hence two bases and
indices never share a text, whatever dashes and digits the bases hold.  The one
text that its reader refuses is that of a buddy of the container with the empty
id.
-/

set_option autoImplicit false

namespace WarmStandby

/-! ## Splitting at the last dash -/

namespace ReplicaText

theorem splitAtLastDash?_eq_none {text : List Char} (noDash : '-' ∉ text) :
    splitAtLastDash? text = none := by
  induction text with
  | nil => rfl
  | cons character rest inductionHypothesis =>
      have notDash : character ≠ '-' := by
        intro same
        rw [same] at noDash
        exact noDash List.mem_cons_self
      have restNoDash : '-' ∉ rest := fun member =>
        noDash (List.mem_cons_of_mem _ member)
      simp [splitAtLastDash?, inductionHypothesis restNoDash, notDash]

theorem splitAtLastDash?_append {suffix : List Char} (noDash : '-' ∉ suffix)
    (base : List Char) :
    splitAtLastDash? (base ++ '-' :: suffix) = some (base, suffix) := by
  induction base with
  | nil => simp [splitAtLastDash?, splitAtLastDash?_eq_none noDash]
  | cons character rest inductionHypothesis =>
      simp [splitAtLastDash?, inductionHypothesis]

theorem toList_render (base : String) (replica : UInt32) :
    (render base replica).toList =
      base.toList ++ '-' :: Decimal.digits replica.toNat := by
  simp [render, separator]

@[simp]
theorem read?_render (base : String) (replica : UInt32) :
    read? (render base replica).toList = some (base, replica) := by
  have noDash := Decimal.dash_not_mem_of_isNumeral
    (Decimal.isNumeral_digits replica.toNat)
  rw [toList_render, read?, splitAtLastDash?_append noDash]
  simp

theorem render_injective {leftBase rightBase : String}
    {leftReplica rightReplica : UInt32}
    (same : render leftBase leftReplica = render rightBase rightReplica) :
    leftBase = rightBase ∧ leftReplica = rightReplica := by
  have readSame := congrArg (fun text => read? text.toList) same
  simpa using readSame

end ReplicaText

/-! ## Buddy containers -/

namespace BuddyId

theorem text_injective : Function.Injective text := by
  intro left right same
  obtain ⟨sameActive, sameReplica⟩ := ReplicaText.render_injective same
  cases left
  cases right
  simp_all

theorem parse?_text {buddy : BuddyId} (named : buddy.active ≠ "") :
    parse? buddy.text = some buddy := by
  simp [parse?, text, named]

theorem parse?_text_of_active_empty {buddy : BuddyId}
    (unnamed : buddy.active = "") : parse? buddy.text = none := by
  simp [parse?, text, unnamed]

/-- A buddy comes before another if its active container does, or if they share
it and its index is the smaller one. -/
theorem compare_eq_lt_iff {left right : BuddyId} :
    compare left right = .lt ↔
      left.active < right.active ∨
        left.active = right.active ∧ left.replica < right.replica := by
  have unfolded : compare left right =
      (compare left.active right.active).then
        (compare left.replica right.replica) := rfl
  rw [unfolded, Ordering.then_eq_lt, Std.LawfulEqOrd.compare_eq_iff_eq]
  exact or_congr compareOfLessAndEq_eq_lt
    (and_congr_right' compareOfLessAndEq_eq_lt)

instance : Std.LawfulEqOrd BuddyId where
  eq_of_compare := by
    intro left right same
    obtain ⟨leftActive, leftReplica⟩ := left
    obtain ⟨rightActive, rightReplica⟩ := right
    obtain ⟨sameActive, sameReplica⟩ := Ordering.then_eq_eq.mp same
    have activeExact : leftActive = rightActive :=
      Std.LawfulEqOrd.eq_of_compare sameActive
    have replicaExact : leftReplica = rightReplica :=
      Std.LawfulEqOrd.eq_of_compare sameReplica
    rw [activeExact, replicaExact]

end BuddyId

/-! ## Standby tasks -/

theorem isReserved_iff {name : TaskName} :
    isReserved name = true ↔ ∃ rest : String, name = standbyMark ++ rest := by
  rw [isReserved, List.isPrefixOf_iff_prefix]
  constructor
  · intro marked
    obtain ⟨rest, split⟩ := marked
    refine ⟨String.ofList rest, String.toList_inj.mp ?_⟩
    simp [split]
  · intro marked
    obtain ⟨rest, split⟩ := marked
    exact ⟨rest.toList, by simp [split]⟩

namespace StandbyName

theorem text_eq (task : TaskName) (replica : UInt32) :
    text ⟨task, replica⟩ =
      "Standby " ++ task ++ "-" ++ Decimal.text replica.toNat := by
  simp only [text, ReplicaText.render, ReplicaText.separator, standbyMark,
    String.append_assoc]

theorem isReserved_text (name : StandbyName) : isReserved name.text = true :=
  isReserved_iff.mpr ⟨_, rfl⟩

@[simp]
theorem parse?_text (name : StandbyName) : parse? name.text = some name := by
  have afterMark :
      name.text.toList.drop standbyMark.length =
        (ReplicaText.render name.active name.replica).toList := by
    rw [text, String.toList_append, ← String.length_toList, List.drop_left]
  rw [parse?, if_pos name.isReserved_text, afterMark, ReplicaText.read?_render]

theorem parse?_eq_none_of_not_reserved {name : TaskName}
    (unreserved : isReserved name = false) : parse? name = none := by
  simp [parse?, unreserved]

theorem text_injective : Function.Injective text := by
  intro left right same
  have parsed := congrArg parse? same
  simpa using parsed

end StandbyName

end WarmStandby
