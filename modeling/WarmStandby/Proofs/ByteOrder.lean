import Mathlib.Order.Basic
import WarmStandby.Partition

/-!
# The order of texts is the order of their bytes

Texts are compared character by character.  UTF-8 keeps that order: of two
characters the greater one has the greater bytes, whether or not both are
written in the same number of bytes.  So a roster of texts is in the order in
which their bytes would be sorted.
-/

set_option autoImplicit false

namespace WarmStandby.Text

def bytes (text : String) : List UInt8 := text.toUTF8.data.toList

theorem bytes_eq_flatMap (text : String) :
    bytes text = text.toList.flatMap String.utf8EncodeChar := by
  rw [bytes, String.toUTF8_eq_toByteArray, ← String.utf8Encode_toList,
    List.utf8Encode, List.data_toByteArray, List.toList_toArray]

theorem cons_ofNat_lt_iff {small large : Nat} (smallIsByte : small < 256)
    (largeIsByte : large < 256) {smallRest largeRest : List UInt8} :
    UInt8.ofNat small :: smallRest < UInt8.ofNat large :: largeRest ↔
      small < large ∨ small = large ∧ smallRest < largeRest := by
  have same : UInt8.ofNat small = UInt8.ofNat large ↔ small = large := by
    rw [← UInt8.toNat_inj, UInt8.toNat_ofNat_of_lt' smallIsByte,
      UInt8.toNat_ofNat_of_lt' largeIsByte]
  rw [List.cons_lt_cons_iff, UInt8.ofNat_lt_iff_lt smallIsByte largeIsByte,
    same]

/-- Numbers are compared by what is left of their last digit, then by that. -/
theorem div_lt_or_mod_lt {small large : Nat} (base : Nat)
    (before : small < large) :
    small / base < large / base ∨
      small / base = large / base ∧ small % base < large % base := by
  have smallParts := Nat.div_add_mod small base
  have largeParts := Nat.div_add_mod large base
  rcases Nat.lt_or_ge (small / base) (large / base) with less | atMost
  · exact .inl less
  · have same : small / base = large / base :=
      Nat.le_antisymm (Nat.div_le_div_right (Nat.le_of_lt before)) atMost
    rw [same] at smallParts
    exact .inr ⟨same, by omega⟩

theorem fourDigits_lt {small large : Nat} (before : small < large) :
    small / 262144 < large / 262144 ∨ small / 262144 = large / 262144 ∧
      (small / 4096 % 64 < large / 4096 % 64 ∨
        small / 4096 % 64 = large / 4096 % 64 ∧
          (small / 64 % 64 < large / 64 % 64 ∨
            small / 64 % 64 = large / 64 % 64 ∧ small % 64 < large % 64)) := by
  have quarter : ∀ value, value / 4096 / 64 = value / 262144 := fun value =>
    Nat.div_div_eq_div_mul value 4096 64
  have half : ∀ value, value / 64 / 64 = value / 4096 := fun value =>
    Nat.div_div_eq_div_mul value 64 64
  rcases div_lt_or_mod_lt 64 before with less | ⟨same, last⟩
  · rcases div_lt_or_mod_lt 64 less with less | ⟨same, last⟩
    · rw [half, half] at less
      rcases div_lt_or_mod_lt 64 less with less | ⟨same, last⟩
      · rw [quarter, quarter] at less
        exact .inl less
      · rw [quarter, quarter] at same
        exact .inr ⟨same, .inl last⟩
    · rw [half, half] at same
      exact .inr ⟨by rw [← quarter, ← quarter, same],
        .inr ⟨by rw [same], .inl last⟩⟩
  · have halfSame : small / 4096 = large / 4096 := by
      rw [← half, ← half, same]
    exact .inr ⟨by rw [← quarter, ← quarter, halfSame],
      .inr ⟨by rw [halfSame], .inr ⟨by rw [same], last⟩⟩⟩

/-- The bytes of a smaller character are smaller, whatever follows them. -/
theorem encodeChar_append_lt {left right : Char} (before : left < right)
    (leftRest rightRest : List UInt8) :
    String.utf8EncodeChar left ++ leftRest <
      String.utf8EncodeChar right ++ rightRest := by
  have values : left.val.toNat < right.val.toNat := before
  have bound : right.val.toNat < 1114112 := by
    have valid := right.valid
    rw [UInt32.isValidChar, Nat.isValidChar] at valid
    omega
  simp only [String.utf8EncodeChar]
  generalize left.val.toNat = small at *
  generalize right.val.toNat = large at *
  by_cases fourBytes : 65535 < small
  · have digits := fourDigits_lt values
    have smallFront : small / 262144 % 8 = small / 262144 := by omega
    have largeFront : large / 262144 % 8 = large / 262144 := by omega
    rw [if_neg (by omega), if_neg (by omega), if_neg (by omega),
      if_neg (by omega), if_neg (by omega), if_neg (by omega)]
    simp (disch := omega) only [List.cons_append, List.nil_append,
      cons_ofNat_lt_iff, Nat.add_lt_add_iff_right, Nat.add_right_cancel_iff,
      smallFront, largeFront]
    rcases digits with first | ⟨same, second | ⟨sameSecond, third | fourth⟩⟩
    · exact .inl first
    · exact .inr ⟨same, .inl second⟩
    · exact .inr ⟨same, .inr ⟨sameSecond, .inl third⟩⟩
    · obtain ⟨sameThird, last⟩ := fourth
      exact .inr ⟨same, .inr ⟨sameSecond, .inr ⟨sameThird, .inl last⟩⟩⟩
  · -- Otherwise the smaller character takes fewer bytes, and a lesser first
    -- one, or at most three digits decide.
    split_ifs <;>
      simp (disch := omega) only [List.cons_append, List.nil_append,
        cons_ofNat_lt_iff] <;>
      omega

theorem encodeChar_ne_nil (character : Char) :
    String.utf8EncodeChar character ≠ [] := by
  simp only [String.utf8EncodeChar]
  split_ifs <;> exact List.cons_ne_nil _ _

theorem flatMap_encodeChar_lt {left right : List Char} (before : left < right) :
    left.flatMap String.utf8EncodeChar <
      right.flatMap String.utf8EncodeChar := by
  induction left generalizing right with
  | nil =>
      cases right with
      | nil => exact absurd before (List.lt_irrefl [])
      | cons first rest =>
          rw [List.flatMap_nil, List.flatMap_cons]
          obtain ⟨byte, others, written⟩ :=
            List.exists_cons_of_ne_nil (encodeChar_ne_nil first)
          rw [written]
          exact List.nil_lt_cons byte _
  | cons leftFirst leftRest inductionHypothesis =>
      cases right with
      | nil => exact absurd before (List.not_lt_nil _)
      | cons rightFirst rightRest =>
          rw [List.flatMap_cons, List.flatMap_cons]
          rcases List.cons_lt_cons_iff.mp before with
            firstBefore | ⟨rfl, restBefore⟩
          · exact encodeChar_append_lt firstBefore _ _
          · exact List.append_left_lt (inductionHypothesis restBefore)

theorem lt_iff_bytes_lt {left right : String} :
    left < right ↔ bytes left < bytes right := by
  rw [bytes_eq_flatMap, bytes_eq_flatMap]
  constructor
  · intro before
    exact flatMap_encodeChar_lt (String.lt_iff.mp before)
  · intro before
    rcases Std.lt_trichotomy left right with isBefore | rfl | isAfter
    · exact isBefore
    · exact absurd before (List.lt_irrefl _)
    · have after := flatMap_encodeChar_lt (String.lt_iff.mp isAfter)
      exact absurd before (List.lt_asymm after)

theorem bytes_lt_of_compare {left right : String}
    (before : compare left right = .lt) : bytes left < bytes right :=
  lt_iff_bytes_lt.mp (compareOfLessAndEq_eq_lt.mp before)

end WarmStandby.Text
