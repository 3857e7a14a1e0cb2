import WarmStandby.Decimal

/-!
# Canonical numerals are read back

The canonical numeral of a number is a non-empty run of digits, holds no dash
and no leading zero, and denotes the number that it was written for.
-/

set_option autoImplicit false

namespace WarmStandby.Decimal

theorem isNumeral_digits (number : Nat) : IsNumeral (digits number) :=
  ⟨Nat.toDigits_ne_nil, fun _ member =>
    Nat.isDigit_of_mem_toDigits (by decide) (by decide) member⟩

theorem dash_not_mem_of_isNumeral {numeral : List Char}
    (isNumeral : IsNumeral numeral) : '-' ∉ numeral := by
  intro member
  have dashIsDigit := isNumeral.2 '-' member
  contradiction

theorem exists_digits_eq_cons (number : Nat) :
    ∃ first rest, digits number = first :: rest ∧ first.isDigit = true := by
  obtain ⟨notEmpty, allDigits⟩ := isNumeral_digits number
  obtain ⟨first, rest, written⟩ := List.exists_cons_of_ne_nil notEmpty
  exact ⟨first, rest, written, allDigits first (by simp [written])⟩

theorem digitChar_ne_zero :
    ∀ digit < 10, 0 < digit → Nat.digitChar digit ≠ '0' := by
  decide

theorem exists_digits_eq_cons_of_pos {number : Nat} (positive : 0 < number) :
    ∃ first rest, digits number = first :: rest ∧ first ≠ '0' := by
  induction number using Nat.strongRecOn with
  | ind number inductionHypothesis =>
      by_cases single : number < 10
      · refine ⟨Nat.digitChar number, [], Nat.toDigits_of_lt_base single, ?_⟩
        exact digitChar_ne_zero number single positive
      · have split : digits number =
            digits (number / 10) ++ [Nat.digitChar (number % 10)] :=
          Nat.toDigits_of_base_le (by decide) (by omega)
        obtain ⟨first, rest, shorter, notZero⟩ :=
          inductionHypothesis (number / 10) (by omega) (by omega)
        rw [split, shorter]
        exact ⟨first, _, rfl, notZero⟩

@[simp]
theorem value_digits (number : Nat) : value (digits number) = number :=
  Nat.ofDigitChars_ten_toDigits

@[simp]
theorem natural?_digits (number : Nat) :
    natural? (digits number) = some number := by
  rw [natural?, if_pos (isNumeral_digits number), value_digits]

@[simp]
theorem word?_digits (number : UInt32) :
    word? (digits number.toNat) = some number := by
  have inRange : number.toNat < UInt32.size := number.toNat_lt_size
  simp [word?, inRange]

@[simp]
theorem toList_text (number : Nat) : (text number).toList = digits number :=
  String.toList_ofList

end WarmStandby.Decimal
