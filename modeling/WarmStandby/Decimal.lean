/-!
# Decimal numerals

Replica indices, partition numbers and replication factors are written in
canonical decimal: ASCII digits without leading zeros.  They are read from any
non-empty run of ASCII digits, so a numeral with leading zeros denotes the same
number as the canonical one.
-/

set_option autoImplicit false

namespace WarmStandby.Decimal

def digits (number : Nat) : List Char := Nat.toDigits 10 number

def text (number : Nat) : String := String.ofList (digits number)

def signedText (number : Int) : String :=
  if number < 0 then "-" ++ text number.natAbs else text number.natAbs

def IsNumeral (numeral : List Char) : Prop :=
  numeral ≠ [] ∧ ∀ digit ∈ numeral, digit.isDigit = true

instance (numeral : List Char) : Decidable (IsNumeral numeral) :=
  decidable_of_iff (numeral ≠ [] ∧ numeral.all Char.isDigit = true)
    (and_congr_right' List.all_eq_true)

def value (numeral : List Char) : Nat := Nat.ofDigitChars 10 numeral 0

def natural? (numeral : List Char) : Option Nat :=
  if IsNumeral numeral then some (value numeral) else none

def word? (numeral : List Char) : Option UInt32 :=
  match natural? numeral with
  | some number =>
      if number < UInt32.size then some (UInt32.ofNat number) else none
  | none => none

def integer? : List Char → Option Int
  | '-' :: numeral => (natural? numeral).map (fun number => -(number : Int))
  | '+' :: numeral => (natural? numeral).map (fun number => (number : Int))
  | numeral => (natural? numeral).map (fun number => (number : Int))

def IsInt32 (number : Int) : Prop := -2147483648 ≤ number ∧ number ≤ 2147483647

instance (number : Int) : Decidable (IsInt32 number) :=
  inferInstanceAs (Decidable (_ ∧ _))

/-- Reads a numeral with an optional sign that denotes an integer of 32 bits. -/
def int32? (numeral : List Char) : Option Int :=
  (integer? numeral).filter (fun number => decide (IsInt32 number))

end WarmStandby.Decimal
