/-!
# Digits in other bases

Escapes name a character by a hexadecimal number, and a setting may be written
in hexadecimal, octal or binary.  Digits above nine are letters of either case.
-/

set_option autoImplicit false

namespace WarmStandby.Radix

def hexadecimal? (digit : Char) : Option Nat :=
  if digit.isDigit then some (digit.toNat - '0'.toNat)
  else if 'a' ≤ digit ∧ digit ≤ 'f' then some (digit.toNat - 'a'.toNat + 10)
  else if 'A' ≤ digit ∧ digit ≤ 'F' then some (digit.toNat - 'A'.toNat + 10)
  else none

def digit? (base : Nat) (digit : Char) : Option Nat :=
  (hexadecimal? digit).filter (fun value => value < base)

def number? (base : Nat) (digits : List Char) : Option Nat :=
  if digits.isEmpty then none
  else
    digits.foldlM (fun number digit =>
      (digit? base digit).map (fun value => number * base + value)) 0

end WarmStandby.Radix
