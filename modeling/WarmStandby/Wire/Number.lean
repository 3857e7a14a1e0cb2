import WarmStandby.Decimal

/-!
# Numbers

A number of the wire form has an integer part without leading zeros, and may
have a sign, a fraction and an exponent.  Only integers written without fraction
and exponent are of use to the model.  All other numbers are read in double
precision, and one that exceeds its range is not a number.
-/

set_option autoImplicit false

namespace WarmStandby.Wire

structure Numeral where
  negative : Bool
  integer : List Char
  fraction : Option (List Char)
  exponent : Option (Bool × List Char)

namespace Numeral

def splitDigits (text : List Char) : List Char × List Char :=
  (text.takeWhile Char.isDigit, text.dropWhile Char.isDigit)

def splitSomeDigits? (text : List Char) : Option (List Char × List Char) :=
  match splitDigits text with
  | ([], _) => none
  | parts => some parts

def splitInteger? (text : List Char) : Option (List Char × List Char) :=
  match splitDigits text with
  | ([], _) => none
  | (['0'], rest) => some (['0'], rest)
  | ('0' :: _, _) => none
  | parts => some parts

def splitFraction? :
    List Char → Option (Option (List Char) × List Char)
  | '.' :: rest =>
      (splitSomeDigits? rest).map (fun (digits, rest) => (some digits, rest))
  | text => some (none, text)

def splitExponent? (text : List Char) :
    Option (Option (Bool × List Char) × List Char) :=
  match text with
  | letter :: rest =>
      if letter = 'e' ∨ letter = 'E' then
        let (negative, rest) := match rest with
          | '-' :: rest => (true, rest)
          | '+' :: rest => (false, rest)
          | rest => (false, rest)
        (splitSomeDigits? rest).map
          (fun (digits, rest) => (some (negative, digits), rest))
      else some (none, text)
  | [] => some (none, [])

def split? (text : List Char) : Option (Numeral × List Char) := do
  let (negative, text) := match text with
    | '-' :: rest => (true, rest)
    | text => (false, text)
  let (integer, text) ← splitInteger? text
  let (fraction, text) ← splitFraction? text
  let (exponent, text) ← splitExponent? text
  return (⟨negative, integer, fraction, exponent⟩, text)

/-! ## The range of double precision -/

/-- The nearest number of at most 53 significant bits; of two the even one. -/
def roundToDouble (number : Nat) : Nat :=
  let scale := Nat.pow 2 (number.log2 - 52)
  let quotient := number / scale
  let remainder := number % scale
  if scale < 2 * remainder ∨ (scale = 2 * remainder ∧ quotient % 2 = 1) then
    (quotient + 1) * scale
  else
    quotient * scale

def absorb (significand : Nat) : List Char → Nat × List Char
  | [] => (significand, [])
  | digit :: rest =>
      let next := significand * 10 + (digit.toNat - '0'.toNat)
      if next < UInt64.size then absorb next rest else (significand, digit :: rest)

/-- Whether a number exceeds the range of double precision, read as a
significand of 64 bits times a power of ten. -/
def exceedsDouble (numeral : Numeral) : Bool :=
  let (whole, dropped) := absorb 0 numeral.integer
  let fraction := numeral.fraction.getD []
  let (significand, unused) := absorb whole fraction
  let shift : Int := match numeral.exponent with
    | none => 0
    | some (true, digits) => -(Decimal.value digits : Int)
    | some (false, digits) => Decimal.value digits
  let exponent : Int :=
    dropped.length - (fraction.length - unused.length : Nat) + shift
  significand != 0 && (308 < exponent
    || (0 ≤ exponent
      && Nat.pow 2 1024 - Nat.pow 2 970
        ≤ roundToDouble significand
          * roundToDouble (Nat.pow 10 exponent.toNat)))

end Numeral

/-! ## Integers -/

inductive Number where
  | natural (value : Nat)
  | negative
  | inexact
  | outOfRange
deriving DecidableEq, Repr

namespace Numeral

/-- Integers have to fit in 64 bits, signed if they are negative; minus zero is
not an integer. -/
def number (numeral : Numeral) : Number :=
  let magnitude := Decimal.value numeral.integer
  if numeral.fraction.isNone ∧ numeral.exponent.isNone
      ∧ !numeral.negative ∧ magnitude < UInt64.size then
    .natural magnitude
  else if numeral.fraction.isNone ∧ numeral.exponent.isNone
      ∧ numeral.negative ∧ 0 < magnitude ∧ magnitude ≤ Nat.pow 2 63 then
    .negative
  else if numeral.exceedsDouble then .outOfRange
  else .inexact

end Numeral

end WarmStandby.Wire
