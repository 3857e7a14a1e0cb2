import WarmStandby.Decimal
import WarmStandby.Radix

/-!
# TOML scalars

Numbers, truth values, dates and times are words of letters, digits and a few
signs; strings stand between quotes.  Of a scalar only two things are of
interest: that it is well formed, and its value if it is an integer.
-/

set_option autoImplicit false

namespace WarmStandby.Toml

/-! ## Integers -/

def ungroup? (base : Nat) : List Char → Option (List Char)
  | [] => none
  | [digit] => if (Radix.digit? base digit).isSome then some [digit] else none
  | digit :: '_' :: rest =>
      if (Radix.digit? base digit).isSome then
        (ungroup? base rest).map (digit :: ·)
      else none
  | digit :: rest =>
      if (Radix.digit? base digit).isSome then
        (ungroup? base rest).map (digit :: ·)
      else none

def decimalDigits? (word : List Char) : Option (List Char) :=
  match ungroup? 10 word with
  | some ('0' :: _ :: _) => none
  | digits => digits

def fits (number : Int) : Bool :=
  Int64.minValue.toInt ≤ number && number ≤ Int64.maxValue.toInt

/-- Reads a hexadecimal, octal or binary integer behind its mark, or a decimal
one, which may have a sign. -/
def integer? (word : List Char) : Option Int :=
  let inBase (base : Nat) (word : List Char) : Option Int :=
    ((ungroup? base word).bind (Radix.number? base)).map Int.ofNat
  let decimal (word : List Char) : Option Int :=
    (decimalDigits? word).map (fun digits => (Decimal.value digits : Int))
  let number := match word with
    | '0' :: 'x' :: rest => inBase 16 rest
    | '0' :: 'o' :: rest => inBase 8 rest
    | '0' :: 'b' :: rest => inBase 2 rest
    | '-' :: rest => (decimal rest).map (fun number => -number)
    | '+' :: rest => decimal rest
    | rest => decimal rest
  number.filter fits

/-! ## Floats -/

/-- Whether digits with an exponent denote a number that rounds to infinity in
double precision. -/
def overflows (digits : List Char) (exponent : Int) : Bool :=
  let digits := digits.dropWhile (· = '0')
  let places := digits.length + exponent
  let limit := Nat.pow 2 1024 - Nat.pow 2 970
  if digits.isEmpty || places < 300 then false
  else if 400 < places then true
  else if 0 ≤ exponent then
    limit ≤ Decimal.value digits * Nat.pow 10 exponent.toNat
  else
    limit * Nat.pow 10 (-exponent).toNat ≤ Decimal.value digits

def exponent? (word : List Char) : Option Int :=
  let (negative, digits) := match word with
    | '-' :: rest => (true, rest)
    | '+' :: rest => (false, rest)
    | rest => (false, rest)
  (ungroup? 10 digits).map (fun digits =>
    if negative then -(Decimal.value digits : Int) else Decimal.value digits)

/-- Whether a word without sign is a number with a fraction or an exponent.  A
positive one must not round to infinity. -/
def isUnsignedFloat (negative : Bool) (word : List Char) : Bool :=
  let isLetter (character : Char) : Bool := character = 'e' || character = 'E'
  let mantissa := word.takeWhile (fun character => !isLetter character)
  let power := (word.drop mantissa.length).drop 1
  let hasPower := mantissa.length < word.length
  let whole := mantissa.takeWhile (· ≠ '.')
  let fraction := (mantissa.drop whole.length).drop 1
  let hasFraction := whole.length < mantissa.length
  let fractionDigits :=
    if hasFraction then ungroup? 10 fraction else some []
  let exponent := if hasPower then exponent? power else some 0
  match decimalDigits? whole, fractionDigits, exponent with
  | some whole, some fraction, some exponent =>
      (hasFraction || hasPower)
        && (negative
          || !overflows (whole ++ fraction) (exponent - fraction.length))
  | _, _, _ => false

def isFloat (word : List Char) : Bool :=
  let special (word : List Char) : Bool :=
    word == "inf".toList || word == "nan".toList
  match word with
  | '-' :: rest => special rest || isUnsignedFloat true rest
  | '+' :: rest => special rest || isUnsignedFloat false rest
  | rest => special rest || isUnsignedFloat false rest

/-! ## Dates and times -/

def fixedDigits? (count : Nat) (word : List Char) : Option (Nat × List Char) :=
  let digits := word.take count
  if digits.length = count ∧ digits.all Char.isDigit then
    some (Decimal.value digits, word.drop count)
  else none

def expect? (wanted : Char) : List Char → Option (List Char)
  | character :: rest => if character = wanted then some rest else none
  | [] => none

def isLeapYear (year : Nat) : Bool :=
  year % 4 == 0 && (year % 100 != 0 || year % 400 == 0)

def daysOfMonth (year month : Nat) : Nat :=
  if month = 2 then (if isLeapYear year then 29 else 28)
  else if month = 4 ∨ month = 6 ∨ month = 9 ∨ month = 11 then 30
  else 31

def dropDate? (word : List Char) : Option (List Char) := do
  let (year, word) ← fixedDigits? 4 word
  let word ← expect? '-' word
  let (month, word) ← fixedDigits? 2 word
  let word ← expect? '-' word
  let (day, word) ← fixedDigits? 2 word
  if 1 ≤ month ∧ month ≤ 12 ∧ 1 ≤ day ∧ day ≤ daysOfMonth year month then
    return word
  else none

def dropTime? (word : List Char) : Option (List Char) := do
  let (hour, word) ← fixedDigits? 2 word
  let word ← expect? ':' word
  let (minute, word) ← fixedDigits? 2 word
  let word ← expect? ':' word
  let (second, word) ← fixedDigits? 2 word
  if 23 < hour ∨ 59 < minute ∨ 60 < second then none
  else
    match word with
    | '.' :: rest =>
        let digits := rest.takeWhile Char.isDigit
        if digits.isEmpty then none else return rest.drop digits.length
    | rest => return rest

def isOffset (word : List Char) : Bool :=
  match word with
  | [] => true
  | sign :: rest =>
      if sign = 'Z' || sign = 'z' then rest.isEmpty
      else if sign = '+' || sign = '-' then
        (do
          let (hour, rest) ← fixedDigits? 2 rest
          let rest ← expect? ':' rest
          let (minute, rest) ← fixedDigits? 2 rest
          if hour ≤ 23 ∧ minute ≤ 59 ∧ rest.isEmpty then some () else none).isSome
      else false

def isDateTime (word : List Char) : Bool :=
  match dropDate? word with
  | some [] => true
  | some (mark :: rest) =>
      (mark = 'T' || mark = 't' || mark = ' ')
        && (match dropTime? rest with
          | some rest => isOffset rest
          | none => false)
  | none => dropTime? word == some []

/-! ## Words -/

def isWordCharacter (character : Char) : Bool :=
  character.isAlphanum || character = '+' || character = '-'
    || character = '_' || character = '.' || character = ':'

def splitWord (text : List Char) : List Char × List Char :=
  let word := text.takeWhile isWordCharacter
  let rest := text.drop word.length
  match dropDate? word, rest with
  | some [], ' ' :: digit :: _ =>
      if digit.isDigit then
        let time := (rest.drop 1).takeWhile isWordCharacter
        (word ++ ' ' :: time, (rest.drop 1).drop time.length)
      else (word, rest)
  | _, _ => (word, rest)

/-- Reads a word: the value of an integer, or `none` for another scalar. -/
def scalarOfWord? (word : List Char) : Option (Option Int) :=
  match integer? word with
  | some number => some (some number)
  | none =>
      if word == "true".toList || word == "false".toList || isFloat word
          || isDateTime word then
        some none
      else none

/-! ## Strings -/

def isPrintable (character : Char) : Bool :=
  character = '\t' || (0x20 ≤ character.toNat && character.toNat ≠ 0x7F)

def readEscape? : List Char → Option (Char × List Char)
  | 'b' :: rest => some ('\x08', rest)
  | 't' :: rest => some ('\t', rest)
  | 'n' :: rest => some ('\n', rest)
  | 'f' :: rest => some ('\x0c', rest)
  | 'r' :: rest => some ('\r', rest)
  | '"' :: rest => some ('"', rest)
  | '\\' :: rest => some ('\\', rest)
  | letter :: rest =>
      let count := if letter = 'u' then 4 else if letter = 'U' then 8 else 0
      let digits := rest.take count
      match Radix.number? 16 digits with
      | none => none
      | some code =>
          if digits.length = count ∧ code.isValidChar then
            some (Char.ofNat code, rest.drop count)
          else none
  | [] => none

def readString? (quote : Char) (text : List Char) :
    Option (List Char × List Char) :=
  go (text.length + 1) text
where
  go : Nat → List Char → Option (List Char × List Char)
    | 0, _ => none
    | fuel + 1, text =>
        match text with
        | [] => none
        | character :: rest =>
            if character = quote then some ([], rest)
            else if character = '\\' ∧ quote = '"' then do
              let (escaped, rest) ← readEscape? rest
              let (more, rest) ← go fuel rest
              return (escaped :: more, rest)
            else if isPrintable character then do
              let (more, rest) ← go fuel rest
              return (character :: more, rest)
            else none

def dropBreak? : List Char → Option (List Char)
  | '\n' :: rest => some rest
  | '\r' :: '\n' :: rest => some rest
  | _ => none

def skipFoldedLine? (text : List Char) : Option (List Char) :=
  let isSpace (character : Char) : Bool := character = ' ' || character = '\t'
  match dropBreak? (text.dropWhile isSpace) with
  | none => none
  | some rest => some (go (rest.length + 1) rest)
where
  go : Nat → List Char → List Char
    | 0, text => text
    | fuel + 1, text =>
        match dropBreak? text with
        | some rest => go fuel rest
        | none =>
            match text with
            | ' ' :: rest => go fuel rest
            | '\t' :: rest => go fuel rest
            | _ => text

/-- Passes over a string of several lines up to its three closing quotes, in
front of which two more may stand. -/
def skipLongString? (quote : Char) (text : List Char) : Option (List Char) :=
  go (text.length + 1) text
where
  go : Nat → List Char → Option (List Char)
    | 0, _ => none
    | fuel + 1, text =>
        match text with
        | [] => none
        | character :: rest =>
            if character = quote then
              let run := text.takeWhile (· = quote)
              if run.length < 3 then go fuel (text.drop run.length)
              else some (text.drop (min run.length 5))
            else if character = '\\' ∧ quote = '"' then
              match skipFoldedLine? rest with
              | some rest => go fuel rest
              | none =>
                  match readEscape? rest with
                  | some (_, rest) => go fuel rest
                  | none => none
            else
              match dropBreak? text with
              | some rest => go fuel rest
              | none => if isPrintable character then go fuel rest else none

end WarmStandby.Toml
