import WarmStandby.Radix

/-!
# Quoted text

Strings of the wire form stand between quotes.  The quote, the backslash and the
characters below U+0020 are written as escapes, the latter by their short form
where there is one and else as `\u00xx`; every other character stands for
itself.  Reading also accepts the escape of any other character, a character
outside the basic plane being escaped as a pair of surrogates.
-/

set_option autoImplicit false

namespace WarmStandby.Wire

/-! ## Writing -/

def hexDigit (number : Nat) : Char := Nat.digitChar number

def escape (character : Char) : List Char :=
  if character = '"' then ['\\', '"']
  else if character = '\\' then ['\\', '\\']
  else if character = '\x08' then ['\\', 'b']
  else if character = '\t' then ['\\', 't']
  else if character = '\n' then ['\\', 'n']
  else if character = '\x0c' then ['\\', 'f']
  else if character = '\r' then ['\\', 'r']
  else if character.toNat < 0x20 then
    ['\\', 'u', '0', '0', hexDigit (character.toNat / 16),
      hexDigit (character.toNat % 16)]
  else [character]

def quote (text : List Char) : List Char :=
  '"' :: (text.flatMap escape ++ ['"'])

/-! ## Reading -/

def hexUnit? (first second third fourth : Char) : Option Nat :=
  Radix.number? 16 [first, second, third, fourth]

def shortEscape? : Char → Option Char
  | '"' => some '"'
  | '\\' => some '\\'
  | '/' => some '/'
  | 'b' => some '\x08'
  | 'f' => some '\x0c'
  | 'n' => some '\n'
  | 'r' => some '\r'
  | 't' => some '\t'
  | _ => none

def isLeadingSurrogate (unit : Nat) : Bool := 0xD800 ≤ unit && unit ≤ 0xDBFF

def isTrailingSurrogate (unit : Nat) : Bool := 0xDC00 ≤ unit && unit ≤ 0xDFFF

def ofSurrogates (leading trailing : Nat) : Char :=
  Char.ofNat ((leading - 0xD800) * 0x400 + (trailing - 0xDC00) + 0x10000)

/-- Reads the text up to the closing quote; the opening one has been read.
Surrogates must come in pairs. -/
def readQuoted? : List Char → Option (List Char × List Char)
  | [] => none
  | '"' :: rest => some ([], rest)
  | '\\' :: 'u' :: first :: second :: third :: fourth :: rest =>
      match hexUnit? first second third fourth with
      | none => none
      | some unit =>
          if isTrailingSurrogate unit then none
          else if isLeadingSurrogate unit then
            match rest with
            | '\\' :: 'u' :: first :: second :: third :: fourth :: rest =>
                match hexUnit? first second third fourth with
                | none => none
                | some trailing =>
                    if isTrailingSurrogate trailing then
                      (readQuoted? rest).map (fun (text, rest) =>
                        (ofSurrogates unit trailing :: text, rest))
                    else none
            | _ => none
          else
            (readQuoted? rest).map (fun (text, rest) =>
              (Char.ofNat unit :: text, rest))
  | '\\' :: letter :: rest =>
      match shortEscape? letter with
      | none => none
      | some character =>
          (readQuoted? rest).map (fun (text, rest) => (character :: text, rest))
  | character :: rest =>
      if character.toNat < 0x20 then none
      else
        (readQuoted? rest).map (fun (text, rest) => (character :: text, rest))

/-- Passes over the text up to the closing quote.  Nothing is made of it, so
surrogates need not come in pairs. -/
def skipQuoted? : List Char → Option (List Char)
  | [] => none
  | '"' :: rest => some rest
  | '\\' :: 'u' :: first :: second :: third :: fourth :: rest =>
      if (hexUnit? first second third fourth).isSome then skipQuoted? rest
      else none
  | '\\' :: letter :: rest =>
      if (shortEscape? letter).isSome then skipQuoted? rest else none
  | character :: rest =>
      if character.toNat < 0x20 then none else skipQuoted? rest

end WarmStandby.Wire
