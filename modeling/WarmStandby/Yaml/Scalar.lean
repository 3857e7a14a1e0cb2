import WarmStandby.Radix
import WarmStandby.Yaml.Cursor

/-!
# YAML scalars

A scalar is plain, or stands between single or double quotes.  It may go on over
several lines: a single line break in it stands for a space, and further ones
stand for themselves.
-/

set_option autoImplicit false

namespace WarmStandby.Yaml

/-! ## Space inside of scalars -/

/-- The space inside of a scalar: what it stands for, and the place behind it.
`folded` tells that a line has ended in it. -/
structure Gap where
  text : List Char
  folded : Bool
  behind : Cursor

def gapText (breaks : Nat) (blanks : List Char) : List Char :=
  match breaks with
  | 0 => blanks
  | 1 => [' ']
  | further + 1 => List.replicate further '\n'

def readGap? (indentation : Nat) (cursor : Cursor) : Option Gap :=
  go (cursor.rest.length + 1) 0 [] cursor
where
  go : Nat → Nat → List Char → Cursor → Option Gap
    | 0, _, _, _ => none
    | fuel + 1, breaks, blanks, cursor =>
        match cursor.rest with
        | '\n' :: _ => go fuel (breaks + 1) [] cursor.next
        | character :: _ =>
            if isBlank character then
              if breaks = 0 then
                go fuel breaks (blanks ++ [character]) cursor.next
              else if character = '\t' ∧ cursor.column < indentation then
                none
              else
                go fuel breaks [] cursor.next
            else
              some ⟨gapText breaks blanks, 0 < breaks, cursor⟩
        | [] => some ⟨gapText breaks blanks, 0 < breaks, cursor⟩

/-! ## Plain scalars -/

def isBracketMark (character : Char) : Bool :=
  character = ',' || character = '[' || character = ']'
    || character = '\x7b' || character = '\x7d'

def isIndicator (character : Char) : Bool :=
  "-?:,[]\x7b\x7d#&*!|>'\"%@`".toList.contains character

def startsPlain (bracketed : Bool) : List Char → Bool
  | [] => false
  | character :: rest =>
      if startsBlank [character] then false
      else if isIndicator character then
        (character = '-' && !startsBlank rest)
          || (!bracketed && (character = '?' || character = ':')
            && !startsBlank rest)
      else true

/-- Reads the part of a plain scalar up to the next space or to its end.
Inside brackets, a colon right before a bracket mark is at fault. -/
def plainWord? (bracketed : Bool) : List Char → Option (List Char)
  | [] => some []
  | character :: rest =>
      if startsBlank [character] then some []
      else if bracketed && isBracketMark character then some []
      else if character = ':' then
        if startsBlank rest then some []
        else
          match rest with
          | following :: _ =>
              if bracketed && (isBracketMark following || following = '?') then
                none
              else
                (plainWord? bracketed rest).map (character :: ·)
          | [] => some []
      else
        (plainWord? bracketed rest).map (character :: ·)

def readPlain? (bracketed : Bool) (indentation : Nat) (cursor : Cursor) :
    Option (List Char × Cursor) :=
  go (cursor.rest.length + 1) [] { cursor with mayOpenBlock := false }
where
  /-- Reads one word and the space behind it per unit of fuel.  `gap` is the
  space in front of the word. -/
  go : Nat → List Char → Cursor → Option (List Char × Cursor)
    | 0, _, _ => none
    | fuel + 1, gap, cursor =>
        if cursor.atMarker || cursor.rest.head? == some '#' then
          some ([], cursor)
        else
          match plainWord? bracketed cursor.rest with
          | none => none
          | some [] => some ([], cursor)
          | some word =>
              let cursor := cursor.advance word.length
              match readGap? indentation cursor with
              | none => none
              | some found =>
                  let behind :=
                    { found.behind with
                      mayOpenBlock := found.folded }
                  if !bracketed && found.folded
                      && behind.column < indentation then
                    some (gap ++ word, behind)
                  else
                    (go fuel found.text behind).map
                      (fun (text, last) => (gap ++ word ++ text, last))

/-! ## Quoted scalars -/

def character? (code : Nat) : Option Char :=
  if code.isValidChar then some (Char.ofNat code) else none

def shortEscape? (letter : Char) : Option Char :=
  ([('0', '\x00'), ('a', '\x07'), ('b', '\x08'), ('t', '\t'), ('\t', '\t'),
    ('n', '\n'), ('v', '\x0b'), ('f', '\x0c'), ('r', '\r'), ('e', '\x1b'),
    (' ', ' '), ('"', '"'), ('/', '/'), ('\\', '\\'), ('N', '\u0085'),
    ('_', '\u00a0'), ('L', '\u2028'), ('P', '\u2029')].find?
      (fun known => known.1 == letter)).map Prod.snd

def numericEscape? (letter : Char) : Option Nat :=
  if letter = 'x' then some 2
  else if letter = 'u' then some 4
  else if letter = 'U' then some 8
  else none

def readEscape? : List Char → Option (Char × Nat)
  | [] => none
  | letter :: rest =>
      match numericEscape? letter with
      | none => (shortEscape? letter).map (fun character => (character, 1))
      | some count =>
          let digits := rest.take count
          if digits.length = count then do
            let number ← Radix.number? 16 digits
            let character ← character? number
            return (character, count + 1)
          else none

def readQuoted? (double : Bool) (cursor : Cursor) :
    Option (List Char × Cursor) :=
  go (cursor.rest.length + 1) { cursor with mayOpenBlock := false }
where
  /-- Reads one character, escape or run of space per unit of fuel. -/
  go : Nat → Cursor → Option (List Char × Cursor)
    | 0, _ => none
    | fuel + 1, cursor =>
        let continueWith := fun (text : List Char) (behind : Cursor) =>
          (go fuel behind).map (fun (more, last) => (text ++ more, last))
        if cursor.atMarker then none
        else
          match cursor.rest with
          | [] => none
          | '"' :: _ =>
              if double then some ([], cursor.next)
              else continueWith ['"'] cursor.next
          | '\x27' :: rest =>
              if double then continueWith ['\x27'] cursor.next
              else if rest.head? == some '\x27' then
                continueWith ['\x27'] (cursor.advance 2)
              else some ([], cursor.next)
          | '\\' :: rest =>
              if double then
                if rest.head? == some '\n' then
                  match readGap? 0 cursor.next with
                  | none => none
                  | some gap =>
                      continueWith
                        (List.replicate (gap.behind.line - cursor.line - 1) '\n')
                        gap.behind
                else
                  match readEscape? rest with
                  | none => none
                  | some (character, count) =>
                      continueWith [character] (cursor.advance (count + 1))
              else continueWith ['\\'] cursor.next
          | character :: _ =>
              if startsBlank [character] then
                match readGap? 0 cursor with
                | none => none
                | some gap => continueWith gap.text gap.behind
              else continueWith [character] cursor.next

end WarmStandby.Yaml
