import WarmStandby.Wire.Fault
import WarmStandby.Wire.Number
import WarmStandby.Wire.Quoted

/-!
# Reading values of a known form

A reader takes a value of one form off the front of a text and returns it with
the text that is left.  It goes through the text once and stops at the first
fault, so a value of the wrong form is reported even if the text after it is not
JSON.

The loops over list items and object members are given one unit of fuel per
turn.  Every turn takes at least one character, so the length of the text is
enough.
-/

set_option autoImplicit false

namespace WarmStandby.Wire

universe u

abbrev Reader (Value : Type u) : Type u :=
  List Char → Except Fault (Value × List Char)

def isSpace (character : Char) : Bool :=
  character = ' ' || character = '\n' || character = '\r' || character = '\t'

def skipSpace (text : List Char) : List Char := text.dropWhile isSpace

/-! ## Single values -/

/-- The fault of a text that begins with a value of another form than asked for,
or with no value at all.  A value without parts is read to its end first. -/
def mismatch : List Char → Fault
  | 'n' :: 'u' :: 'l' :: 'l' :: _ => .invalidType
  | 't' :: 'r' :: 'u' :: 'e' :: _ => .invalidType
  | 'f' :: 'a' :: 'l' :: 's' :: 'e' :: _ => .invalidType
  | '[' :: _ => .invalidType
  | '\x7b' :: _ => .invalidType
  | '"' :: rest =>
      match readQuoted? rest with
      | some _ => .invalidType
      | none => .malformed
  | text =>
      match Numeral.split? text with
      | some (numeral, _) =>
          match numeral.number with
          | .outOfRange => .malformed
          | _ => .invalidType
      | none => .malformed

def readRestOfString : Reader String := fun text =>
  match readQuoted? text with
  | some (characters, rest) => .ok (String.ofList characters, rest)
  | none => .error .malformed

def readString : Reader String := fun text =>
  match skipSpace text with
  | '"' :: rest => readRestOfString rest
  | other => .error (mismatch other)

def readWord : Reader UInt32 := fun text =>
  let text := skipSpace text
  match Numeral.split? text with
  | none => .error (mismatch text)
  | some (numeral, rest) =>
      match numeral.number with
      | .natural value =>
          if value < UInt32.size then .ok (UInt32.ofNat value, rest)
          else .error .invalidValue
      | .negative => .error .invalidValue
      | .inexact => .error .invalidType
      | .outOfRange => .error .malformed

def readNull : Reader Unit := fun text =>
  match skipSpace text with
  | 'n' :: 'u' :: 'l' :: 'l' :: rest => .ok ((), rest)
  | other => .error (mismatch other)

/-! ## Lists -/

inductive ListStep where
  | item (text : List Char)
  | closed (text : List Char)

/-- Steps to the next item of a list.  `first` tells that no item has been read
yet; all others follow a comma. -/
def nextItem (first : Bool) (text : List Char) : Except Fault ListStep :=
  match skipSpace text with
  | ']' :: rest => .ok (.closed rest)
  | ',' :: rest =>
      if first then .error .malformed
      else
        match skipSpace rest with
        | [] => .error .malformed
        | ']' :: _ => .error .malformed
        | item => .ok (.item item)
  | [] => .error .malformed
  | item => if first then .ok (.item item) else .error .malformed

def readItems {Value : Type u} (readItem : Reader Value) :
    Nat → Bool → Reader (List Value)
  | 0, _, _ => .error .malformed
  | fuel + 1, first, text =>
      match nextItem first text with
      | .error fault => .error fault
      | .ok (.closed rest) => .ok ([], rest)
      | .ok (.item text) =>
          match readItem text with
          | .error fault => .error fault
          | .ok (value, text) =>
              match readItems readItem fuel false text with
              | .error fault => .error fault
              | .ok (values, rest) => .ok (value :: values, rest)

def readList {Value : Type u} (readItem : Reader Value) :
    Reader (List Value) := fun text =>
  match skipSpace text with
  | '[' :: rest => readItems readItem (rest.length + 1) true rest
  | other => .error (mismatch other)

def readItemAt {Value : Type u} (readItem : Reader Value) (position : Nat) :
    Reader Value := fun text =>
  match nextItem (position == 0) text with
  | .error fault => .error fault
  | .ok (.closed _) => .error (.invalidLength position)
  | .ok (.item text) => readItem text

def closeList : Reader Unit := fun text =>
  match skipSpace text with
  | ']' :: rest => .ok ((), rest)
  | _ => .error .malformed

def readLastItem {Value : Type u} (readItem : Reader Value)
    (absent : Value) : Reader Value := fun text =>
  match nextItem false text with
  | .error fault => .error fault
  | .ok (.closed rest) => .ok (absent, rest)
  | .ok (.item text) =>
      match readItem text with
      | .error fault => .error fault
      | .ok (value, text) =>
          match closeList text with
          | .error fault => .error fault
          | .ok ((), rest) => .ok (value, rest)

/-! ## Objects -/

inductive ObjectStep where
  | key (text : List Char)
  | closed (text : List Char)

def nextKey (first : Bool) (text : List Char) : Except Fault ObjectStep :=
  match skipSpace text with
  | '\x7d' :: rest => .ok (.closed rest)
  | '"' :: rest => if first then .ok (.key rest) else .error .malformed
  | ',' :: rest =>
      if first then .error .malformed
      else
        match skipSpace rest with
        | '"' :: rest => .ok (.key rest)
        | _ => .error .malformed
  | _ => .error .malformed

/-- Reads the members of an object up to its closing brace.  `readMember` is
given what has been read so far and the key, and reads on from behind the
key. -/
def readMembers {State : Type u} (readMember : State → String → Reader State) :
    Nat → Bool → State → Reader State
  | 0, _, _, _ => .error .malformed
  | fuel + 1, first, state, text =>
      match nextKey first text with
      | .error fault => .error fault
      | .ok (.closed rest) => .ok (state, rest)
      | .ok (.key text) =>
          match readRestOfString text with
          | .error fault => .error fault
          | .ok (key, text) =>
              match readMember state key text with
              | .error fault => .error fault
              | .ok (state, text) =>
                  readMembers readMember fuel false state text

def readObject {State : Type u} (readMember : State → String → Reader State)
    (initial : State) : Reader State := fun text =>
  readMembers readMember (text.length + 1) true initial text

def readValue {Value : Type u} (readItem : Reader Value) : Reader Value :=
  fun text =>
    match skipSpace text with
    | ':' :: rest => readItem rest
    | _ => .error .malformed

/-! ## Values of no interest -/

inductive Bracket where
  | list
  | object

def skipKey (text : List Char) : Except Fault (List Char) :=
  match skipSpace text with
  | '"' :: rest =>
      match skipQuoted? rest with
      | none => .error .malformed
      | some rest =>
          match skipSpace rest with
          | ':' :: rest => .ok rest
          | _ => .error .malformed
  | _ => .error .malformed

def skipScalar : List Char → Except Fault (List Char)
  | 'n' :: 'u' :: 'l' :: 'l' :: rest => .ok rest
  | 't' :: 'r' :: 'u' :: 'e' :: rest => .ok rest
  | 'f' :: 'a' :: 'l' :: 's' :: 'e' :: rest => .ok rest
  | '"' :: rest =>
      match skipQuoted? rest with
      | some rest => .ok rest
      | none => .error .malformed
  | text =>
      match Numeral.split? text with
      | some (_, rest) => .ok rest
      | none => .error .malformed

mutual

/-- Passes over a value inside the given open brackets, and on to the end of the
outermost. -/
def skipNested : Nat → List Bracket → List Char → Except Fault (List Char)
  | 0, _, _ => .error .malformed
  | fuel + 1, outer, text =>
      match skipSpace text with
      | '[' :: rest =>
          match skipSpace rest with
          | ']' :: rest => leaveNested fuel outer rest
          | _ => skipNested fuel (.list :: outer) rest
      | '\x7b' :: rest =>
          match skipSpace rest with
          | '\x7d' :: rest => leaveNested fuel outer rest
          | _ =>
              match skipKey rest with
              | .error fault => .error fault
              | .ok rest => skipNested fuel (.object :: outer) rest
      | other =>
          match skipScalar other with
          | .error fault => .error fault
          | .ok rest => leaveNested fuel outer rest

def leaveNested : Nat → List Bracket → List Char → Except Fault (List Char)
  | 0, _, _ => .error .malformed
  | _ + 1, [], text => .ok text
  | fuel + 1, .list :: outer, text =>
      match skipSpace text with
      | ',' :: rest => skipNested fuel (.list :: outer) rest
      | ']' :: rest => leaveNested fuel outer rest
      | _ => .error .malformed
  | fuel + 1, .object :: outer, text =>
      match skipSpace text with
      | ',' :: rest =>
          match skipKey rest with
          | .error fault => .error fault
          | .ok rest => skipNested fuel (.object :: outer) rest
      | '\x7d' :: rest => leaveNested fuel outer rest
      | _ => .error .malformed

end

def skipValue : Reader Unit := fun text =>
  match skipNested (text.length + 2) [] text with
  | .error fault => .error fault
  | .ok rest => .ok ((), rest)

/-! ## Whole texts -/

def readWhole {Value : Type u} (reader : Reader Value) (text : List Char) :
    Except Fault Value :=
  match reader text with
  | .error fault => .error fault
  | .ok (value, rest) =>
      match skipSpace rest with
      | [] => .ok value
      | _ => .error .malformed

end WarmStandby.Wire
