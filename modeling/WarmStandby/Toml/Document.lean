import WarmStandby.Toml.Scalar
import WarmStandby.Toml.Table

/-!
# TOML documents

A document is a list of statements, one to a line: headers, which open a table,
and assignments to the table opened last.  A document is refused as a whole if
one of its statements is.
-/

set_option autoImplicit false

namespace WarmStandby.Toml

/-! ## Space -/

def skipBlanks (text : List Char) : List Char :=
  text.dropWhile (fun character => character = ' ' || character = '\t')

def skipComment (text : List Char) : List Char :=
  match text with
  | '#' :: rest => rest.dropWhile isPrintable
  | text => text

def finishLine? (text : List Char) : Option (List Char) :=
  match skipComment (skipBlanks text) with
  | [] => some []
  | rest => dropBreak? rest

def skipLines (text : List Char) : List Char :=
  go (text.length + 1) text
where
  go : Nat → List Char → List Char
    | 0, text => text
    | fuel + 1, text =>
        let text := skipComment (skipBlanks text)
        match dropBreak? text with
        | some rest => go fuel rest
        | none => text

/-! ## Keys -/

def isBareCharacter (character : Char) : Bool :=
  character.isAlphanum || character = '_' || character = '-'

def readKeyPart? (text : List Char) : Option (String × List Char) :=
  match text with
  | '"' :: rest =>
      (readString? '"' rest).map
        (fun (part, rest) => (String.ofList part, rest))
  | '\x27' :: rest =>
      (readString? '\x27' rest).map
        (fun (part, rest) => (String.ofList part, rest))
  | text =>
      let part := text.takeWhile isBareCharacter
      if part.isEmpty then none
      else some (String.ofList part, text.drop part.length)

/-- The most parts of a key, and the most values inside of each other. -/
def nestingLimit : Nat := 79

def readKey? (text : List Char) : Option (List String × List Char) :=
  go nestingLimit text
where
  go : Nat → List Char → Option (List String × List Char)
    | 0, _ => none
    | fuel + 1, text => do
        let (part, rest) ← readKeyPart? (skipBlanks text)
        match skipBlanks rest with
        | '.' :: rest =>
            let (parts, rest) ← go fuel rest
            return (part :: parts, rest)
        | rest => return ([part], rest)

/-! ## Values -/

abbrev ValueReader : Type := List Char → Option (Item × List Char)

def skipItems? (readItem : ValueReader) : Nat → List Char → Option (List Char)
  | 0, _ => none
  | fuel + 1, text =>
      match skipLines text with
      | ']' :: rest => some rest
      | text => do
          let (_, rest) ← readItem text
          match skipLines rest with
          | ',' :: rest => skipItems? readItem fuel rest
          | ']' :: rest => some rest
          | _ => none

def readAssignment? (readItem : ValueReader) (text : List Char) :
    Option ((List String × Item) × List Char) := do
  let (key, rest) ← readKey? text
  match rest with
  | '=' :: rest =>
      let (item, rest) ← readItem (skipBlanks rest)
      return ((key, item), rest)
  | _ => none

def readInline? (readItem : ValueReader) :
    Nat → Members → List Char → Option (Members × List Char)
  | 0, _, _ => none
  | fuel + 1, members, text => do
      let ((key, item), rest) ← readAssignment? readItem text
      let members ← members.assign item key
      match skipBlanks rest with
      | ',' :: rest => readInline? readItem fuel members rest
      | '\x7d' :: rest => some (members, rest)
      | _ => none

/-- Reads a value that may hold values up to `depth` deep. -/
def readValue? : Nat → ValueReader
  | _, '"' :: '"' :: '"' :: rest =>
      (skipLongString? '"' rest).map (fun rest => (.value none, rest))
  | _, '\x27' :: '\x27' :: '\x27' :: rest =>
      (skipLongString? '\x27' rest).map (fun rest => (.value none, rest))
  | _, '"' :: rest =>
      (readString? '"' rest).map (fun (_, rest) => (.value none, rest))
  | _, '\x27' :: rest =>
      (readString? '\x27' rest).map (fun (_, rest) => (.value none, rest))
  | depth + 1, '[' :: rest =>
      (skipItems? (readValue? depth) (rest.length + 1) rest).map
        (fun rest => (.value none, rest))
  | depth + 1, '\x7b' :: rest =>
      match skipBlanks rest with
      | '\x7d' :: rest => some (.table .header [], rest)
      | inner =>
          (readInline? (readValue? depth) (rest.length + 1) [] inner).map
            (fun (members, rest) => (.table .header members, rest))
  | _, text =>
      let (word, rest) := splitWord text
      (scalarOfWord? word).map (fun number => (.value number, rest))

/-! ## Statements -/

/-- A document as far as it has been read: its members, and the path of the
table opened last. -/
structure Document where
  members : Members
  path : List String

def Document.readHeader? (document : Document) (text : List Char) :
    Option (Document × List Char) := do
  let (inList, text) := match text with
    | '[' :: rest => (true, rest)
    | text => (false, text)
  let (path, rest) ← readKey? text
  let rest ← match inList, rest with
    | true, ']' :: ']' :: rest => some rest
    | false, ']' :: rest => some rest
    | _, _ => none
  let members ← document.members.openTable inList path
  let rest ← finishLine? rest
  return (⟨members, path⟩, rest)

/-- Reads an assignment to the table opened last.  The value in braces is a
closed one there. -/
def Document.readStatement? (document : Document) (text : List Char) :
    Option (Document × List Char) := do
  let ((key, item), rest) ← readAssignment? (readValue? nestingLimit) text
  let closed := match item with
    | .value number => Item.value number
    | _ => Item.value none
  let members ← document.members.update (Members.assign closed key) document.path
  let rest ← finishLine? rest
  return ({ document with members }, rest)

def readStatements? : Nat → Document → List Char → Option Members
  | 0, _, _ => none
  | fuel + 1, document, text =>
      match skipLines text with
      | [] => some document.members
      | '[' :: rest =>
          match document.readHeader? rest with
          | some (document, rest) => readStatements? fuel document rest
          | none => none
      | text =>
          match document.readStatement? text with
          | some (document, rest) => readStatements? fuel document rest
          | none => none

def readDocument? (text : List Char) : Option Members :=
  let text := match text with
    | '\ufeff' :: rest => rest
    | text => text
  readStatements? (text.length + 1) ⟨[], []⟩ text

end WarmStandby.Toml
