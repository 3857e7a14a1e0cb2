/-!
# Places in a YAML document

A cursor is a place in a document: the characters that are left, the line and
column, and whether a block collection may begin there.  The latter is so at the
start of a line and behind the dash of a list item.
-/

set_option autoImplicit false

namespace WarmStandby.Yaml

structure Cursor where
  rest : List Char
  line : Nat
  column : Nat
  mayOpenBlock : Bool

namespace Cursor

def normalize : List Char → List Char
  | '\r' :: '\n' :: rest => '\n' :: normalize rest
  | character :: rest =>
      if character = '\r' || character.toNat = 0x85
          || character.toNat = 0x2028 || character.toNat = 0x2029 then
        '\n' :: normalize rest
      else
        character :: normalize rest
  | [] => []

def start (text : List Char) : Cursor :=
  let text := match text with
    | '\ufeff' :: rest => rest
    | text => text
  ⟨normalize text, 0, 0, true⟩

def next (cursor : Cursor) : Cursor :=
  match cursor.rest with
  | '\n' :: rest => { cursor with rest, line := cursor.line + 1, column := 0 }
  | _ :: rest => { cursor with rest, column := cursor.column + 1 }
  | [] => cursor

def advance (cursor : Cursor) : Nat → Cursor
  | 0 => cursor
  | count + 1 => cursor.next.advance count

def skip (cursor : Cursor) (pass : Char → Bool) : Cursor :=
  let passed := cursor.rest.takeWhile
    (fun character => character != '\n' && pass character)
  { cursor with
    rest := cursor.rest.drop passed.length
    column := cursor.column + passed.length }

end Cursor

def isBlank (character : Char) : Bool := character = ' ' || character = '\t'

def startsBlank : List Char → Bool
  | [] => true
  | character :: _ => isBlank character || character = '\n'

namespace Cursor

/-- Whether a line of three dashes or three points, which ends a document,
begins here. -/
def atMarker (cursor : Cursor) : Bool :=
  cursor.column == 0 &&
    match cursor.rest with
    | '-' :: '-' :: '-' :: rest => startsBlank rest
    | '.' :: '.' :: '.' :: rest => startsBlank rest
    | _ => false

def atEnd (cursor : Cursor) : Bool := cursor.rest.isEmpty || cursor.atMarker

def atDash (cursor : Cursor) : Bool :=
  match cursor.rest with
  | '-' :: rest => startsBlank rest
  | _ => false

/-- Passes over space, comments and empty lines.  Tabs are passed over inside
brackets, and where no block collection may begin. -/
def toToken (cursor : Cursor) (bracketed : Bool) : Cursor :=
  go (cursor.rest.length + 1) cursor
where
  go : Nat → Cursor → Cursor
    | 0, cursor => cursor
    | fuel + 1, cursor =>
        let cursor := cursor.skip (fun character =>
          character = ' '
            || (character = '\t' && (bracketed || !cursor.mayOpenBlock)))
        let cursor := match cursor.rest with
          | '#' :: _ => cursor.skip (fun _ => true)
          | _ => cursor
        match cursor.rest with
        | '\n' :: _ =>
            go fuel
              { cursor.next with
                mayOpenBlock := !bracketed || cursor.mayOpenBlock }
        | _ => cursor

/-- Whether a value follows here: a colon, which outside of brackets stands
before a blank. -/
def atColon (cursor : Cursor) (bracketed : Bool) : Bool :=
  match cursor.rest with
  | ':' :: rest => bracketed || startsBlank rest
  | _ => false

def behindMark (cursor : Cursor) : Cursor :=
  { cursor.next with mayOpenBlock := false }

end Cursor

end WarmStandby.Yaml
