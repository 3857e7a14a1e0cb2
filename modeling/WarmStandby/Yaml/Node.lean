import WarmStandby.Yaml.Scalar

/-!
# YAML documents

A document is a node: a scalar, a list or a mapping.  Collections are written in
brackets, or as blocks whose parts stand in one column.  Anchors, tags, block
scalars and explicit keys are not read.

All readers here are given fuel, of which every nested call takes one unit.  No
more than three calls are nested for one character, so four units for each are
enough.
-/

set_option autoImplicit false

namespace WarmStandby.Yaml

inductive Node where
  | scalar (plain : Bool) (text : String)
  | list (items : List Node)
  | mapping (members : List (Node × Node))

namespace Node

def absent : Node := .scalar true ""

end Node

/-! ## Nodes on one line, and nodes in brackets -/

def readScalar? (bracketed : Bool) (indentation : Nat) (cursor : Cursor) :
    Option (Node × Cursor) :=
  match cursor.rest with
  | '"' :: _ =>
      (readQuoted? true cursor.next).map
        (fun (text, behind) => (.scalar false (String.ofList text), behind))
  | '\x27' :: _ =>
      (readQuoted? false cursor.next).map
        (fun (text, behind) => (.scalar false (String.ofList text), behind))
  | rest =>
      if startsPlain bracketed rest then
        (readPlain? bracketed indentation cursor).map
          (fun (text, behind) => (.scalar true (String.ofList text), behind))
      else none

mutual

def readFlow? : Nat → Bool → Nat → Cursor → Option (Node × Cursor)
  | 0, _, _, _ => none
  | fuel + 1, bracketed, indentation, cursor =>
      match cursor.rest with
      | '[' :: _ =>
          (readFlowItems? fuel indentation true cursor.behindMark).map
            (fun (items, behind) => (.list items, behind))
      | '\x7b' :: _ =>
          (readFlowMembers? fuel indentation true cursor.behindMark).map
            (fun (members, behind) => (.mapping members, behind))
      | _ => readScalar? bracketed indentation cursor

def readFlowItems? : Nat → Nat → Bool → Cursor → Option (List Node × Cursor)
  | 0, _, _, _ => none
  | fuel + 1, indentation, first, cursor =>
      let cursor := cursor.toToken true
      if cursor.atMarker then none
      else
        match first, cursor.rest with
        | _, ']' :: _ => some ([], cursor.behindMark)
        | false, ',' :: _ =>
            let cursor := cursor.behindMark.toToken true
            match cursor.rest with
            | ']' :: _ => some ([], cursor.behindMark)
            | _ => readFlowItem? fuel indentation cursor
        | true, _ => readFlowItem? fuel indentation cursor
        | false, _ => none

/-- Reads an item of a list in brackets, and the items behind it.  An item with
a value is a mapping of one member. -/
def readFlowItem? : Nat → Nat → Cursor → Option (List Node × Cursor)
  | 0, _, _ => none
  | fuel + 1, indentation, cursor => do
      let (key, behind) ← readFlow? fuel true indentation cursor
      let colon := behind.toToken true
      if colon.atColon true then
        if colon.line = cursor.line then
          let (value, behind) ← readFlowValue? fuel indentation colon.behindMark
          let (items, last) ← readFlowItems? fuel indentation false behind
          return (.mapping [(key, value)] :: items, last)
        else none
      else
        let (items, last) ← readFlowItems? fuel indentation false behind
        return (key :: items, last)

def readFlowValue? : Nat → Nat → Cursor → Option (Node × Cursor)
  | 0, _, _ => none
  | fuel + 1, indentation, cursor =>
      let cursor := cursor.toToken true
      match cursor.rest with
      | ',' :: _ => some (.absent, cursor)
      | ']' :: _ => some (.absent, cursor)
      | '\x7d' :: _ => some (.absent, cursor)
      | _ =>
          if cursor.atMarker then none
          else readFlow? fuel true indentation cursor

def readFlowMembers? :
    Nat → Nat → Bool → Cursor → Option (List (Node × Node) × Cursor)
  | 0, _, _, _ => none
  | fuel + 1, indentation, first, cursor =>
      let cursor := cursor.toToken true
      if cursor.atMarker then none
      else
        match first, cursor.rest with
        | _, '\x7d' :: _ => some ([], cursor.behindMark)
        | false, ',' :: _ =>
            let cursor := cursor.behindMark.toToken true
            match cursor.rest with
            | '\x7d' :: _ => some ([], cursor.behindMark)
            | _ => readFlowMember? fuel indentation cursor
        | true, _ => readFlowMember? fuel indentation cursor
        | false, _ => none

def readFlowMember? :
    Nat → Nat → Cursor → Option (List (Node × Node) × Cursor)
  | 0, _, _ => none
  | fuel + 1, indentation, cursor => do
      let (key, behind) ← readFlow? fuel true indentation cursor
      let colon := behind.toToken true
      if colon.atColon true then
        if colon.line = cursor.line then
          let (value, behind) ← readFlowValue? fuel indentation colon.behindMark
          let (members, last) ← readFlowMembers? fuel indentation false behind
          return ((key, value) :: members, last)
        else none
      else
        let (members, last) ← readFlowMembers? fuel indentation false behind
        return ((key, .absent) :: members, last)

end

/-! ## Blocks -/

def colonOf? (line : Nat) (behind : Cursor) : Option Cursor :=
  let colon := behind.skip isBlank
  if colon.atColon false && colon.line == line then some colon else none

mutual

/-- Reads the node that begins here and stands right of the column before
`indentation`; if nothing does, the node is absent. -/
def readBlock? : Nat → Nat → Cursor → Option (Node × Cursor)
  | 0, _, _ => none
  | fuel + 1, indentation, cursor =>
      if cursor.atEnd || cursor.column < indentation then
        some (.absent, cursor)
      else if cursor.atDash then
        if cursor.mayOpenBlock then
          (readBlockItems? fuel cursor.column false cursor).map
            (fun (items, last) => (.list items, last))
        else none
      else do
        let (node, behind) ← readFlow? fuel false indentation cursor
        match colonOf? cursor.line behind with
        | some colon =>
            if cursor.mayOpenBlock then
              let (members, last) ←
                readBlockMembers? fuel cursor.column node colon.behindMark
              return (.mapping members, last)
            else none
        | none =>
            if (behind.skip isBlank).atColon false then none
            else return (node, behind)

/-- Reads the items of a list whose dashes stand in one column, from a dash on.
A list without an indentation of its own ends at the next key of the mapping
around it. -/
def readBlockItems? :
    Nat → Nat → Bool → Cursor → Option (List Node × Cursor)
  | 0, _, _, _ => none
  | fuel + 1, column, inMapping, cursor => do
      let inner := { cursor.next with mayOpenBlock := true }.toToken false
      let (item, behind) ← readBlock? fuel (column + 1) inner
      let cursor := behind.toToken false
      if cursor.atEnd || cursor.column < column then
        return ([item], cursor)
      else if cursor.column = column ∧ cursor.mayOpenBlock then
        if cursor.atDash then
          let (items, last) ← readBlockItems? fuel column inMapping cursor
          return (item :: items, last)
        else if inMapping then return ([item], cursor)
        else none
      else none

def readBlockMembers? :
    Nat → Nat → Node → Cursor → Option (List (Node × Node) × Cursor)
  | 0, _, _, _ => none
  | fuel + 1, column, key, cursor => do
      let inner := cursor.toToken false
      let (value, behind) ←
        if inner.line ≠ cursor.line ∧ inner.column = column ∧ inner.atDash
            ∧ !inner.atEnd then
          (readBlockItems? fuel column true inner).map
            (fun (items, last) => (Node.list items, last))
        else
          readBlock? fuel (column + 1) inner
      let cursor := behind.toToken false
      if cursor.atEnd || cursor.column < column then
        return ([(key, value)], cursor)
      else if cursor.column = column ∧ cursor.mayOpenBlock then
        let (next, behind) ← readFlow? fuel false (column + 1) cursor
        let colon ← colonOf? cursor.line behind
        let (members, last) ←
          readBlockMembers? fuel column next colon.behindMark
        return ((key, value) :: members, last)
      else none

end

/-! ## Documents -/

def isAllowed (character : Char) : Bool :=
  let code := character.toNat
  code == 9 || code == 10 || code == 13 || (0x20 ≤ code && code ≤ 0x7E)
    || code == 0x85 || (0xA0 ≤ code && code ≤ 0xFFFD) || 0x10000 ≤ code

def isFinished : Nat → Cursor → Bool
  | 0, _ => false
  | fuel + 1, cursor =>
      let cursor := cursor.toToken false
      match cursor.rest with
      | [] => true
      | '.' :: _ => cursor.atMarker && isFinished fuel (cursor.advance 3)
      | _ => false

/-- Reads a text with at most one document.  The answer is `none` for a text
that is not YAML, and `some none` for a text without a document. -/
def readDocument? (text : List Char) : Option (Option Node) :=
  if text.all isAllowed then
    let cursor := (Cursor.start text).toToken false
    let fuel := 4 * text.length + 8
    match cursor.rest with
    | [] => some none
    | _ => do
        let cursor :=
          if cursor.atMarker && cursor.rest.head? == some '-' then
            { cursor.advance 3 with mayOpenBlock := false }.toToken false
          else cursor
        let (node, behind) ← readBlock? fuel 0 cursor
        if isFinished (behind.rest.length + 1) behind then return some node
        else none
  else none

end WarmStandby.Yaml
