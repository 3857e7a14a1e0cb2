import WarmStandby.Layout
import WarmStandby.Wire.Quoted

/-!
# Encoding the model

Values are written as objects with their fields in a fixed order, tasks by name
and containers by id.  The same value is written either on one line without
spaces, or with each item on a line of its own, two spaces deeper than the
brackets around it.
-/

set_option autoImplicit false

namespace WarmStandby.Wire

inductive Style where
  | compact
  | indented
deriving DecidableEq, Repr

namespace Style

/-- What stands in front of an item, `depth` brackets deep. -/
def lineBreak : Style → Nat → List Char
  | compact, _ => []
  | indented, depth => '\n' :: List.replicate (2 * depth) ' '

def colon : Style → List Char
  | compact => [':']
  | indented => [':', ' ']

end Style

/-- Writes a value that stands `depth` brackets deep. -/
abbrev Writer : Type := Style → Nat → List Char

/-- Writes the items in brackets.  Brackets without items stay on one line. -/
def writeItems (opening closing : Char) (items : List Writer) : Writer :=
  fun style depth =>
    match items with
    | [] => [opening, closing]
    | first :: rest =>
        opening :: (style.lineBreak (depth + 1) ++ first style (depth + 1)
          ++ rest.flatMap (fun item =>
            ',' :: (style.lineBreak (depth + 1) ++ item style (depth + 1)))
          ++ style.lineBreak depth ++ [closing])

def writeString (value : String) : Writer := fun _ _ => quote value.toList

def writeNatural (value : Nat) : Writer := fun _ _ => Decimal.digits value

def writeList (items : List Writer) : Writer := writeItems '[' ']' items

def writeMember (key : String) (value : Writer) : Writer := fun style depth =>
  quote key.toList ++ style.colon ++ value style depth

def writeObject (members : List (String × Writer)) : Writer :=
  writeItems '\x7b' '\x7d'
    (members.map (fun (key, value) => writeMember key value))

/-! ## The model -/

def writePartition (partition : Partition) : Writer :=
  writeObject
    [("system", writeString partition.system),
     ("stream", writeString partition.stream),
     ("partition", writeNatural partition.number.toNat)]

def writeRole (role : Role) : Writer := writeString role.word

def writeTask (task : Task) : Writer :=
  writeObject
    [("task-name", writeString task.name),
     ("partitions", writeList (task.partitions.toList.map writePartition)),
     ("changelog-partition", writeNatural task.changelog.toNat),
     ("role", writeRole task.role)]

def writeContainer (container : Container) : Writer :=
  writeObject
    [("id", writeString container.id),
     ("tasks", writeObject
       (container.tasks.toList.map (fun task => (task.name, writeTask task))))]

def writeLayout (layout : Layout) : Writer :=
  writeObject
    (layout.toList.map (fun container => (container.id, writeContainer container)))

/-! ## Texts -/

def compactText (writer : Writer) : String :=
  String.ofList (writer .compact 0)

def indentedText (writer : Writer) : String :=
  String.ofList (writer .indented 0)

def encodeContainer (container : Container) : String :=
  compactText (writeContainer container)

def encodeLayout (layout : Layout) : String :=
  compactText (writeLayout layout)

end WarmStandby.Wire
