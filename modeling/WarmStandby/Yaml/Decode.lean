import WarmStandby.Layout
import WarmStandby.Yaml.Node

/-!
# Values of YAML documents

The model is read from a document by the same fields as from its wire form.  An
unquoted number counts as a string where a string is asked for, and an absent
node as an empty collection.
-/

set_option autoImplicit false

namespace WarmStandby.Yaml

/-! ## Integers -/

/-- Reads digits without a sign: hexadecimal, octal or binary ones behind their
mark, or decimal ones without leading zeros. -/
def magnitude? : List Char → Option Nat
  | '0' :: 'x' :: digits => Radix.number? 16 digits
  | '0' :: 'o' :: digits => Radix.number? 8 digits
  | '0' :: 'b' :: digits => Radix.number? 2 digits
  | ['0'] => some 0
  | '0' :: _ => none
  | digits => Radix.number? 10 digits

def integer? : List Char → Option Int
  | '-' :: digits => (magnitude? digits).map (fun number => -(number : Int))
  | '+' :: digits => (magnitude? digits).map (fun number => (number : Int))
  | digits => (magnitude? digits).map (fun number => (number : Int))

namespace Node

def int32? : Node → Option Int
  | .scalar true text =>
      (integer? text.toList).filter
        (fun number => decide (Decimal.IsInt32 number))
  | _ => none

def word? : Node → Option UInt32
  | .scalar true text =>
      if text.startsWith "-" then none
      else
        match integer? text.toList with
        | some number =>
            if number < 4294967296 then some (UInt32.ofNat number.toNat)
            else none
        | none => none
  | _ => none

def string? : Node → Option String
  | .scalar _ text => some text
  | _ => none

def items? : Node → Option (List Node)
  | .list items => some items
  | .scalar true "" => some []
  | _ => none

def members? : Node → Option (List (String × Node))
  | .mapping members =>
      members.mapM (fun (key, value) =>
        key.string?.map (fun key => (key, value)))
  | .scalar true "" => some []
  | _ => none

end Node

/-! ## Records -/

/-- The members of a record.  Each known field comes at most once. -/
def fields? (known : List String) (node : Node) :
    Option (List (String × Node)) := do
  let members ← node.members?
  let named := members.filter (fun (key, _) => known.contains key)
  if (named.map Prod.fst).Nodup then return named else none

def optional? {Value : Type} (fields : List (String × Node)) (field : String)
    (read? : Node → Option Value) (absent : Value) : Option Value :=
  match fields.lookup field with
  | some node => read? node
  | none => some absent

def required? {Value : Type} (fields : List (String × Node)) (field : String)
    (read? : Node → Option Value) : Option Value :=
  match fields.lookup field with
  | some node => read? node
  | none => none

namespace Node

def partition? (node : Node) : Option Partition := do
  let fields ← fields? ["system", "stream", "partition"] node
  let system ← required? fields "system" string?
  let stream ← required? fields "stream" string?
  let number ← required? fields "partition" word?
  return ⟨system, stream, number⟩

def partitions? (node : Node) : Option PartitionSet := do
  let items ← node.items?
  let partitions ← items.mapM partition?
  return .ofList partitions

def role? (node : Node) : Option Role := do
  let word ← node.string?
  if word = "active" then return .active
  else if word = "standby" ∨ word = "standbyState" then return .standby
  else none

def task? (node : Node) : Option Task := do
  let fields ←
    fields? ["task-name", "partitions", "changelog-partition", "role"] node
  let name ← required? fields "task-name" string?
  let partitions ← required? fields "partitions" partitions?
  let changelog ← required? fields "changelog-partition" word?
  let role ← optional? fields "role" role? .active
  return ⟨name, partitions, changelog, role⟩

def entries? {Value : Type} (read? : Node → Option Value) (node : Node) :
    Option (Entries Value) := do
  let members ← node.members?
  let entries ← members.mapM (fun (key, value) =>
    (read? value).map (fun value => (key, value)))
  return .ofList entries

def container? (node : Node) : Option Container := do
  let fields ← fields? ["id", "tasks"] node
  let id ← required? fields "id" string?
  let entries ← optional? fields "tasks" (entries? task?) .empty
  (Container.ofEntries id entries).toOption

def layout? (node : Node) : Option Layout := do
  let entries ← entries? container? node
  (Layout.ofEntries entries).toOption

end Node

/-- Reads a layout.  A text without a document is the empty layout. -/
def decodeLayout? (text : String) : Option Layout := do
  let document ← readDocument? text.toList
  match document with
  | none => return .empty
  | some node => node.layout?

end WarmStandby.Yaml
