import WarmStandby.Layout
import WarmStandby.Wire.Reader

/-!
# Decoding the model

A partition, a task or a container is an object, or a list of its fields in
their fixed order.  Fields that are not known are passed over, a known field
comes at most once, and only the role of a task and the tasks of a container may
be left out.  The tasks of a container and the containers of a layout are
objects by name and id.  In these the last of several members with one key
stays, and every key has to be the name or id of the value under it.
-/

set_option autoImplicit false

namespace WarmStandby.Wire

universe u

/-! ## Fields -/

def required {Value : Type u} (field : String) :
    Option Value → Except Fault Value
  | some value => .ok value
  | none => .error (.missingField field)

def readField {State Value : Type u} (field : String)
    (present : Bool) (readItem : Reader Value) (store : Value → State) :
    Reader State := fun text =>
  if present then .error (.duplicateField field)
  else
    match readValue readItem text with
    | .error fault => .error fault
    | .ok (value, rest) => .ok (store value, rest)

def ignoreField {State : Type u} (state : State) : Reader State := fun text =>
  match readValue skipValue text with
  | .error fault => .error fault
  | .ok ((), rest) => .ok (state, rest)

/-- Reads a value in either of its two forms. -/
def readRecord {Value : Type u} (readMembers readFields : Reader Value) :
    Reader Value := fun text =>
  match skipSpace text with
  | '\x7b' :: rest => readMembers rest
  | '[' :: rest => readFields rest
  | other => .error (mismatch other)

/-! ## Partitions -/

structure PartitionFields where
  system : Option String
  stream : Option String
  number : Option UInt32

namespace PartitionFields

def none : PartitionFields := ⟨.none, .none, .none⟩

def readMember (fields : PartitionFields) (key : String) :
    Reader PartitionFields :=
  if key = "system" then
    readField key fields.system.isSome readString
      (fun value => { fields with system := some value })
  else if key = "stream" then
    readField key fields.stream.isSome readString
      (fun value => { fields with stream := some value })
  else if key = "partition" then
    readField key fields.number.isSome readWord
      (fun value => { fields with number := some value })
  else
    ignoreField fields

def toPartition (fields : PartitionFields) : Except Fault Partition := do
  let system ← required "system" fields.system
  let stream ← required "stream" fields.stream
  let number ← required "partition" fields.number
  return ⟨system, stream, number⟩

end PartitionFields

def readPartition : Reader Partition :=
  readRecord
    (fun text => do
      let (fields, text) ← readObject PartitionFields.readMember .none text
      let partition ← fields.toPartition
      return (partition, text))
    (fun text => do
      let (system, text) ← readItemAt readString 0 text
      let (stream, text) ← readItemAt readString 1 text
      let (number, text) ← readItemAt readWord 2 text
      let ((), text) ← closeList text
      return (⟨system, stream, number⟩, text))

def readPartitions : Reader PartitionSet := fun text => do
  let (partitions, text) ← readList readPartition text
  return (.ofList partitions, text)

/-! ## Roles -/

def roleWords : List String := ["active", "standby", "standbyState"]

def roleOfWord (word : String) : Except Fault Role :=
  if word = "active" then .ok .active
  else if word = "standby" ∨ word = "standbyState" then .ok .standby
  else .error (.unknownVariant word roleWords)

/-- Reads a role: its word, or an object with null under the word. -/
def readRole : Reader Role := fun text =>
  match skipSpace text with
  | '"' :: rest => do
      let (word, text) ← readRestOfString rest
      let role ← roleOfWord word
      return (role, text)
  | '\x7b' :: rest => do
      let (word, text) ← readString rest
      let role ← roleOfWord word
      let ((), text) ← readValue readNull text
      match skipSpace text with
      | '\x7d' :: rest => .ok (role, rest)
      | _ => .error .malformed
  | _ => .error .malformed

/-! ## Tasks -/

structure TaskFields where
  name : Option TaskName
  partitions : Option PartitionSet
  changelog : Option UInt32
  role : Option Role

namespace TaskFields

def none : TaskFields := ⟨.none, .none, .none, .none⟩

def readMember (fields : TaskFields) (key : String) : Reader TaskFields :=
  if key = "task-name" then
    readField key fields.name.isSome readString
      (fun value => { fields with name := some value })
  else if key = "partitions" then
    readField key fields.partitions.isSome readPartitions
      (fun value => { fields with partitions := some value })
  else if key = "changelog-partition" then
    readField key fields.changelog.isSome readWord
      (fun value => { fields with changelog := some value })
  else if key = "role" then
    readField key fields.role.isSome readRole
      (fun value => { fields with role := some value })
  else
    ignoreField fields

def toTask (fields : TaskFields) : Except Fault Task := do
  let name ← required "task-name" fields.name
  let partitions ← required "partitions" fields.partitions
  let changelog ← required "changelog-partition" fields.changelog
  return ⟨name, partitions, changelog, fields.role.getD .active⟩

end TaskFields

def readTask : Reader Task :=
  readRecord
    (fun text => do
      let (fields, text) ← readObject TaskFields.readMember .none text
      let task ← fields.toTask
      return (task, text))
    (fun text => do
      let (name, text) ← readItemAt readString 0 text
      let (partitions, text) ← readItemAt readPartitions 1 text
      let (changelog, text) ← readItemAt readWord 2 text
      let (role, text) ← readLastItem readRole .active text
      return (⟨name, partitions, changelog, role⟩, text))

/-! ## Containers and layouts -/

/-- Reads an object of any keys.  The last of several values of one key
stays. -/
def readEntries {Value : Type} (readItem : Reader Value) :
    Reader (Entries Value) := fun text =>
  match skipSpace text with
  | '\x7b' :: rest =>
      readObject
        (fun entries key text => do
          let (value, text) ← readValue readItem text
          return (entries.insert (key, value), text))
        .empty rest
  | other => .error (mismatch other)

structure ContainerFields where
  id : Option ContainerId
  tasks : Option (Entries Task)

namespace ContainerFields

def none : ContainerFields := ⟨.none, .none⟩

def readMember (fields : ContainerFields) (key : String) :
    Reader ContainerFields :=
  if key = "id" then
    readField key fields.id.isSome readString
      (fun value => { fields with id := some value })
  else if key = "tasks" then
    readField key fields.tasks.isSome (readEntries readTask)
      (fun value => { fields with tasks := some value })
  else
    ignoreField fields

/-- A container whose tasks are left out has none. -/
def toContainer (fields : ContainerFields) : Except Fault Container := do
  let id ← required "id" fields.id
  (Container.ofEntries id (fields.tasks.getD .empty)).mapError .inconsistent

end ContainerFields

def readContainer : Reader Container :=
  readRecord
    (fun text => do
      let (fields, text) ← readObject ContainerFields.readMember .none text
      let container ← fields.toContainer
      return (container, text))
    (fun text => do
      let (id, text) ← readItemAt readString 0 text
      let (entries, text) ← readLastItem (readEntries readTask) .empty text
      let container ← (Container.ofEntries id entries).mapError .inconsistent
      return (container, text))

def readLayout : Reader Layout := fun text => do
  let (entries, text) ← readEntries readContainer text
  let layout ← (Layout.ofEntries entries).mapError .inconsistent
  return (layout, text)

/-! ## Texts -/

def decodePartition (text : String) : Except Fault Partition :=
  readWhole readPartition text.toList

def decodeChangelog (text : String) : Except Fault UInt32 :=
  readWhole readWord text.toList

def decodeRole (text : String) : Except Fault Role :=
  readWhole readRole text.toList

def decodeTask (text : String) : Except Fault Task :=
  readWhole readTask text.toList

def decodeContainer (text : String) : Except Fault Container :=
  readWhole readContainer text.toList

def decodeLayout (text : String) : Except Fault Layout :=
  readWhole readLayout text.toList

end WarmStandby.Wire
