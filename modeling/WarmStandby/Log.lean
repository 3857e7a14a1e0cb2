import WarmStandby.Event
import WarmStandby.Text.Visible
import WarmStandby.Wire.Encode

/-!
# Log records

A log record has a level, the part of the program that it comes from, and a list
of fields.  The reader of a log chooses what to see by a filter: a list of
directives, each of which sets the least level for all parts or for the parts
whose names begin in one way.
-/

set_option autoImplicit false

namespace WarmStandby.Log

inductive Level where
  | trace
  | debug
  | info
  | warn
  | error
deriving DecidableEq, Repr

namespace Level

def word : Level → String
  | trace => "TRACE"
  | debug => "DEBUG"
  | info => "INFO"
  | warn => "WARN"
  | error => "ERROR"

def rank : Level → Nat
  | trace => 0
  | debug => 1
  | info => 2
  | warn => 3
  | error => 4

end Level

inductive FieldValue where
  | number (value : Nat)
  | text (value : String)
deriving DecidableEq, Repr

structure Record where
  level : Level
  target : String
  fields : List (String × FieldValue)
deriving DecidableEq, Repr

/-! ## Records of a run -/

def eventTarget : String := "standby_generator::event"

def commandTarget : String := "standby"

def showContainers (ids : List ContainerId) : String :=
  Text.visibleList
    (ids.map (fun id => "ContainerId(" ++ Text.visibleQuote id ++ ")"))

def showReason : PassThroughReason → String
  | .emptyLayout => "EmptyLayout"
  | .replicationDisabled => "ReplicationDisabled"

def ofEvent : Event → Record
  | .received containers replicationFactor =>
      ⟨.debug, eventTarget,
        [("message", .text "Received container layout"),
         ("containers", .number containers),
         ("replication_factor", .number replicationFactor.toNat)]⟩
  | .passThrough reason =>
      ⟨.info, eventTarget,
        [("message", .text "No standby tasks generated"),
         ("reason", .text (showReason reason))]⟩
  | .standbyTasksGenerated active buddy tasks =>
      ⟨.info, eventTarget,
        [("message", .text "Generated standby tasks"),
         ("active_container", .text active),
         ("buddy_container", .text buddy),
         ("tasks", .number tasks)]⟩
  | .buddyContainersAdded buddies =>
      ⟨.info, eventTarget,
        [("message", .text "Adding buddy containers"),
         ("count", .number buddies.length),
         ("buddy_containers", .text (showContainers buddies))]⟩

def ofBuddies (active : ContainerId) (buddies : List ContainerId) : Record :=
  ⟨.info, commandTarget,
    [("message", .text "Buddy containers"),
     ("active", .text active),
     ("buddies", .text (Text.visibleList (buddies.map Text.visibleQuote)))]⟩

/-! ## Lines -/

namespace FieldValue

def writer : FieldValue → Wire.Writer
  | number value => Wire.writeNatural value
  | text value => Wire.writeString value

def label : FieldValue → String
  | number value => Decimal.text value
  | text value => value

end FieldValue

namespace Record

def encode (record : Record) : String :=
  Wire.compactText (Wire.writeObject
    [("level", Wire.writeString record.level.word),
     ("fields", Wire.writeObject
       (record.fields.map (fun (name, value) => (name, value.writer)))),
     ("target", Wire.writeString record.target)])

def line (record : Record) : String :=
  record.level.word ++ " " ++ record.target ++ ":"
    ++ String.join (record.fields.map
      (fun (name, value) => " " ++ name ++ "=" ++ value.label))

end Record

/-! ## Filters -/

/-- Sets the least level for all targets that begin with `target`; without a
level they are silent. -/
structure Directive where
  target : String
  level : Option Level
deriving DecidableEq, Repr

def levelNames : List (String × Option Level) :=
  [("trace", some .trace), ("debug", some .debug), ("info", some .info),
   ("warn", some .warn), ("error", some .error), ("off", none)]

def level? (name : String) : Option (Option Level) :=
  (levelNames.find? (fun known => known.1 == name.toLower)).map Prod.snd

def Directive.parse? (text : String) : Option Directive :=
  match text.splitOn "=" with
  | [word] =>
      match level? word with
      | some level => some ⟨"", level⟩
      | none => some ⟨word, some .trace⟩
  | [target, name] => (level? name).map (fun level => ⟨target, level⟩)
  | _ => none

def defaultFilter : List Directive := [⟨"", some .info⟩]

/-- Reads a filter.  One that is not set, or that cannot be read, leaves the
default in force. -/
def filterOf (setting : Option String) : List Directive :=
  match setting with
  | none => defaultFilter
  | some text =>
      let parts := (text.splitOn ",").filter (fun part => !part.isEmpty)
      (parts.mapM Directive.parse?).getD defaultFilter

/-- Whether a record passes a filter.  Of the directives that cover its target,
the one with the longest target decides. -/
def passes (filter : List Directive) (record : Record) : Bool :=
  let covering := filter.filter
    (fun directive => directive.target.isPrefixOf record.target)
  let deciding := covering.foldl
    (fun best directive =>
      match best with
      | none => some directive
      | some other =>
          if other.target.length ≤ directive.target.length then some directive
          else some other)
    (none : Option Directive)
  match deciding with
  | some ⟨_, some level⟩ => level.rank ≤ record.level.rank
  | _ => false

end WarmStandby.Log
