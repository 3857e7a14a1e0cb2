import WarmStandby.Partition

/-!
# Tasks

A task consumes a set of partitions and records its state in a change log.  An
active task does the work; a standby only replays the change log of the task
whose place it can take.
-/

set_option autoImplicit false

namespace WarmStandby

abbrev TaskName : Type := String

inductive Role where
  | active
  | standby
deriving DecidableEq, Repr, Inhabited

namespace Role

def word : Role → String
  | active => "active"
  | standby => "standbyState"

def isActive : Role → Bool
  | active => true
  | standby => false

def isStandby : Role → Bool
  | active => false
  | standby => true

end Role

structure Task where
  name : TaskName
  partitions : PartitionSet
  changelog : UInt32
  role : Role
deriving DecidableEq

namespace Task

def active (name : TaskName) (partitions : List Partition)
    (changelog : UInt32) : Task :=
  ⟨name, .ofList partitions, changelog, .active⟩

/-- The standby of `task` that is called `name`: same partitions, same change
log. -/
def standbyCopy (task : Task) (name : TaskName) : Task :=
  { task with name, role := .standby }

end Task

abbrev TaskRoster : Type := Roster Task.name

end WarmStandby
