import WarmStandby.Replication

/-!
# Events of a generation run

Generation reports what it did as a list of events beside the layout.  An event
becomes a log record only when somebody asks for it.
-/

set_option autoImplicit false

namespace WarmStandby

inductive PassThroughReason where
  | emptyLayout
  | replicationDisabled
deriving DecidableEq, Repr

inductive Event where
  | received (containers : Nat) (replicationFactor : UInt32)
  | passThrough (reason : PassThroughReason)
  | standbyTasksGenerated (active buddy : ContainerId) (tasks : Nat)
  | buddyContainersAdded (buddies : List ContainerId)
deriving DecidableEq, Repr

namespace Event

def isPassThrough : Event → Bool
  | passThrough _ => true
  | _ => false

def ofBuddy (buddy : Buddy) : Event :=
  .standbyTasksGenerated buddy.id.active buddy.model.id buddy.model.size

end Event

end WarmStandby
