import WarmStandby.Naming

/-!
# Faults of generation

Generation refuses a replication factor below one, a layout that is not purely
active, and a derived id or name that is already in use.
-/

set_option autoImplicit false

namespace WarmStandby

inductive CollisionKind where
  | container
  | task
deriving DecidableEq, Repr

/-- Both sides of a collision: the derived name with what it was derived from,
and the existing name with the container that holds it. -/
structure Collision where
  kind : CollisionKind
  derived : String
  derivedFrom : String
  replica : UInt32
  existing : String
  existingOwner : ContainerId
deriving DecidableEq, Repr

namespace CollisionKind

def word : CollisionKind → String
  | container => "container"
  | task => "task"

end CollisionKind

namespace Collision

def message (collision : Collision) : String :=
  let kind := collision.kind.word
  "derived " ++ kind ++ " `" ++ collision.derived ++ "` (from `"
    ++ collision.derivedFrom ++ "`, replica "
    ++ Decimal.text collision.replica.toNat ++ ") collides with existing "
    ++ kind ++ " `" ++ collision.existing ++ "` in container `"
    ++ collision.existingOwner ++ "`"

end Collision

/-- Why a layout is not a purely active assignment, apart from the use of
reserved names. -/
inductive InvalidLayout where
  | notActive (task : TaskName) (container : ContainerId) (role : Role)
  | assignedTwice (task : TaskName) (first second : ContainerId)
deriving DecidableEq, Repr

namespace InvalidLayout

def message : InvalidLayout → String
  | notActive task container role =>
      "task " ++ task ++ " in container " ++ container ++ " has role "
        ++ role.word ++ ", expected active"
  | assignedTwice task first second =>
      "task " ++ task ++ " is assigned to both container " ++ first
        ++ " and container " ++ second

end InvalidLayout

inductive GenerationFault where
  | configuration (factor : Int)
  | namingCollision (collision : Collision)
  | invalidLayout (reason : InvalidLayout)
  | reservedName (container : ContainerId) (task : TaskName)
  | model (fault : ModelFault)
deriving DecidableEq, Repr

namespace GenerationFault

def factorMessage (factor : Int) : String :=
  "replication factor must be at least 1, got " ++ Decimal.signedText factor

def message : GenerationFault → String
  | configuration factor => "configuration error: " ++ factorMessage factor
  | namingCollision collision => "naming collision: " ++ collision.message
  | invalidLayout reason => "invalid layout: " ++ reason.message
  | reservedName container task =>
      "task " ++ task ++ " in container " ++ container
        ++ " uses the reserved standby prefix"
  | model fault => "model error: " ++ fault.message

def isConfiguration : GenerationFault → Bool
  | configuration _ => true
  | _ => false

def isCollision : GenerationFault → Bool
  | namingCollision _ => true
  | _ => false

end GenerationFault

end WarmStandby
