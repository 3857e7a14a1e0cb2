import WarmStandby.ModelFault

/-!
# Names of replicas

A buddy container is known by the active container that it backs up and a
replica index, a standby task by the active task and the index.  Both have a
text form that ends in a dash and the decimal index:

* buddy container: `active-index`, as in `0-1`;
* standby task: `Standby active-index`, as in `Standby Partition 0-1`.

The texts are read back at their last dash, so an active name may itself hold
dashes and digits.
-/

set_option autoImplicit false

namespace WarmStandby

def standbyMark : String := "Standby "

def isReserved (name : TaskName) : Bool :=
  standbyMark.toList.isPrefixOf name.toList

namespace ReplicaText

def splitAtLastDash? : List Char → Option (List Char × List Char)
  | [] => none
  | character :: rest =>
      match splitAtLastDash? rest with
      | some (base, suffix) => some (character :: base, suffix)
      | none => if character = '-' then some ([], rest) else none

def separator : String := "-"

def render (base : String) (replica : UInt32) : String :=
  base ++ separator ++ Decimal.text replica.toNat

def read? (text : List Char) : Option (String × UInt32) :=
  match splitAtLastDash? text with
  | none => none
  | some (base, suffix) =>
      match Decimal.word? suffix with
      | none => none
      | some replica => some (String.ofList base, replica)

end ReplicaText

/-! ## Buddy containers -/

structure BuddyId where
  active : ContainerId
  replica : UInt32
deriving DecidableEq, Repr

namespace BuddyId

instance : Ord BuddyId where
  compare := compareLex (compareOn BuddyId.active) (compareOn BuddyId.replica)

instance : Std.TransOrd BuddyId :=
  inferInstanceAs (Std.TransCmp
    (compareLex (compareOn BuddyId.active) (compareOn BuddyId.replica)))

def text (buddy : BuddyId) : ContainerId :=
  ReplicaText.render buddy.active buddy.replica

/-- Reads the text of a buddy id.  Whether its base is a container of some
layout is not known here; an empty base is refused. -/
def parse? (id : ContainerId) : Option BuddyId :=
  match ReplicaText.read? id.toList with
  | none => none
  | some (base, replica) =>
      if base.isEmpty then none else some ⟨base, replica⟩

end BuddyId

/-- A set of buddy ids, ordered by active container and then by index. -/
abbrev BuddyIdSet : Type := Roster (fun buddy : BuddyId => buddy)

/-! ## Standby tasks -/

structure StandbyName where
  active : TaskName
  replica : UInt32
deriving DecidableEq, Repr

namespace StandbyName

def text (name : StandbyName) : TaskName :=
  standbyMark ++ ReplicaText.render name.active name.replica

/-- Reads the text of a standby name.  The active name may be empty. -/
def parse? (name : TaskName) : Option StandbyName :=
  if isReserved name then
    match ReplicaText.read? (name.toList.drop standbyMark.length) with
    | none => none
    | some (active, replica) => some ⟨active, replica⟩
  else
    none

end StandbyName

end WarmStandby
