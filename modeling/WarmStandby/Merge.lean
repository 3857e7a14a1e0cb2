import WarmStandby.Replication
import WarmStandby.Validation

/-!
# Merging buddies into a layout

A merge starts from an active layout and takes buddies one at a time.  A buddy
is refused if its id is an id of the layout merged so far, or if one of its
tasks has a name that some container of that layout holds; nothing is ever
replaced.  Beside the layout, a merge keeps the owner of every task name in it.
-/

set_option autoImplicit false

namespace WarmStandby

structure Merge where
  layout : Layout
  owners : Owners
deriving DecidableEq

namespace Merge

/-- The merge of no buddies.  Of several containers that hold a task name, the
last in id order owns it. -/
def start (active : Layout) : Merge :=
  ⟨active, active.toList.foldl
    (fun owners container => owners.record container.tasks.keys container.id)
    .empty⟩

/-- The active name that a standby name was derived from; a name that is not a
standby name stands for itself. -/
def derivedFrom (name : TaskName) : TaskName :=
  match StandbyName.parse? name with
  | some parsed => parsed.active
  | none => name

def taskCollision? (merge : Merge) (replica : UInt32) :
    List TaskName → Option Collision
  | [] => none
  | name :: rest =>
      match merge.owners.ownerOf? name with
      | some owner =>
          some
            { kind := .task
              derived := name
              derivedFrom := derivedFrom name
              replica := replica
              existing := name
              existingOwner := owner }
      | none => taskCollision? merge replica rest

def collision? (merge : Merge) (buddy : Buddy) : Option Collision :=
  if merge.layout.contains buddy.model.id then
    some
      { kind := .container
        derived := buddy.model.id
        derivedFrom := buddy.id.active
        replica := buddy.id.replica
        existing := buddy.model.id
        existingOwner := buddy.model.id }
  else
    merge.taskCollision? buddy.id.replica buddy.model.tasks.keys

def push (merge : Merge) (buddy : Buddy) :
    Except GenerationFault Unit × Merge :=
  match merge.collision? buddy with
  | some collision => (.error (.namingCollision collision), merge)
  | none =>
      let owners := merge.owners.record buddy.model.tasks.keys buddy.model.id
      match merge.layout.add buddy.model with
      | .error fault => (.error (.model fault), { merge with owners })
      | .ok layout => (.ok (), { layout, owners })

def pushAll (merge : Merge) (buddies : List Buddy) : Merge :=
  buddies.foldl (fun merge buddy => (merge.push buddy).2) merge

def pushUntilRefused (merge : Merge) :
    List Buddy → Except GenerationFault Merge
  | [] => .ok merge
  | buddy :: rest =>
      match merge.push buddy with
      | (.error fault, _) => .error fault
      | (.ok (), merge) => merge.pushUntilRefused rest

/-- How many of the listed buddies are taken up before the merge ends: all of
them, or those up to the first refusal and with it. -/
def countTaken (merge : Merge) : List Buddy → Nat
  | [] => 0
  | buddy :: rest =>
      match merge.push buddy with
      | (.error _, _) => 1
      | (.ok (), merge) => merge.countTaken rest + 1

end Merge

def Layout.merge (active : Layout) (buddies : List Buddy) :
    Except GenerationFault Layout :=
  match (Merge.start active).pushUntilRefused buddies with
  | .error fault => .error fault
  | .ok merge => .ok merge.layout

end WarmStandby
