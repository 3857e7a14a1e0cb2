import WarmStandby.Event
import WarmStandby.Merge

/-!
# Generation of standbys

For a factor `r`, every container of an active layout gets `r - 1` buddies, and
each buddy holds one standby of every task of its container.  Buddies are
derived and merged one by one, in the order of container ids and then of replica
indices, and the first refusal ends the run.  An empty layout, or a factor of
one, passes the layout through as it came.
-/

set_option autoImplicit false

namespace WarmStandby

/-- What a run returns.  Which containers are buddies is told by `buddies` and
never by what a container holds. -/
structure Outcome where
  layout : Layout
  events : List Event
  buddies : BuddyIdSet
deriving DecidableEq

namespace Outcome

def buddiesOf (outcome : Outcome) (active : ContainerId) :
    List (UInt32 × Container) :=
  outcome.buddies.toList.filterMap (fun buddy =>
    if buddy.active = active then
      (outcome.layout.get? buddy.text).map
        (fun container => (buddy.replica, container))
    else
      none)

def activeContainers (outcome : Outcome) : List Container :=
  outcome.layout.toList.filter (fun container =>
    !outcome.buddies.toList.any (fun buddy => buddy.text == container.id))

def isPassThrough (outcome : Outcome) : Bool :=
  outcome.events.any Event.isPassThrough

end Outcome

namespace Generation

def name : String := "BuddyContainer"

/-- The merge so far, and the buddies in it, the latest first. -/
structure Progress where
  merge : Merge
  taken : List Buddy

/-- Merges `left` more buddies of one container, from the replica `next` on. -/
def addBuddies (active : Container) :
    Nat → Nat → Progress → Except GenerationFault Progress
  | 0, _, progress => .ok progress
  | left + 1, next, progress =>
      let buddy := Buddy.derive active (UInt32.ofNat next)
      match progress.merge.push buddy with
      | (.error fault, _) => .error fault
      | (.ok (), merge) =>
          addBuddies active left (next + 1) ⟨merge, buddy :: progress.taken⟩

def addAllBuddies (factor : ReplicationFactor) :
    List Container → Progress → Except GenerationFault Progress
  | [], progress => .ok progress
  | active :: rest, progress =>
      match addBuddies active factor.buddiesPerContainer 0 progress with
      | .error fault => .error fault
      | .ok progress => addAllBuddies factor rest progress

def passThrough (layout : Layout) (received : Event)
    (reason : PassThroughReason) : Outcome :=
  ⟨layout, [received, .passThrough reason], .empty⟩

end Generation

namespace Layout

def expand (layout : Layout) (factor : ReplicationFactor) :
    Except GenerationFault Outcome :=
  let received := Event.received layout.size factor.copies
  if layout.isEmpty then
    .ok (Generation.passThrough layout received .emptyLayout)
  else if !factor.hasStandbys then
    .ok (Generation.passThrough layout received .replicationDisabled)
  else
    match layout.validate with
    | .error fault => .error fault
    | .ok () =>
        match Generation.addAllBuddies factor layout.toList
            ⟨.start layout, []⟩ with
        | .error fault => .error fault
        | .ok progress =>
            let buddies := progress.taken.reverse
            .ok
              { layout := progress.merge.layout
                events := received :: buddies.map Event.ofBuddy
                  ++ [.buddyContainersAdded
                    (buddies.map (fun buddy => buddy.model.id))]
                buddies := .ofList (buddies.map Buddy.id) }

def generate (layout : Layout) (factor : Int) :
    Except GenerationFault Outcome :=
  match ReplicationFactor.ofInt? factor with
  | none => .error (.configuration factor)
  | some factor => layout.expand factor

end Layout

end WarmStandby
