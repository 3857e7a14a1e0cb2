import WarmStandby.Layout
import WarmStandby.Naming

/-!
# Replication

The replication factor is the total number of copies of every task: one active
and the rest standbys.  Each active container has one buddy container per
standby copy, and the buddy holds a standby of every task of its active.
-/

set_option autoImplicit false

namespace WarmStandby

/-! ## The replication factor -/

structure ReplicationFactor where
  copies : UInt32
  atLeastOne : 1 ≤ copies.toNat

namespace ReplicationFactor

def ofInt? (value : Int) : Option ReplicationFactor :=
  if inRange : 1 ≤ value ∧ value ≤ 4294967295 then
    some ⟨UInt32.ofNat value.toNat, by
      rw [UInt32.toNat_ofNat']
      omega⟩
  else
    none

def buddiesPerContainer (factor : ReplicationFactor) : Nat :=
  factor.copies.toNat - 1

def hasStandbys (factor : ReplicationFactor) : Bool :=
  decide (1 < factor.copies.toNat)

def indices (factor : ReplicationFactor) : List UInt32 :=
  (List.range factor.buddiesPerContainer).map UInt32.ofNat

/-- No more than `limit` of the indices are made. -/
def firstIndices (factor : ReplicationFactor) (limit : Nat) : List UInt32 :=
  (List.range (min limit factor.buddiesPerContainer)).map UInt32.ofNat

theorem firstIndices_eq_take (factor : ReplicationFactor) (limit : Nat) :
    factor.firstIndices limit = factor.indices.take limit := by
  rw [firstIndices, indices, ← List.map_take, List.take_range]

end ReplicationFactor

/-! ## Buddies -/

def TaskRoster.replicate (tasks : TaskRoster) (replica : UInt32) : TaskRoster :=
  .ofList (tasks.toList.map
    (fun task => task.standbyCopy (StandbyName.text ⟨task.name, replica⟩)))

structure Buddy where
  id : BuddyId
  model : Container
deriving DecidableEq

namespace Buddy

def derive (active : Container) (replica : UInt32) : Buddy :=
  let id : BuddyId := ⟨active.id, replica⟩
  ⟨id, ⟨id.text, active.tasks.replicate replica⟩⟩

end Buddy

/-! ## Looking buddies up by id text -/

/-- The containers of `expanded` that are buddies of `active` by their ids, in
the order of their replica indices.  A container counts as a buddy if its id
reads as `active` with an index and is not itself an id of `layout`; what it
holds does not matter. -/
def buddiesOf (expanded layout : Layout) (active : ContainerId) :
    List (UInt32 × Container) :=
  if layout.contains active then
    let found := expanded.toList.filterMap (fun container =>
      if layout.contains container.id then none
      else
        match BuddyId.parse? container.id with
        | some buddy =>
            if buddy.active = active then some (buddy.replica, container)
            else none
        | none => none)
    found.mergeSort (fun left right => decide (left.1 ≤ right.1))
  else
    []

end WarmStandby
