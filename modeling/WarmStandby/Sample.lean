import WarmStandby.Layout

/-!
# Sample layouts

Numbered tasks that each consume one partition of one stream, and layouts made
of them.
-/

set_option autoImplicit false

namespace WarmStandby.Sample

def partition (number : UInt32) : Partition := ⟨"kafka", "page-views", number⟩

/-- The active task that consumes the numbered partition and keeps the change
log of the same number. -/
def task (number : UInt32) : Task :=
  .active ("Partition " ++ Decimal.text number.toNat) [partition number] number

def container (id : ContainerId) (numbers : List UInt32) :
    Except ModelFault Container :=
  Container.ofTasks id (numbers.map task)

def layout (containers : List (ContainerId × List UInt32)) :
    Except ModelFault Layout := do
  let built ← containers.mapM (fun (id, numbers) => container id numbers)
  Layout.ofContainers built

def small : Except ModelFault Layout := layout [("0", [0, 1]), ("1", [2, 3])]

end WarmStandby.Sample
