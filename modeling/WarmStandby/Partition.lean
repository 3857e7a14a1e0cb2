import WarmStandby.Decimal
import WarmStandby.Roster

/-!
# Partitions

A stream is read in numbered partitions, and the change log that rebuilds the
state of a task is a numbered partition as well.  Partitions are ordered by
system, then stream, then number.
-/

set_option autoImplicit false

namespace WarmStandby

structure Partition where
  system : String
  stream : String
  number : UInt32
deriving DecidableEq, Repr

namespace Partition

instance : Ord Partition where
  compare := compareLex (compareOn Partition.system)
    (compareLex (compareOn Partition.stream) (compareOn Partition.number))

instance : Std.TransOrd Partition :=
  inferInstanceAs (Std.TransCmp (compareLex (compareOn Partition.system)
    (compareLex (compareOn Partition.stream) (compareOn Partition.number))))

def label (partition : Partition) : String :=
  partition.system ++ "." ++ partition.stream ++ "#"
    ++ Decimal.text partition.number.toNat

end Partition

abbrev PartitionSet : Type := Roster (fun partition : Partition => partition)

def changelogLabel (number : UInt32) : String :=
  "changelog#" ++ Decimal.text number.toNat

end WarmStandby
