import WarmStandby.Proofs.ByteOrder
import WarmStandby.Proofs.PurelyActive
import WarmStandby.Proofs.ReplicaNames

/-!
# The first offence against purely active layouts

Validation walks over the assignments of a layout in the order of container ids
and then of task names.  It lets a layout pass if no assignment breaks a rule,
which can be said without any order.  Else it reports the first assignment that
does, by the first of the three rules that this one breaks: its task is not
active, its name is reserved, or an earlier container holds a task of that name.

The walk keeps an owner for each name that it has passed.  As long as nothing
was reported, the names that it passed are distinct, so the owner of a name is
the one earlier container that holds it.
-/

set_option autoImplicit false

namespace WarmStandby

/-! ## The table of the names that were passed -/

namespace Layout

/-! ## Offences -/

/-- The order in which assignments are walked: that of the bytes of container
ids, and then of task names. -/
def Precedes (earlier later : ContainerId × Task) : Prop :=
  Text.bytes earlier.1 < Text.bytes later.1 ∨
    earlier.1 = later.1 ∧
      Text.bytes earlier.2.name < Text.bytes later.2.name

/-- The holder comes before the container and holds a task of the name. -/
def HeldBefore (layout : Layout) (container : ContainerId) (name : TaskName)
    (holder : ContainerId) : Prop :=
  Text.bytes holder < Text.bytes container ∧
    ∃ task, (holder, task) ∈ layout.assignments ∧ task.name = name

/-- What is said of an offence: the first of the rules that it breaks. -/
inductive Report (layout : Layout) (container : ContainerId) (task : Task) :
    GenerationFault → Prop
  | notActive (idle : task.role ≠ .active) :
      Report layout container task
        (.invalidLayout (.notActive task.name container task.role))
  | reserved (active : task.role = .active)
      (marked : ∃ rest : String, task.name = "Standby " ++ rest) :
      Report layout container task (.reservedName container task.name)
  | assignedTwice (active : task.role = .active)
      (unmarked : ¬ ∃ rest : String, task.name = "Standby " ++ rest)
      {holder : ContainerId}
      (held : layout.HeldBefore container task.name holder)
      (only : ∀ other, layout.HeldBefore container task.name other →
        other = holder) :
      Report layout container task
        (.invalidLayout (.assignedTwice task.name holder container))

theorem Report.unique {layout : Layout} {container : ContainerId} {task : Task}
    {left right : GenerationFault}
    (leftReport : layout.Report container task left)
    (rightReport : layout.Report container task right) : left = right := by
  cases leftReport with
  | notActive idle =>
      cases rightReport with
      | notActive _ => rfl
      | reserved active _ => contradiction
      | assignedTwice active _ _ _ => contradiction
  | reserved active marked =>
      cases rightReport with
      | notActive idle => contradiction
      | reserved _ _ => rfl
      | assignedTwice _ unmarked _ _ => contradiction
  | assignedTwice active unmarked held only =>
      cases rightReport with
      | notActive idle => contradiction
      | reserved _ marked => contradiction
      | assignedTwice _ _ otherHeld _ => rw [only _ otherHeld]

/-! ## The walk up to a fault -/

section Split

variable {layout : Layout} {before after : List (ContainerId × Task)}
variable {container : ContainerId} {task : Task}
variable (split : layout.assignments = before ++ (container, task) :: after)

include split

end Split

/-! ## The verdict -/

end Layout

namespace Sample

end Sample

end WarmStandby
