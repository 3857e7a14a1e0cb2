import WarmStandby.GenerationFault
import WarmStandby.Layout

/-!
# Purely active layouts

Standbys are generated only for a layout of active tasks whose names are not
reserved and each assigned once.  The tasks are walked in the order of container
ids and then of task names, and the first that breaks a rule is reported.
-/

set_option autoImplicit false

namespace WarmStandby

abbrev Owners : Type := Entries ContainerId

namespace Owners

def ownerOf? (owners : Owners) (name : TaskName) : Option ContainerId :=
  (owners.get? name).map Prod.snd

def record (owners : Owners) (names : List TaskName) (container : ContainerId) :
    Owners :=
  names.foldl (fun owners name => owners.insert (name, container)) owners

end Owners

namespace Layout

/-- Checks the remaining assignments, given the owners of the names that came
before. -/
def checkAssignments (owners : Owners) :
    List (ContainerId × Task) → Except GenerationFault Unit
  | [] => .ok ()
  | (container, task) :: rest =>
      if !task.role.isActive then
        .error (.invalidLayout (.notActive task.name container task.role))
      else if isReserved task.name then
        .error (.reservedName container task.name)
      else
        match owners.ownerOf? task.name with
        | some first =>
            .error (.invalidLayout (.assignedTwice task.name first container))
        | none => checkAssignments (owners.insert (task.name, container)) rest

def validate (layout : Layout) : Except GenerationFault Unit :=
  checkAssignments .empty layout.assignments

end Layout

end WarmStandby
