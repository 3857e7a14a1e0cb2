import WarmStandby.Task

/-!
# Faults of containers and layouts

A list of tasks or containers is refused when a name or id is repeated, and a
set of entries when a key disagrees with the record listed under it.
-/

set_option autoImplicit false

namespace WarmStandby

abbrev ContainerId : Type := String

inductive ModelFault where
  | duplicateContainer (container : ContainerId)
  | duplicateTask (container : ContainerId) (task : TaskName)
  | containerKeyMismatch (key : String) (container : ContainerId)
  | taskKeyMismatch (container : ContainerId) (key : String) (task : TaskName)
deriving DecidableEq, Repr

namespace ModelFault

def message : ModelFault → String
  | duplicateContainer container => "duplicate container id: " ++ container
  | duplicateTask container task =>
      "duplicate task " ++ task ++ " in container " ++ container
  | containerKeyMismatch key container =>
      "layout key " ++ key ++ " does not match container id " ++ container
  | taskKeyMismatch container key task =>
      "task key " ++ key ++ " in container " ++ container
        ++ " does not match task name " ++ task

end ModelFault

end WarmStandby
