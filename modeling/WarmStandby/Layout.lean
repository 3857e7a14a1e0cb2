import WarmStandby.Container

/-!
# Layouts

A layout assigns the tasks of a job to containers, listed by id.
-/

set_option autoImplicit false

namespace WarmStandby

abbrev Layout : Type := Roster Container.id

namespace Layout

def ids (layout : Layout) : List ContainerId := layout.keys

def add (layout : Layout) (container : Container) : Except ModelFault Layout :=
  match layout.insertNew? container with
  | none => .error (.duplicateContainer container.id)
  | some layout => .ok layout

def ofContainers (containers : List Container) : Except ModelFault Layout :=
  containers.foldlM add .empty

/-- The layout of containers that are listed under their ids.  The least key
that is not the id of its container is at fault. -/
def ofEntries (entries : Entries Container) : Except ModelFault Layout :=
  match entries.mismatch? Container.id with
  | some (key, container) => .error (.containerKeyMismatch key container.id)
  | none => .ok (entries.records Container.id)

def assignments (layout : Layout) : List (ContainerId × Task) :=
  layout.toList.flatMap
    (fun container => container.tasks.toList.map (fun task => (container.id, task)))

def taskCount (layout : Layout) : Nat :=
  (layout.toList.map Container.size).foldr (· + ·) 0

def standbyTaskCount (layout : Layout) : Nat :=
  layout.assignments.countP (fun assignment => assignment.2.role.isStandby)

/-- The containers that hold tasks, and active ones only.  A container without
tasks shows no role and is left out. -/
def activeContainers (layout : Layout) : List Container :=
  layout.toList.filter
    (fun container => !container.isEmpty && !container.hasStandbyTasks)

end Layout

end WarmStandby
