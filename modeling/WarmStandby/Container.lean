import WarmStandby.ModelFault

/-!
# Containers

A container is a process of the job together with the tasks assigned to it.
Its tasks are listed by name, so two tasks of one container never share one.
-/

set_option autoImplicit false

namespace WarmStandby

structure Container where
  id : ContainerId
  tasks : TaskRoster
deriving DecidableEq

namespace Container

def vacant (id : ContainerId) : Container := ⟨id, .empty⟩

def ofTasks (id : ContainerId) (tasks : List Task) :
    Except ModelFault Container :=
  go .empty tasks
where
  go (placed : TaskRoster) : List Task → Except ModelFault Container
    | [] => .ok ⟨id, placed⟩
    | task :: rest =>
        match placed.exchange task with
        | (some _, _) => .error (.duplicateTask id task.name)
        | (none, placed) => go placed rest

/-- The container of tasks that are listed under their names.  The least key
that is not the name of its task is at fault. -/
def ofEntries (id : ContainerId) (entries : Entries Task) :
    Except ModelFault Container :=
  match entries.mismatch? Task.name with
  | some (key, task) => .error (.taskKeyMismatch id key task.name)
  | none => .ok ⟨id, entries.records Task.name⟩

def size (container : Container) : Nat := container.tasks.size

def isEmpty (container : Container) : Bool := container.tasks.isEmpty

def hasStandbyTasks (container : Container) : Bool :=
  container.tasks.toList.any (fun task => task.role.isStandby)

end Container

end WarmStandby
