import WarmStandby.Layout
import WarmStandby.Proofs.RosterLaws

/-!
# Walks over lists of records

Layouts are made of lists of containers, and containers of lists of tasks.  Both
builders insert one record after another and stop at the first key that is
taken; they differ in when they look.  A layout is asked for the id before the
insertion, while a container is told by the task that gave way.  Either is one
walk, and all that is said of builders follows from what the walk does.
-/

set_option autoImplicit false

namespace WarmStandby

universe u v

namespace Roster

variable {Key : Type u} {Record : Type v} [Ord Key] {key : Record → Key}
variable [Std.TransOrd Key] {roster : Roster key}

/-- Inserts the records one after another.  The first one whose key is taken
ends the walk and is returned. -/
def insertAll (roster : Roster key) : List Record → Except Record (Roster key)
  | [] => .ok roster
  | record :: rest =>
      match roster.insertNew? record with
      | none => .error record
      | some next => next.insertAll rest

theorem insertAll_append (before after : List Record) :
    roster.insertAll (before ++ after) =
      match roster.insertAll before with
      | .error record => .error record
      | .ok next => next.insertAll after := by
  induction before generalizing roster with
  | nil => rfl
  | cons record rest inductionHypothesis =>
      rw [List.cons_append, insertAll, insertAll]
      cases roster.insertNew? record with
      | none => rfl
      | some next => exact inductionHypothesis

theorem eq_insert_of_insertNew? {record : Record} {next : Roster key}
    (inserted : roster.insertNew? record = some next) :
    next = roster.insert record := by
  rw [insertNew?] at inserted
  split at inserted
  · contradiction
  · exact (Option.some.inj inserted).symm

theorem eq_foldl_insert_of_insertAll {records : List Record}
    {last : Roster key} (walked : roster.insertAll records = .ok last) :
    last = records.foldl insert roster := by
  induction records generalizing roster with
  | nil => exact (Except.ok.inj walked).symm
  | cons record rest inductionHypothesis =>
      rw [insertAll] at walked
      cases inserted : roster.insertNew? record with
      | none =>
          rw [inserted] at walked
          contradiction
      | some next =>
          rw [inserted] at walked
          rw [List.foldl_cons, ← eq_insert_of_insertNew? inserted]
          exact inductionHypothesis walked

variable [Std.LawfulEqOrd Key]

theorem insertNew?_of_fresh {record : Record}
    (fresh : key record ∉ roster.keys) :
    roster.insertNew? record = some (roster.insert record) := by
  simp [insertNew?, fresh]

theorem insertNew?_of_taken {record : Record}
    (taken : key record ∈ roster.keys) : roster.insertNew? record = none := by
  simp [insertNew?, taken]

theorem insertAll_of_nodup {records : List Record}
    (distinct : (roster.keys ++ records.map key).Nodup) :
    roster.insertAll records = .ok (records.foldl insert roster) := by
  induction records generalizing roster with
  | nil => rfl
  | cons record rest inductionHypothesis =>
      have fresh : key record ∉ roster.keys := fun member =>
        List.disjoint_of_nodup_append distinct member List.mem_cons_self
      rw [insertAll, insertNew?_of_fresh fresh]
      exact inductionHypothesis (nodup_keys_insert_append distinct)

theorem insertAll_empty_of_nodup {records : List Record}
    (distinct : (records.map key).Nodup) :
    (empty : Roster key).insertAll records = .ok (ofList records) := by
  have startDistinct :
      ((empty : Roster key).keys ++ records.map key).Nodup := distinct
  exact insertAll_of_nodup startDistinct

end Roster

/-! ## Builders that walk -/

/-- The builder walks over the list and makes something of the roster at its
end, or reports the record that ended the walk. -/
def BuildsByWalk {Record Built : Type} {key : Record → String}
    (build : List Record → Except ModelFault Built)
    (make : Roster key → Built) (fault : Record → ModelFault) : Prop :=
  ∀ records, build records =
    (((Roster.empty : Roster key).insertAll records).map make).mapError fault

theorem BuildsByWalk.eq_make_of_ok {Record Built : Type}
    {key : Record → String} {build : List Record → Except ModelFault Built}
    {make : Roster key → Built} {fault : Record → ModelFault}
    (walks : BuildsByWalk build make fault) {records : List Record}
    {built : Built} (success : build records = .ok built) :
    built = make (.ofList records) := by
  rw [walks] at success
  cases walked : (Roster.empty : Roster key).insertAll records with
  | error record =>
      rw [walked] at success
      contradiction
  | ok last =>
      rw [walked] at success
      rw [← Except.ok.inj success, Roster.eq_foldl_insert_of_insertAll walked]
      rfl

namespace Container

theorem ofTasks_go_eq_insertAll (id : ContainerId) (placed : TaskRoster)
    (tasks : List Task) :
    ofTasks.go id placed tasks =
      ((placed.insertAll tasks).map (Container.mk id)).mapError
        (fun task => .duplicateTask id task.name) := by
  induction tasks generalizing placed with
  | nil => rfl
  | cons task rest inductionHypothesis =>
      rw [ofTasks.go, Roster.insertAll, Roster.insertNew?_eq_exchange]
      rcases placed.exchange task with ⟨replaced, next⟩
      cases replaced with
      | some _ => rfl
      | none => exact inductionHypothesis next

theorem ofTasks_walks (id : ContainerId) :
    BuildsByWalk (ofTasks id) (Container.mk id)
      (fun task => .duplicateTask id task.name) :=
  ofTasks_go_eq_insertAll id .empty

end Container

namespace Layout

theorem foldlM_add_eq_insertAll (layout : Layout)
    (containers : List Container) :
    containers.foldlM add layout =
      ((layout.insertAll containers).map id).mapError
        (fun container => .duplicateContainer container.id) := by
  induction containers generalizing layout with
  | nil => rfl
  | cons container rest inductionHypothesis =>
      rw [List.foldlM_cons, Roster.insertAll, add]
      cases layout.insertNew? container with
      | none => rfl
      | some next => exact inductionHypothesis next

theorem ofContainers_walks :
    BuildsByWalk ofContainers id
      (fun container => .duplicateContainer container.id) :=
  foldlM_add_eq_insertAll .empty

end Layout

end WarmStandby
