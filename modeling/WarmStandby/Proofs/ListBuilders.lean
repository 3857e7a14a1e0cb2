import Mathlib.Data.List.Induction
import WarmStandby.Generation
import WarmStandby.Proofs.StoredForms
import WarmStandby.Sample

/-!
# Containers and layouts of lists

A layout is made of a list of containers, and a container of a list of tasks, in
one walk over the list that stops at the first key that came before.  So the walk
ends well for lists of distinct keys only, and then the order of the list is not
seen in what it made.
-/

set_option autoImplicit false

namespace WarmStandby

universe u v

/-! ## The first repeat -/

section Repeats

variable {Key : Type u} {Record : Type v} {key : Record → Key}

def FirstRepeat (key : Record → Key) (records : List Record)
    (record : Record) : Prop :=
  ∃ before after, records = before ++ record :: after ∧
    (before.map key).Nodup ∧ key record ∈ before.map key

theorem nodup_or_firstRepeat (key : Record → Key) (records : List Record) :
    (records.map key).Nodup ∨ ∃ record, FirstRepeat key records record := by
  -- A list that is longer by one record at its end repeats a key first where it
  -- did before, or else at its end.
  induction records using List.reverseRecOn with
  | nil => exact .inl List.nodup_nil
  | append_singleton records last inductionHypothesis =>
      rcases inductionHypothesis with
        distinct | ⟨record, before, after, split, beforeDistinct, known⟩
      · by_cases known : key last ∈ records.map key
        · exact .inr ⟨last, records, [], rfl, distinct, known⟩
        · refine .inl ?_
          rw [List.map_append, List.map_singleton]
          exact List.nodup_append_comm.mp
            (List.nodup_cons.mpr ⟨known, distinct⟩)
      · refine .inr ⟨record, before, after ++ [last], ?_, beforeDistinct, known⟩
        rw [split, List.append_assoc, List.cons_append]

end Repeats

/-! ## The walk over the list -/

namespace Roster

variable {Key : Type u} {Record : Type v} [Ord Key] {key : Record → Key}
variable [Std.TransOrd Key] [Std.LawfulEqOrd Key]

theorem insertAll_empty_of_firstRepeat {records : List Record}
    {record : Record} (repeats : FirstRepeat key records record) :
    (empty : Roster key).insertAll records = .error record := by
  obtain ⟨before, after, split, distinct, known⟩ := repeats
  have taken : key record ∈ (ofList before : Roster key).keys :=
    mem_keys_ofList.mpr known
  rw [split, insertAll_append, insertAll_empty_of_nodup distinct]
  simp only [insertAll, insertNew?_of_taken taken]

theorem ofList_eq_of_perm {left right : List Record} (perm : left.Perm right)
    (distinct : (right.map key).Nodup) :
    (ofList left : Roster key) = ofList right := by
  have leftDistinct := (perm.map key).nodup_iff.mpr distinct
  apply eq_of_perm
  calc (ofList left : Roster key).toList.Perm left :=
        toList_ofList_perm leftDistinct
    List.Perm _ right := perm
    List.Perm _ (ofList right : Roster key).toList :=
        (toList_ofList_perm distinct).symm

end Roster

/-! ## Builders -/

/-- The builder takes just the lists of distinct keys, makes something of these
records whatever their order is, and of any other list reports the first
repeat. -/
structure BuildsDistinct {Record Built : Type}
    (build : List Record → Except ModelFault Built) (key : Record → String)
    (contents : Built → List Record) (fault : Record → ModelFault) : Prop where
  taken_iff : ∀ records,
    (∃ built, build records = .ok built) ↔ (records.map key).Nodup
  contents_perm : ∀ records built, build records = .ok built →
    (contents built).Perm records
  of_perm : ∀ records built, build records = .ok built →
    ∀ other : List Record, other.Perm records → build other = .ok built
  refused : ∀ records, ¬ (records.map key).Nodup →
    ∃ record, FirstRepeat key records record ∧
      build records = .error (fault record)

namespace BuildsByWalk

variable {Record Built : Type} {key : Record → String}
variable {build : List Record → Except ModelFault Built}
variable {make : Roster key → Built} {fault : Record → ModelFault}
variable (walks : BuildsByWalk build make fault)

include walks

theorem of_nodup {records : List Record} (distinct : (records.map key).Nodup) :
    build records = .ok (make (.ofList records)) := by
  rw [walks, Roster.insertAll_empty_of_nodup distinct]
  rfl

theorem of_firstRepeat {records : List Record} {record : Record}
    (repeats : FirstRepeat key records record) :
    build records = .error (fault record) := by
  rw [walks, Roster.insertAll_empty_of_firstRepeat repeats]
  rfl

theorem eq_ok_iff {records : List Record} {built : Built} :
    build records = .ok built ↔
      (records.map key).Nodup ∧ built = make (.ofList records) := by
  constructor
  · intro success
    rcases nodup_or_firstRepeat key records with distinct | ⟨record, repeats⟩
    · rw [walks.of_nodup distinct] at success
      exact ⟨distinct, (Except.ok.inj success).symm⟩
    · rw [walks.of_firstRepeat repeats] at success
      contradiction
  · intro exactly
    obtain ⟨distinct, rfl⟩ := exactly
    exact walks.of_nodup distinct

theorem buildsDistinct {contents : Built → List Record}
    (holds : ∀ roster, contents (make roster) = roster.toList) :
    BuildsDistinct build key contents fault := by
  constructor
  case taken_iff =>
    intro records
    simp only [walks.eq_ok_iff, exists_and_left, exists_eq, and_true]
  case contents_perm =>
    intro records built success
    obtain ⟨distinct, rfl⟩ := walks.eq_ok_iff.mp success
    rw [holds]
    exact Roster.toList_ofList_perm distinct
  case of_perm =>
    intro records built success other perm
    obtain ⟨distinct, rfl⟩ := walks.eq_ok_iff.mp success
    rw [← Roster.ofList_eq_of_perm perm distinct]
    exact walks.of_nodup ((perm.map key).nodup_iff.mpr distinct)
  case refused =>
    intro records repeated
    obtain ⟨record, repeats⟩ :=
      (nodup_or_firstRepeat key records).resolve_left repeated
    exact ⟨record, repeats, walks.of_firstRepeat repeats⟩

end BuildsByWalk

namespace Container

theorem ofEntries_of_ofTasks {id : ContainerId} {tasks : List Task}
    {container : Container} (made : ofTasks id tasks = .ok container) :
    container.id = id ∧
      ofEntries id (.ofList (tasks.map (fun task => (task.name, task)))) =
        .ok container := by
  obtain ⟨sameId, sameTasks⟩ := StoredContainer.mk.inj (stored_of_ofTasks made)
  refine ⟨sameId, ?_⟩
  rw [← sameId, ← sameTasks]
  exact container.ofEntries_own

end Container

/-- Both builders take just the lists whose keys are distinct, and report the
first key that comes a second time.  A layout or container holds what its list
did; another order of the list leads to an equal one, and so to equal runs.  A
container of a list of tasks is the one that the tasks make as entries under
their names. -/
theorem builders_accept_only_distinct_keys :
    BuildsDistinct Layout.ofContainers Container.id Roster.toList
      (fun container => .duplicateContainer container.id) ∧
    (∀ containers layout, Layout.ofContainers containers = .ok layout →
      ∀ other : List Container, other.Perm containers →
        ∃ reordered, Layout.ofContainers other = .ok reordered ∧
          ∀ value, reordered.generate value = layout.generate value) ∧
    (∀ id, BuildsDistinct (Container.ofTasks id) Task.name
      (fun container => container.tasks.toList)
      (fun task => .duplicateTask id task.name)) ∧
    (∀ id tasks container, Container.ofTasks id tasks = .ok container →
      container.id = id ∧
        Container.ofEntries id
            (.ofList (tasks.map (fun task => (task.name, task)))) =
          .ok container) := by
  have layouts : BuildsDistinct Layout.ofContainers Container.id Roster.toList
      (fun container => .duplicateContainer container.id) :=
    Layout.ofContainers_walks.buildsDistinct (fun _ => rfl)
  refine ⟨layouts, ?_, ?_, ?_⟩
  · intro containers layout made other perm
    exact ⟨layout, layouts.of_perm _ _ made other perm, fun _ => rfl⟩
  · intro id
    exact (Container.ofTasks_walks id).buildsDistinct (fun _ => rfl)
  · intro id tasks container made
    exact Container.ofEntries_of_ofTasks made

namespace Sample

def unsorted : List Container :=
  [⟨"b", .ofList [.active "x" [] 0]⟩, .vacant "a-1", .vacant "a"]

def unsortedTasks : List Task :=
  [.active "y" [partition 2, partition 1] 5, .active "" [] 0]

theorem builders_accept_only_distinct_keys_unsorted :
    (∃ layout, Layout.ofContainers unsorted = .ok layout ∧
      layout.toList.Perm unsorted ∧
      Layout.ofContainers unsorted.reverse = .ok layout) ∧
    (∃ container,
      FirstRepeat Container.id (unsorted ++ unsorted.reverse) container ∧
      container.id = "a") ∧
    (∃ container, Container.ofTasks "c" unsortedTasks = .ok container ∧
      Container.ofEntries "c"
          (.ofList (unsortedTasks.map (fun task => (task.name, task)))) =
        .ok container) := by
  obtain ⟨layouts, _, containers, entries⟩ := builders_accept_only_distinct_keys
  have distinct : (unsorted.map Container.id).Nodup := by decide
  have repeated :
      ¬ ((unsorted ++ unsorted.reverse).map Container.id).Nodup := by decide
  have reported : Layout.ofContainers (unsorted ++ unsorted.reverse) =
      .error (.duplicateContainer "a") := by
    decide +kernel
  have taskNames : (unsortedTasks.map Task.name).Nodup := by decide
  obtain ⟨layout, made⟩ := (layouts.taken_iff unsorted).mpr distinct
  obtain ⟨container, first, refused⟩ := layouts.refused _ repeated
  obtain ⟨built, taken⟩ :=
    ((containers "c").taken_iff unsortedTasks).mpr taskNames
  rw [reported] at refused
  have isFirst : "a" = container.id :=
    ModelFault.duplicateContainer.inj (Except.error.inj refused)
  exact ⟨⟨layout, made, layouts.contents_perm _ _ made,
      layouts.of_perm _ _ made _ (List.reverse_perm _)⟩,
    ⟨container, first, isFirst.symm⟩,
    ⟨built, taken, (entries _ _ _ taken).2⟩⟩

end Sample

end WarmStandby
