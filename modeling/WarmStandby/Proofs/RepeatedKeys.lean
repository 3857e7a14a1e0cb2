import WarmStandby.Proofs.ListBuilders
import WarmStandby.Proofs.WireRoundTrip

/-!
# Texts in which keys repeat

A text can list a container under an id, or a task under a name, more than once.
The last one is decoded, and nothing is said of those before it.  So a list of
distinct ids or names is decoded to what is built of it, while a list with a
repeat is refused by its builder only.
-/

set_option autoImplicit false

namespace WarmStandby

universe u v

/-! ## The last record of a key -/

section LastOfKey

variable {Key : Type u} {Record : Type v} {key : Record → Key}

def LastOfKey (key : Record → Key) (records : List Record)
    (record : Record) : Prop :=
  ∃ before after, records = before ++ record :: after ∧
    key record ∉ after.map key

theorem lastOfKey_cons_iff {first record : Record} {rest : List Record} :
    LastOfKey key (first :: rest) record ↔
      LastOfKey key rest record ∨
        record = first ∧ key record ∉ rest.map key := by
  constructor
  · intro isLast
    obtain ⟨before, after, split, unrepeated⟩ := isLast
    cases before with
    | nil =>
        obtain ⟨isFirst, isRest⟩ := List.cons.inj split
        exact .inr ⟨isFirst.symm, isRest ▸ unrepeated⟩
    | cons head before =>
        obtain ⟨_, restSplit⟩ := List.cons.inj split
        exact .inl ⟨before, after, restSplit, unrepeated⟩
  · intro isLast
    rcases isLast with ⟨before, after, split, unrepeated⟩ | ⟨rfl, unrepeated⟩
    · exact ⟨first :: before, after, by rw [split]; rfl, unrepeated⟩
    · exact ⟨[], rest, rfl, unrepeated⟩

variable [Ord Key] [Std.TransOrd Key] [Std.LawfulEqOrd Key]

/-- Insertions leave the last record of each key that they bring, and what was
there under other keys. -/
theorem Roster.mem_foldl_insert_iff {records : List Record}
    {roster : Roster key} {record : Record} :
    record ∈ (records.foldl insert roster).toList ↔
      LastOfKey key records record ∨
        record ∈ roster.toList ∧ key record ∉ records.map key := by
  induction records generalizing roster with
  | nil => simp [LastOfKey]
  | cons first rest inductionHypothesis =>
      rw [List.foldl_cons, inductionHypothesis, lastOfKey_cons_iff,
        mem_insert_iff, List.map_cons, List.mem_cons]
      tauto

theorem Roster.mem_ofList_iff {records : List Record} {record : Record} :
    record ∈ (ofList records : Roster key).toList ↔
      LastOfKey key records record := by
  rw [ofList, mem_foldl_insert_iff]
  refine or_iff_left ?_
  intro wasThere
  exact List.not_mem_nil wasThere.1

end LastOfKey

/-! ## Texts of lists -/

namespace Wire

def writeContainers (containers : List Container) : Writer :=
  writeObject
    (containers.map (fun container => (container.id, writeContainer container)))

def writeContainerOf (id : ContainerId) (tasks : List Task) : Writer :=
  writeObject
    [("id", writeString id),
     ("tasks", writeObject
       (tasks.map (fun task => (task.name, writeTask task))))]

theorem readEntries_takes_listed {Record : Type} {key : Record → String}
    {reader : Reader Record} {writer : Record → Writer}
    (each : ∀ record, reader.Takes (writer record) record)
    (records : List Record) :
    Reader.Takes (readEntries reader)
      (writeObject (records.map (fun record => (key record, writer record))))
      (Roster.ofList records : Roster key).ownEntries := by
  rw [Roster.ownEntries_ofList]
  exact readEntries_takes (fun record _ => each record)

theorem decodeLayout_writeContainers (containers : List Container) :
    decodeLayout (compactText (writeContainers containers)) =
      .ok (.ofList containers) := by
  have taken : Reader.Takes (readEntries readContainer)
      (writeContainers containers)
      (Roster.ofList containers : Layout).ownEntries :=
    readEntries_takes_listed readContainer_takes containers
  have layoutTaken := readLayout_takes_entries taken (Layout.ofEntries_own _)
  exact layoutTaken.readWhole_text .compact

theorem decodeContainer_writeContainerOf (id : ContainerId)
    (tasks : List Task) :
    decodeContainer (compactText (writeContainerOf id tasks)) =
      .ok ⟨id, .ofList tasks⟩ := by
  have tasksTaken : Reader.Takes (readEntries readTask)
      (writeObject (tasks.map (fun task => (task.name, writeTask task))))
      (Roster.ofList tasks : TaskRoster).ownEntries :=
    readEntries_takes_listed readTask_takes tasks
  have containerTaken := readContainer_takes_members
    (reads_tasks id tasksTaken) (Container.ofEntries_own ⟨id, _⟩)
  exact containerTaken.readWhole_text .compact

/-- A text of a list is decoded to the last containers of its ids, and what is
built of the list is the same if it is built at all, which is the case just if no
id repeats.  So it is with the tasks of a container and their names. -/
theorem repeated_keys_decoded (containers : List Container) (id : ContainerId)
    (tasks : List Task) :
    (∃ layout,
      decodeLayout (compactText (writeContainers containers)) = .ok layout ∧
      (∀ container, container ∈ layout.toList ↔
        LastOfKey Container.id containers container) ∧
      ∀ built, Layout.ofContainers containers = .ok built ↔
        (containers.map Container.id).Nodup ∧ built = layout) ∧
    (∃ container,
      decodeContainer (compactText (writeContainerOf id tasks)) =
        .ok container ∧
      container.id = id ∧
      (∀ task, task ∈ container.tasks.toList ↔
        LastOfKey Task.name tasks task) ∧
      ∀ built, Container.ofTasks id tasks = .ok built ↔
        (tasks.map Task.name).Nodup ∧ built = container) := by
  constructor
  · refine ⟨.ofList containers, decodeLayout_writeContainers containers,
      fun _ => Roster.mem_ofList_iff, ?_⟩
    intro built
    exact Layout.ofContainers_walks.eq_ok_iff
  · refine ⟨⟨id, .ofList tasks⟩, decodeContainer_writeContainerOf id tasks, rfl,
      fun _ => Roster.mem_ofList_iff, ?_⟩
    intro built
    exact (Container.ofTasks_walks id).eq_ok_iff

end Wire

namespace Sample

def twice : List Container :=
  [⟨"0", .ofList [.active "a" [] 7]⟩, .vacant "0"]

def twiceText : String :=
  "\x7b\"0\":\x7b\"id\":\"0\",\"tasks\":\x7b\"a\":\x7b\"task-name\":\"a\"," ++
    "\"partitions\":[],\"changelog-partition\":7,\"role\":\"active\"" ++
    "\x7d\x7d\x7d,\"0\":\x7b\"id\":\"0\",\"tasks\":\x7b\x7d\x7d\x7d"

/-- The builder refuses the list, but its text is decoded, to a layout that has
lost the one task. -/
theorem repeated_id_not_refused :
    Wire.compactText (Wire.writeContainers twice) = twiceText ∧
    Layout.ofContainers twice = .error (.duplicateContainer "0") ∧
    Wire.decodeLayout twiceText = .ok (.ofList [.vacant "0"]) ∧
    ¬ ∀ containers : List Container,
      (∃ layout, Wire.decodeLayout
        (Wire.compactText (Wire.writeContainers containers)) = .ok layout) ↔
      ∃ layout, Layout.ofContainers containers = .ok layout := by
  have written :
      Wire.compactText (Wire.writeContainers twice) = twiceText := by
    decide +kernel
  have refused :
      Layout.ofContainers twice = .error (.duplicateContainer "0") := by
    decide +kernel
  have lastOnly : (.ofList twice : Layout) = .ofList [.vacant "0"] := by
    decide +kernel
  have decoded : Wire.decodeLayout twiceText = .ok (.ofList [.vacant "0"]) := by
    rw [← written, Wire.decodeLayout_writeContainers, lastOnly]
  refine ⟨written, refused, decoded, ?_⟩
  intro agree
  obtain ⟨layout, built⟩ := (agree twice).mp ⟨_, by rw [written, decoded]⟩
  rw [refused] at built
  cases built

end Sample

end WarmStandby
