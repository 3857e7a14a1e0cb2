import WarmStandby.Proofs.WireRoundTrip
import WarmStandby.Sample

/-!
# Older spellings of a layout

A layout has further texts beside the one that is written for it.  The role of
an active task need not be told, that of a standby has a second word, the tasks
of a container without any may be left out, and a set of partitions may be
listed in any order and more than once.  These choices are free at every task
and at every container, and none of them changes what is decoded.
-/

set_option autoImplicit false

namespace WarmStandby.Wire

/-! ## Spellings -/

/-- The list has the partitions of the set, in any order and with any
repetitions. -/
def Lists (listed : List Partition) (partitions : PartitionSet) : Prop :=
  ∀ partition, partition ∈ listed ↔ partition ∈ partitions.toList

/-- The members of a task object that tell its role: one, or none at all. -/
inductive RoleSpelling : Role → List (String × Writer) → Prop where
  | written (role : Role) : RoleSpelling role [("role", writeRole role)]
  | leftOut : RoleSpelling .active []
  | shortWord : RoleSpelling .standby [("role", writeString "standby")]

inductive TaskSpelling : Task → Writer → Prop where
  | object {task : Task} {listed : List Partition}
      {roleMembers : List (String × Writer)}
      (lists : Lists listed task.partitions)
      (role : RoleSpelling task.role roleMembers) :
      TaskSpelling task
        (writeObject
          ([("task-name", writeString task.name),
            ("partitions", writeList (listed.map writePartition)),
            ("changelog-partition", writeNatural task.changelog.toNat)]
              ++ roleMembers))

/-- The members of a container object that give its tasks: one, in which every
task has a spelling of its own, or none at all. -/
inductive TasksSpelling : TaskRoster → List (String × Writer) → Prop where
  | object {tasks : TaskRoster} {spelled : List (Task × Writer)}
      (all : spelled.map Prod.fst = tasks.toList)
      (each : ∀ part ∈ spelled, TaskSpelling part.1 part.2) :
      TasksSpelling tasks
        [("tasks", writeObject
          (spelled.map (fun part => (part.1.name, part.2))))]
  | leftOut : TasksSpelling .empty []

inductive ContainerSpelling : Container → Writer → Prop where
  | object {container : Container} {taskMembers : List (String × Writer)}
      (tasks : TasksSpelling container.tasks taskMembers) :
      ContainerSpelling container
        (writeObject (("id", writeString container.id) :: taskMembers))

inductive LayoutSpelling : Layout → Writer → Prop where
  | object {layout : Layout} {spelled : List (Container × Writer)}
      (all : spelled.map Prod.fst = layout.toList)
      (each : ∀ part ∈ spelled, ContainerSpelling part.1 part.2) :
      LayoutSpelling layout
        (writeObject (spelled.map (fun part => (part.1.id, part.2))))

/-! ## What is written is a spelling -/

theorem writeTask_spelling (task : Task) :
    TaskSpelling task (writeTask task) :=
  .object (fun _ => Iff.rfl) (.written task.role)

theorem writeContainer_spelling (container : Container) :
    ContainerSpelling container (writeContainer container) := by
  have tasks : TasksSpelling container.tasks
      [("tasks", writeObject
        ((container.tasks.toList.map (fun task => (task, writeTask task))).map
          (fun part => (part.1.name, part.2))))] := by
    apply TasksSpelling.object
    · simp [Function.comp_def]
    · intro part member
      obtain ⟨task, _, rfl⟩ := List.mem_map.mp member
      exact writeTask_spelling task
  rw [List.map_map] at tasks
  exact .object tasks

theorem writeLayout_spelling (layout : Layout) :
    LayoutSpelling layout (writeLayout layout) := by
  have containers : LayoutSpelling layout
      (writeObject
        ((layout.toList.map
          (fun container => (container, writeContainer container))).map
            (fun part => (part.1.id, part.2)))) := by
    apply LayoutSpelling.object
    · simp [Function.comp_def]
    · intro part member
      obtain ⟨container, _, rfl⟩ := List.mem_map.mp member
      exact writeContainer_spelling container
  rw [List.map_map] at containers
  exact containers

/-! ## Every spelling is read -/

theorem Lists.ofList_eq {listed : List Partition} {partitions : PartitionSet}
    (lists : Lists listed partitions) : Roster.ofList listed = partitions := by
  apply Roster.eq_of_mem_iff
  intro partition
  have members : partition ∈ (Roster.ofList listed : PartitionSet).keys ↔
      partition ∈ listed.map (fun partition => partition) :=
    Roster.mem_keys_ofList
  simp only [Roster.keys, List.map_id'] at members
  rw [members]
  exact lists partition

theorem RoleSpelling.reads {role : Role} {members : List (String × Writer)}
    (spelling : RoleSpelling role members) (name : Option TaskName)
    (partitions : Option PartitionSet) (changelog : Option UInt32) :
    ∃ told, told.getD .active = role ∧
      ReadsMembers TaskFields.readMember ⟨name, partitions, changelog, none⟩
        members ⟨name, partitions, changelog, told⟩ := by
  cases spelling with
  | written role =>
      refine ⟨some role, rfl, ?_⟩
      apply ReadsMembers.cons
      · exact readField_takes rfl (readRole_takes role) "role" _
      apply ReadsMembers.nil
  | leftOut =>
      refine ⟨none, rfl, ?_⟩
      apply ReadsMembers.nil
  | shortWord =>
      have known : roleOfWord "standby" = .ok .standby := rfl
      refine ⟨some .standby, rfl, ?_⟩
      apply ReadsMembers.cons
      · exact readField_takes rfl (readRole_takes_word known) "role" _
      apply ReadsMembers.nil

theorem TaskSpelling.takes {task : Task} {writer : Writer}
    (spelling : TaskSpelling task writer) : readTask.Takes writer task := by
  cases spelling with
  | object lists role =>
      obtain ⟨told, tells, reads⟩ := role.reads _ _ _
      exact readTask_takes_members lists.ofList_eq reads tells

theorem readEntries_takes_spelled {Record : Type} {key : Record → String}
    {reader : Reader Record} {roster : Roster key}
    {spelled : List (Record × Writer)}
    (all : spelled.map Prod.fst = roster.toList)
    (each : ∀ part ∈ spelled, reader.Takes part.2 part.1) :
    Reader.Takes (readEntries reader)
      (writeObject (spelled.map (fun part => (key part.1, part.2))))
      roster.ownEntries := by
  have entries : roster.ownEntries.toList =
      spelled.map (fun part => (key part.1, part.1)) := by
    change roster.toList.map (fun record => (key record, record)) = _
    rw [← all, List.map_map]
    rfl
  rw [← roster.ownEntries.ofList_toList, entries]
  exact readEntries_takes each

theorem TasksSpelling.reads {tasks : TaskRoster}
    {members : List (String × Writer)} (spelling : TasksSpelling tasks members)
    (id : ContainerId) :
    ∃ entries, entries.getD .empty = tasks.ownEntries ∧
      ReadsMembers ContainerFields.readMember ⟨some id, none⟩ members
        ⟨some id, entries⟩ := by
  cases spelling with
  | @object tasks spelled all each =>
      have taken : ∀ part ∈ spelled, readTask.Takes part.2 part.1 := by
        intro part member
        exact (each part member).takes
      exact ⟨some tasks.ownEntries, rfl,
        reads_tasks id (readEntries_takes_spelled all taken)⟩
  | leftOut => exact ⟨none, rfl, .nil _⟩

theorem ContainerSpelling.takes {container : Container} {writer : Writer}
    (spelling : ContainerSpelling container writer) :
    readContainer.Takes writer container := by
  cases spelling with
  | object tasks =>
      obtain ⟨entries, own, reads⟩ := tasks.reads container.id
      apply readContainer_takes_members reads
      rw [own]
      exact container.ofEntries_own

theorem LayoutSpelling.takes {layout : Layout} {writer : Writer}
    (spelling : LayoutSpelling layout writer) :
    readLayout.Takes writer layout := by
  cases spelling with
  | @object spelled all each =>
      have taken : ∀ part ∈ spelled, readContainer.Takes part.2 part.1 := by
        intro part member
        exact (each part member).takes
      exact readLayout_takes_entries (readEntries_takes_spelled all taken)
        layout.ofEntries_own

/-- What is written for a layout is one of its spellings, and every spelling is
decoded to the layout, in either style. -/
theorem older_spellings_decoded (layout : Layout) :
    LayoutSpelling layout (writeLayout layout) ∧
    ∀ writer, LayoutSpelling layout writer →
      decodeLayout (compactText writer) = .ok layout ∧
      decodeLayout (indentedText writer) = .ok layout := by
  refine ⟨writeLayout_spelling layout, ?_⟩
  intro writer spelling
  have taken := spelling.takes
  exact ⟨taken.readWhole_text .compact, taken.readWhole_text .indented⟩

end WarmStandby.Wire

namespace WarmStandby.Sample

def counting : Task := .active "a" [partition 1, partition 2] 1

def spare : Task := ⟨"b", .empty, 2, .standby⟩

def shared : Container := ⟨"0", .ofList [counting, spare]⟩

def mixed : Layout := .ofList [shared, .vacant "1"]

/-- The partitions are out of order, with one repeated, and no role is told. -/
def writeCounting : Wire.Writer :=
  Wire.writeObject
    [("task-name", Wire.writeString "a"),
      ("partitions", Wire.writeList
        ([partition 2, partition 1, partition 2].map Wire.writePartition)),
      ("changelog-partition", Wire.writeNatural 1)]

def writeSpare : Wire.Writer :=
  Wire.writeObject
    [("task-name", Wire.writeString "b"), ("partitions", Wire.writeList []),
      ("changelog-partition", Wire.writeNatural 2),
      ("role", Wire.writeString "standby")]

def writeShared : Wire.Writer :=
  Wire.writeObject
    [("id", Wire.writeString "0"),
      ("tasks", Wire.writeObject [("a", writeCounting), ("b", writeSpare)])]

def writeBare : Wire.Writer := Wire.writeObject [("id", Wire.writeString "1")]

def writeMixed : Wire.Writer :=
  Wire.writeObject [("0", writeShared), ("1", writeBare)]

def mixedText : String :=
  "\x7b\"0\":\x7b\"id\":\"0\",\"tasks\":\x7b" ++
    "\"a\":\x7b\"task-name\":\"a\",\"partitions\":[" ++
    "\x7b\"system\":\"kafka\",\"stream\":\"page-views\",\"partition\":2\x7d," ++
    "\x7b\"system\":\"kafka\",\"stream\":\"page-views\",\"partition\":1\x7d," ++
    "\x7b\"system\":\"kafka\",\"stream\":\"page-views\",\"partition\":2\x7d" ++
    "],\"changelog-partition\":1\x7d," ++
    "\"b\":\x7b\"task-name\":\"b\",\"partitions\":[]," ++
    "\"changelog-partition\":2,\"role\":\"standby\"\x7d\x7d\x7d," ++
    "\"1\":\x7b\"id\":\"1\"\x7d\x7d"

theorem counting_spelling : Wire.TaskSpelling counting writeCounting := by
  have sorted : counting.partitions.toList = [partition 1, partition 2] := by
    decide +kernel
  have listed : Wire.Lists [partition 2, partition 1, partition 2]
      counting.partitions := by
    intro consumed
    rw [sorted]
    simp only [List.mem_cons, List.not_mem_nil, or_false]
    tauto
  have spelling := Wire.TaskSpelling.object listed .leftOut
  exact spelling

theorem spare_spelling : Wire.TaskSpelling spare writeSpare := by
  have listed : Wire.Lists [] spare.partitions := fun _ => Iff.rfl
  have spelling := Wire.TaskSpelling.object listed .shortWord
  exact spelling

theorem shared_spelling : Wire.ContainerSpelling shared writeShared := by
  have tasks : Wire.TasksSpelling shared.tasks
      [("tasks", Wire.writeObject [("a", writeCounting), ("b", writeSpare)])] :=
    @Wire.TasksSpelling.object _
      [(counting, writeCounting), (spare, writeSpare)] (by decide +kernel)
      (by simp [counting_spelling, spare_spelling])
  exact .object tasks

theorem bare_spelling : Wire.ContainerSpelling (.vacant "1") writeBare :=
  .object .leftOut

theorem mixed_spelling : Wire.LayoutSpelling mixed writeMixed :=
  @Wire.LayoutSpelling.object mixed
    [(shared, writeShared), (.vacant "1", writeBare)] (by decide +kernel)
    (by simp [shared_spelling, bare_spelling])

theorem older_spellings_decoded_mixed :
    Wire.LayoutSpelling mixed writeMixed ∧
    Wire.compactText writeMixed = mixedText ∧
    Wire.decodeLayout mixedText = .ok mixed := by
  have written : Wire.compactText writeMixed = mixedText := by decide +kernel
  have decoded :=
    ((Wire.older_spellings_decoded mixed).2 writeMixed mixed_spelling).1
  rw [written] at decoded
  exact ⟨mixed_spelling, written, decoded⟩

end WarmStandby.Sample
