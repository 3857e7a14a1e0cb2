import WarmStandby.Command.Request
import WarmStandby.Proofs.StoredForms
import WarmStandby.Proofs.WireBrackets
import WarmStandby.Wire.Serialized

/-!
# Layouts are read back from their texts

Every value of the model is read back from what is written for it, in either
style and inside any other value.  So is a layout, whatever its ids and names
are and whether or not its containers hold tasks: from one text, from the output
of the program, and from the texts of its containers one by one.
-/

set_option autoImplicit false

namespace WarmStandby

universe u

/-! ## Partitions are told apart -/

instance : Std.LawfulEqOrd Partition where
  eq_of_compare := by
    intro left right same
    obtain ⟨leftSystem, leftStream, leftNumber⟩ := left
    obtain ⟨rightSystem, rightStream, rightNumber⟩ := right
    obtain ⟨sameSystem, sameOthers⟩ := compareLex_eq_eq.mp same
    obtain ⟨sameStream, sameNumber⟩ := compareLex_eq_eq.mp sameOthers
    have systemExact : leftSystem = rightSystem :=
      Std.LawfulEqOrd.eq_of_compare sameSystem
    have streamExact : leftStream = rightStream :=
      Std.LawfulEqOrd.eq_of_compare sameStream
    have numberExact : leftNumber = rightNumber :=
      Std.LawfulEqOrd.eq_of_compare sameNumber
    rw [systemExact, streamExact, numberExact]

namespace Wire

/-! ## Fields and entries -/

theorem readField_takes {State Value : Type u} {reader : Reader Value}
    {writer : Writer} {value : Value} {present : Bool}
    (absent : present = false) (takes : reader.Takes writer value)
    (field : String) (store : Value → State) :
    Reader.TakesMember (readField field present reader store) writer
      (store value) := by
  intro style depth rest ends
  have read := takes.readValue style depth rest ends
  simp [readField, absent, read]

theorem readRecord_takes {State Value : Type u}
    {readMember : State → String → Reader State} {initial last : State}
    {members : List (String × Writer)}
    (reads : ReadsMembers readMember initial members last)
    {finish : State → Except Fault Value} {value : Value}
    (finished : finish last = .ok value) (readFields : Reader Value) :
    Reader.Takes
      (readRecord
        (fun text => do
          let (fields, text) ← readObject readMember initial text
          let value ← finish fields
          return (value, text))
        readFields)
      (writeObject members) value where
  opens _ _ := ⟨'\x7b', _, writeItems_opens _ _ _ _ _, rfl⟩
  reads style depth space rest blank _ := by
    have read := readObject_insideBrackets reads style depth rest
    rw [writeObject_append, readRecord, skipSpace_append blank,
      skipSpace_cons rfl]
    simp only [read]
    change (do
      let value ← finish last
      return (value, rest)) = _
    rw [finished]
    rfl

/-- What reading an object of any keys does at each member. -/
def readEntry {Value : Type} (reader : Reader Value) (entries : Entries Value)
    (key : String) : Reader (Entries Value) := fun text => do
  let (value, text) ← readValue reader text
  return (entries.insert (key, value), text)

section Entries

variable {Item : Type u} {Value : Type} {reader : Reader Value}
  {name : Item → String} {writer : Item → Writer} {value : Item → Value}

theorem readEntry_takes {item : Item}
    (takes : reader.Takes (writer item) (value item)) (entries : Entries Value) :
    Reader.TakesMember (readEntry reader entries (name item)) (writer item)
      (entries.insert (name item, value item)) := by
  intro style depth rest ends
  have read := takes.readValue style depth rest ends
  rw [readEntry, read]
  rfl

theorem readEntry_readsMembers {items : List Item}
    (each : ∀ item ∈ items, reader.Takes (writer item) (value item))
    (entries : Entries Value) :
    ReadsMembers (readEntry reader) entries
      (items.map (fun item => (name item, writer item)))
      ((items.map (fun item => (name item, value item))).foldl Roster.insert
        entries) := by
  induction items generalizing entries with
  | nil => exact .nil entries
  | cons item items inductionHypothesis =>
      obtain ⟨takes, others⟩ := List.forall_mem_cons.mp each
      exact .cons (readEntry_takes takes entries)
        (inductionHypothesis others _)

theorem readEntries_takes {items : List Item}
    (each : ∀ item ∈ items, reader.Takes (writer item) (value item)) :
    Reader.Takes (readEntries reader)
      (writeObject (items.map (fun item => (name item, writer item))))
      (.ofList (items.map (fun item => (name item, value item)))) where
  opens _ _ := ⟨'\x7b', _, writeItems_opens _ _ _ _ _, rfl⟩
  reads style depth space rest blank _ := by
    rw [writeObject_append, readEntries, skipSpace_append blank,
      skipSpace_cons rfl]
    exact readObject_insideBrackets (readEntry_readsMembers each .empty) style
      depth rest

end Entries

theorem Reader.Takes.andThen {Raw Value : Type u} {reader : Reader Raw}
    {writer : Writer} {raw : Raw} (takes : reader.Takes writer raw)
    (finish : Raw → Except Fault Value) {value : Value}
    (finished : finish raw = .ok value) :
    Reader.Takes
      (fun text => do
        let (raw, text) ← reader text
        let value ← finish raw
        return (value, text))
      writer value where
  opens := takes.opens
  reads style depth space rest blank ends := by
    rw [takes.reads style depth space rest blank ends]
    change (do
      let value ← finish raw
      return (value, rest)) = _
    rw [finished]
    rfl

/-! ## Partitions and roles -/

theorem readPartition_takes (partition : Partition) :
    readPartition.Takes (writePartition partition) partition := by
  have reads : ReadsMembers PartitionFields.readMember .none
      [("system", writeString partition.system),
       ("stream", writeString partition.stream),
       ("partition", writeNatural partition.number.toNat)]
      ⟨some partition.system, some partition.stream,
        some partition.number⟩ := by
    apply ReadsMembers.cons
    · exact readField_takes rfl (readString_takes _) "system" _
    apply ReadsMembers.cons
    · exact readField_takes rfl (readString_takes _) "stream" _
    apply ReadsMembers.cons
    · exact readField_takes rfl (readWord_takes _) "partition" _
    apply ReadsMembers.nil
  have finished : PartitionFields.toPartition
      ⟨some partition.system, some partition.stream, some partition.number⟩ =
      .ok partition :=
    rfl
  exact readRecord_takes reads finished _

theorem readPartitions_takes (partitions : List Partition) :
    readPartitions.Takes (writeList (partitions.map writePartition))
      (.ofList partitions) := by
  have listed : Reader.Takes (readList readPartition)
      (writeList (partitions.map writePartition)) (partitions.map id) :=
    readList_takes (fun partition _ => readPartition_takes partition)
  rw [List.map_id] at listed
  exact listed.andThen (fun partitions => .ok (Roster.ofList partitions)) rfl

theorem readRole_takes_word {word : String} {role : Role}
    (known : roleOfWord word = .ok role) :
    readRole.Takes (writeString word) role where
  opens _ _ := ⟨'"', _, rfl, rfl⟩
  reads _ _ space rest blank _ := by
    rw [writeString, quote_append, readRole, skipSpace_append blank,
      skipSpace_cons rfl]
    simp only [readRestOfString_quoted]
    change (do
      let role ← roleOfWord word
      return (role, rest)) = _
    rw [known]
    rfl

theorem readRole_takes (role : Role) :
    readRole.Takes (writeRole role) role := by
  apply readRole_takes_word
  cases role <;> rfl

/-! ## Tasks, containers and layouts -/

/-- A task is read from any list of its partitions, and from any members that
tell its role. -/
theorem readTask_takes_members {task : Task} {partitions : List Partition}
    {roleMembers : List (String × Writer)} {told : Option Role}
    (listed : Roster.ofList partitions = task.partitions)
    (reads : ReadsMembers TaskFields.readMember
      ⟨some task.name, some task.partitions, some task.changelog, none⟩
      roleMembers
      ⟨some task.name, some task.partitions, some task.changelog, told⟩)
    (tells : told.getD .active = task.role) :
    readTask.Takes
      (writeObject
        ([("task-name", writeString task.name),
          ("partitions", writeList (partitions.map writePartition)),
          ("changelog-partition", writeNatural task.changelog.toNat)]
            ++ roleMembers))
      task := by
  have partitionsTaken := readPartitions_takes partitions
  rw [listed] at partitionsTaken
  have allRead : ReadsMembers TaskFields.readMember .none
      ([("task-name", writeString task.name),
        ("partitions", writeList (partitions.map writePartition)),
        ("changelog-partition", writeNatural task.changelog.toNat)]
          ++ roleMembers)
      ⟨some task.name, some task.partitions, some task.changelog, told⟩ := by
    apply ReadsMembers.cons
    · exact readField_takes rfl (readString_takes _) "task-name" _
    apply ReadsMembers.cons
    · exact readField_takes rfl partitionsTaken "partitions" _
    apply ReadsMembers.cons
    · exact readField_takes rfl (readWord_takes _) "changelog-partition" _
    exact reads
  have finished : TaskFields.toTask
      ⟨some task.name, some task.partitions, some task.changelog, told⟩ =
      .ok task := by
    change Except.ok (Task.mk task.name task.partitions task.changelog
      (told.getD .active)) = _
    rw [tells]
  exact readRecord_takes allRead finished _

theorem readTask_takes (task : Task) :
    readTask.Takes (writeTask task) task := by
  have told : ReadsMembers TaskFields.readMember
      ⟨some task.name, some task.partitions, some task.changelog, none⟩
      [("role", writeRole task.role)]
      ⟨some task.name, some task.partitions, some task.changelog,
        some task.role⟩ := by
    apply ReadsMembers.cons
    · exact readField_takes rfl (readRole_takes _) "role" _
    apply ReadsMembers.nil
  exact readTask_takes_members task.partitions.ofList_toList told rfl

theorem readEntries_takes_own {Record : Type} {key : Record → String}
    {reader : Reader Record} {writer : Record → Writer} {roster : Roster key}
    (each : ∀ record ∈ roster.toList, reader.Takes (writer record) record) :
    Reader.Takes (readEntries reader)
      (writeObject (roster.toList.map
        (fun record => (key record, writer record))))
      roster.ownEntries := by
  rw [← roster.ownEntries.ofList_toList]
  exact readEntries_takes each

/-- A container is read from any members that give tasks for it. -/
theorem readContainer_takes_members {id : ContainerId} {container : Container}
    {taskMembers : List (String × Writer)} {entries : Option (Entries Task)}
    (reads : ReadsMembers ContainerFields.readMember ⟨some id, none⟩
      taskMembers ⟨some id, entries⟩)
    (made : Container.ofEntries id (entries.getD .empty) = .ok container) :
    readContainer.Takes (writeObject (("id", writeString id) :: taskMembers))
      container := by
  have allRead : ReadsMembers ContainerFields.readMember .none
      (("id", writeString id) :: taskMembers) ⟨some id, entries⟩ := by
    apply ReadsMembers.cons
    · exact readField_takes rfl (readString_takes _) "id" _
    exact reads
  have finished : ContainerFields.toContainer ⟨some id, entries⟩ =
      .ok container := by
    change (Container.ofEntries id _).mapError Fault.inconsistent = _
    rw [made]
    rfl
  exact readRecord_takes allRead finished _

theorem reads_tasks (id : ContainerId) {writer : Writer}
    {entries : Entries Task}
    (taken : Reader.Takes (readEntries readTask) writer entries) :
    ReadsMembers ContainerFields.readMember ⟨some id, none⟩
      [("tasks", writer)] ⟨some id, some entries⟩ := by
  apply ReadsMembers.cons
  · exact readField_takes rfl taken "tasks" _
  apply ReadsMembers.nil

theorem readContainer_takes (container : Container) :
    readContainer.Takes (writeContainer container) container := by
  have tasksTaken : Reader.Takes (readEntries readTask)
      (writeObject (container.tasks.toList.map
        (fun task => (task.name, writeTask task))))
      container.tasks.ownEntries :=
    readEntries_takes_own (fun task _ => readTask_takes task)
  exact readContainer_takes_members (reads_tasks _ tasksTaken)
    container.ofEntries_own

theorem readLayout_takes_entries {writer : Writer} {entries : Entries Container}
    (taken : Reader.Takes (readEntries readContainer) writer entries)
    {layout : Layout} (made : Layout.ofEntries entries = .ok layout) :
    readLayout.Takes writer layout := by
  have finished : (Layout.ofEntries entries).mapError Fault.inconsistent =
      .ok layout := by
    rw [made]
    rfl
  exact taken.andThen
    (fun entries => (Layout.ofEntries entries).mapError .inconsistent) finished

theorem readLayout_takes (layout : Layout) :
    readLayout.Takes (writeLayout layout) layout := by
  have containersTaken : Reader.Takes (readEntries readContainer)
      (writeLayout layout) layout.ownEntries :=
    readEntries_takes_own (fun container _ => readContainer_takes container)
  exact readLayout_takes_entries containersTaken layout.ofEntries_own

/-! ## Texts -/

theorem Reader.Takes.readWhole_text {Value : Type u} {reader : Reader Value}
    {writer : Writer} {value : Value} (takes : reader.Takes writer value)
    (style : Style) :
    Wire.readWhole reader (String.ofList (writer style 0)).toList =
      .ok value := by
  have read := takes.readWhole style 0 blank_nil
  rw [String.toList_ofList]
  rwa [List.append_nil] at read

theorem decodeContainer_encodeContainer (container : Container) :
    decodeContainer (encodeContainer container) = .ok container :=
  (readContainer_takes container).readWhole_text .compact

theorem decodeLayout_written (layout : Layout) (style : Style)
    {space : String} (blank : Blank space.toList) :
    decodeLayout (String.ofList (writeLayout layout style 0) ++ space) =
      .ok layout := by
  unfold decodeLayout
  rw [String.toList_append, String.toList_ofList]
  exact (readLayout_takes layout).readWhole style 0 blank

end Wire

namespace Layout

theorem decodeSerialized_own (containers : List Container) :
    decodeSerialized (containers.map (fun container =>
        (container.id, Wire.encodeContainer container))) =
      .ok (containers.map (fun container => (container.id, container))) := by
  induction containers with
  | nil => rfl
  | cons container containers inductionHypothesis =>
      simp [decodeSerialized, Wire.decodeContainer_encodeContainer,
        inductionHypothesis]

theorem toSerialized_round_trip (layout : Layout) :
    ∃ texts, layout.toSerialized = .ok texts ∧
      texts.toList = layout.toList.map (fun container =>
        (container.id, Wire.encodeContainer container)) ∧
      ofSerialized texts = .ok layout := by
  let texts := layout.toList.map
    (fun container => (container.id, Wire.encodeContainer container))
  have listed : (.ofList texts : Entries String).toList = texts :=
    Roster.toList_ofList_of_ascending (List.pairwise_map.mpr layout.ascending)
  have own : Roster.ofList (layout.toList.map
      (fun container => (container.id, container))) = layout.ownEntries :=
    layout.ownEntries.ofList_toList
  refine ⟨.ofList texts, rfl, listed, ?_⟩
  rw [ofSerialized, listed, decodeSerialized_own]
  simp only [own, ofEntries_own]
  rfl

/-- Every encoding of a layout is decoded to the layout: its text in either
style, the output of an expansion that yields it, and the texts of its
containers, which are those of its ids. -/
theorem encodings_round_trip (layout : Layout) :
    Wire.decodeLayout (Wire.encodeLayout layout) = .ok layout ∧
      Wire.decodeLayout (Wire.indentedText (Wire.writeLayout layout)) =
        .ok layout ∧
      (∀ events buddies,
        Wire.decodeLayout
          (Request.respondExpanded ⟨layout, events, buddies⟩).output =
          .ok layout) ∧
      ∃ texts, layout.toSerialized = .ok texts ∧
        texts.toList = layout.toList.map (fun container =>
          (container.id, Wire.encodeContainer container)) ∧
        ofSerialized texts = .ok layout ∧ texts.keys = layout.ids := by
  have ended : ∀ style, Wire.decodeLayout
      (String.ofList (Wire.writeLayout layout style 0)) = .ok layout := by
    intro style
    have nothing : Wire.Blank "".toList := Wire.blank_nil
    have read := Wire.decodeLayout_written layout style nothing
    rwa [String.append_empty] at read
  obtain ⟨texts, written, listed, read⟩ := layout.toSerialized_round_trip
  have keys : texts.keys = layout.ids := by
    simp [Roster.keys, listed, ids]
  refine ⟨ended .compact, ended .indented, ?_,
    texts, written, listed, read, keys⟩
  intro events buddies
  have lineEnd : Wire.Blank "\n".toList := by
    intro character member
    have isLineBreak : character = '\n' := by
      simpa using member
    rw [isLineBreak]
    rfl
  exact Wire.decodeLayout_written layout .indented lineEnd

end Layout

end WarmStandby
