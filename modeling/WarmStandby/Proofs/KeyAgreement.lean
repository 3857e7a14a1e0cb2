import WarmStandby.Proofs.ByteOrder
import WarmStandby.Proofs.StoredExpansions
import WarmStandby.Proofs.StoredTexts

/-!
# Keys agree with what they are keys of

Containers and layouts come about by operations: they are made of parts, read,
derived, merged and expanded.  Whatever sequence of them leads to a container
or a layout, what is stored for it has distinct keys in the order of their
bytes, each the name of the task or the id of the container under it.
-/

set_option autoImplicit false

namespace WarmStandby

universe u

/-! ## Sound stored forms -/

def Partition.Precedes (left right : Partition) : Prop :=
  Text.bytes left.system < Text.bytes right.system ∨
    left.system = right.system ∧
      (Text.bytes left.stream < Text.bytes right.stream ∨
        left.stream = right.stream ∧ left.number < right.number)

/-- The keys are distinct, in the order of their bytes, and those that the
records carry. -/
structure Entries.KeyedBy {Record : Type u} (entries : Entries Record)
    (key : Record → String) : Prop where
  distinct : entries.keys.Nodup
  ascending : entries.keys.Pairwise
    (fun left right => Text.bytes left < Text.bytes right)
  agree : ∀ entry ∈ entries.toList, entry.1 = key entry.2

structure StoredContainer.Sound (stored : StoredContainer) : Prop where
  keyed : stored.tasks.KeyedBy Task.name
  partitions : ∀ entry ∈ stored.tasks.toList,
    entry.2.partitions.toList.Pairwise Partition.Precedes

structure StoredLayout.Sound (stored : StoredLayout) : Prop where
  keyed : Entries.KeyedBy stored StoredContainer.id
  containers : ∀ entry ∈ stored.toList, entry.2.Sound

theorem Partition.precedes_of_compare {left right : Partition}
    (before : compare left right = .lt) : left.Precedes right := by
  have unfolded : compare left right =
      (compare left.system right.system).then
        ((compare left.stream right.stream).then
          (compare left.number right.number)) :=
    rfl
  rw [unfolded, Ordering.then_eq_lt, Ordering.then_eq_lt,
    Std.LawfulEqOrd.compare_eq_iff_eq, Std.LawfulEqOrd.compare_eq_iff_eq]
    at before
  exact before.imp Text.bytes_lt_of_compare
    (And.imp_right (Or.imp Text.bytes_lt_of_compare
      (And.imp_right compareOfLessAndEq_eq_lt.mp)))

theorem PartitionSet.precedes (partitions : PartitionSet) :
    partitions.toList.Pairwise Partition.Precedes :=
  partitions.ascending.imp Partition.precedes_of_compare

theorem Roster.image_keyedBy {Record : Type} {Image : Type u}
    {key : Record → String} {view : Record → String × Image}
    {imageKey : Image → String} (roster : Roster key)
    (keeps : ∀ record, (view record).1 = key record)
    (carries : ∀ record, (view record).1 = imageKey (view record).2) :
    Entries.KeyedBy (roster.image view keeps) imageKey where
  distinct := Roster.nodup_keys _
  ascending := List.pairwise_map.mpr
    ((roster.image view keeps).ascending.imp Text.bytes_lt_of_compare)
  agree := by
    intro entry member
    obtain ⟨record, _, rfl⟩ := List.mem_map.mp member
    exact carries record

theorem Container.stored_sound (container : Container) :
    container.stored.Sound where
  keyed := container.tasks.image_keyedBy (fun _ => rfl) (fun _ => rfl)
  partitions entry _ := entry.2.partitions.precedes

theorem Container.check_stored (container : Container) :
    container.stored.check = .ok container :=
  container.ofEntries_own

theorem Layout.stored_sound (layout : Layout) : layout.stored.Sound where
  keyed := layout.image_keyedBy (fun _ => rfl) (fun _ => rfl)
  containers := by
    intro entry member
    obtain ⟨container, _, rfl⟩ := List.mem_map.mp member
    exact container.stored_sound

theorem Layout.stored_get? {layout : Layout} {id : ContainerId}
    {container : Container} (found : layout.get? id = some container) :
    layout.stored.get? id = some (id, container.stored) := by
  obtain ⟨member, rfl⟩ := Roster.get?_eq_some_iff.mp found
  exact Roster.get?_eq_some_iff.mpr ⟨List.mem_map_of_mem member, rfl⟩

/-! ## Operations on what is stored -/

mutual

/-- Some operations lead to the container, and leave it stored as given. -/
inductive Container.StoredAs : Container → StoredContainer → Prop
  | vacant (id : ContainerId) :
      Container.StoredAs (.vacant id) ⟨id, .empty⟩
  | ofTasks {id : ContainerId} {tasks : List Task} {container : Container}
      (made : Container.ofTasks id tasks = .ok container) :
      Container.StoredAs container
        ⟨id, .ofList (tasks.map (fun task => (task.name, task)))⟩
  | ofEntries {id : ContainerId} {entries : Entries Task}
      {container : Container}
      (made : Container.ofEntries id entries = .ok container) :
      Container.StoredAs container ⟨id, entries⟩
  | decoded {text : String} {container : Container} {stored : StoredContainer}
      (read : Wire.decodeStoredContainer text = .ok stored)
      (made : Wire.decodeContainer text = .ok container) :
      Container.StoredAs container stored
  | derived {active : Container} {stored : StoredContainer}
      (source : Container.StoredAs active stored) (replica : UInt32) :
      Container.StoredAs (Buddy.derive active replica).model
        (stored.derive replica)
  | found {layout : Layout} {storedLayout : StoredLayout} {id : ContainerId}
      {container : Container} {stored : StoredContainer}
      (source : Layout.StoredAs layout storedLayout)
      (isFound : layout.get? id = some container)
      (isStored : storedLayout.get? id = some (id, stored)) :
      Container.StoredAs container stored

inductive Layout.StoredAs : Layout → StoredLayout → Prop
  | empty : Layout.StoredAs .empty .empty
  | added {layout next : Layout} {stored : StoredLayout}
      {container : Container} {part : StoredContainer}
      (source : Layout.StoredAs layout stored)
      (partSource : Container.StoredAs container part)
      (made : layout.add container = .ok next) :
      Layout.StoredAs next (stored.put part)
  | ofContainers {parts : List (Container × StoredContainer)} {layout : Layout}
      (sources : ∀ part ∈ parts, Container.StoredAs part.1 part.2)
      (made : Layout.ofContainers (parts.map Prod.fst) = .ok layout) :
      Layout.StoredAs layout
        (StoredLayout.putAll .empty (parts.map Prod.snd))
  | ofEntries {parts : Entries (Container × StoredContainer)} {layout : Layout}
      (sources : ∀ part ∈ parts.toList,
        Container.StoredAs part.2.1 part.2.2)
      (made : Layout.ofEntries (parts.mapRecords Prod.fst) = .ok layout) :
      Layout.StoredAs layout (parts.mapRecords Prod.snd)
  | decoded {text : String} {layout : Layout} {stored : StoredLayout}
      (read : Wire.decodeStoredLayout text = .ok stored)
      (made : Wire.decodeLayout text = .ok layout) :
      Layout.StoredAs layout stored
  | ofSerialized {texts : Entries String} {layout : Layout}
      {containers : List (String × StoredContainer)}
      (read : Layout.decodeStoredTexts texts.toList = .ok containers)
      (made : Layout.ofSerialized texts = .ok layout) :
      Layout.StoredAs layout (.ofList containers)
  | finished {merge : Merge} {stored : StoredLayout}
      (source : Merge.StoredAs merge stored) :
      Layout.StoredAs merge.layout stored
  | merged {layout merged : Layout} {stored : StoredLayout}
      {parts : List (Buddy × StoredContainer)}
      (source : Layout.StoredAs layout stored)
      (sources : ∀ part ∈ parts, Container.StoredAs part.1.model part.2)
      (made : layout.merge (parts.map Prod.fst) = .ok merged) :
      Layout.StoredAs merged (stored.putAll (parts.map Prod.snd))
  | expanded {layout : Layout} {stored : StoredLayout}
      {factor : ReplicationFactor} {outcome : Outcome}
      (source : Layout.StoredAs layout stored)
      (made : layout.expand factor = .ok outcome) :
      Layout.StoredAs outcome.layout (stored.putAll (stored.buddies factor))
  | generated {layout : Layout} {stored : StoredLayout} {value : Int}
      {factor : ReplicationFactor} {outcome : Outcome}
      (source : Layout.StoredAs layout stored)
      (accepted : ReplicationFactor.ofInt? value = some factor)
      (made : layout.generate value = .ok outcome) :
      Layout.StoredAs outcome.layout (stored.putAll (stored.buddies factor))

inductive Merge.StoredAs : Merge → StoredLayout → Prop
  | start {layout : Layout} {stored : StoredLayout}
      (source : Layout.StoredAs layout stored) :
      Merge.StoredAs (.start layout) stored
  | taken {merge next : Merge} {stored : StoredLayout} {buddy : Buddy}
      {part : StoredContainer} (source : Merge.StoredAs merge stored)
      (partSource : Container.StoredAs buddy.model part)
      (pushed : merge.push buddy = (.ok (), next)) :
      Merge.StoredAs next (stored.put part)
  | refused {merge next : Merge} {stored : StoredLayout} {buddy : Buddy}
      {fault : GenerationFault} (source : Merge.StoredAs merge stored)
      (pushed : merge.push buddy = (.error fault, next)) :
      Merge.StoredAs next stored

end

-- Some results are fields of others, such as the layout of a merge; `cases` does
-- not see the recursion through these, so the derivations are matched.
mutual

theorem Container.StoredAs.eq_stored {container : Container}
    {stored : StoredContainer} (storedAs : container.StoredAs stored) :
    stored = container.stored := by
  match storedAs with
  | .vacant id => rfl
  | .ofTasks made => exact (Container.stored_of_ofTasks made).symm
  | .ofEntries made => exact (Container.stored_of_ofEntries made).symm
  | .decoded read made =>
      rw [Wire.decodeStored_of_decodeContainer made] at read
      exact (Except.ok.inj read).symm
  | .derived source replica =>
      rw [source.eq_stored, Buddy.stored_derive]
  | .found source isFound isStored =>
      rw [source.eq_stored, Layout.stored_get? isFound] at isStored
      exact (Prod.mk.inj (Option.some.inj isStored)).2.symm

theorem Layout.StoredAs.eq_stored {layout : Layout} {stored : StoredLayout}
    (storedAs : layout.StoredAs stored) : stored = layout.stored := by
  match storedAs with
  | .empty => rfl
  | .added source partSource made =>
      rw [source.eq_stored, partSource.eq_stored, Layout.stored_of_add made]
  | .ofContainers sources made =>
      rw [Layout.stored_of_ofContainers made,
        ← map_snd_eq (fun part member => (sources part member).eq_stored)]
  | .ofEntries sources made =>
      rw [Layout.stored_of_ofEntries made]
      exact Entries.mapRecords_snd
        (fun part member => (sources part member).eq_stored)
  | .decoded read made =>
      rw [Wire.decodeStored_of_decodeLayout made] at read
      exact (Except.ok.inj read).symm
  | .ofSerialized read made =>
      obtain ⟨containers, decoded, layoutStored⟩ :=
        Layout.decodeStored_of_ofSerialized made
      rw [read] at decoded
      rw [layoutStored, Except.ok.inj decoded]
  | .finished source => exact source.eq_stored
  | .merged source sources made =>
      rw [source.eq_stored, Layout.stored_of_merge made,
        ← map_snd_eq (fun part member => (sources part member).eq_stored)]
  | .expanded source made =>
      rw [source.eq_stored, Layout.stored_of_expand made]
  | .generated source accepted made =>
      rw [Layout.generate, accepted] at made
      rw [source.eq_stored, Layout.stored_of_expand made]

theorem Merge.StoredAs.eq_stored {merge : Merge} {stored : StoredLayout}
    (storedAs : merge.StoredAs stored) : stored = merge.layout.stored := by
  match storedAs with
  | .start source => exact source.eq_stored
  | .taken source partSource pushed =>
      rw [source.eq_stored, partSource.eq_stored,
        Merge.stored_of_push_ok pushed]
  | .refused source pushed =>
      rw [source.eq_stored, Merge.eq_of_push_error pushed]

end

/-- Whatever operations lead to a container or a layout, what they leave stored
has the names of its tasks and the ids of its containers for keys, in the order
of their bytes, and passes any further check.  What is decoded is stored in this
way. -/
theorem stored_keys_agree :
    (∀ (container : Container) (stored : StoredContainer),
      container.StoredAs stored →
        stored.Sound ∧ stored = container.stored ∧
          stored.check = .ok container) ∧
    (∀ (layout : Layout) (stored : StoredLayout),
      layout.StoredAs stored → stored.Sound ∧ stored = layout.stored) ∧
    (∀ text container, Wire.decodeContainer text = .ok container →
      container.StoredAs container.stored) ∧
    (∀ text layout, Wire.decodeLayout text = .ok layout →
      layout.StoredAs layout.stored) ∧
    (∀ texts layout, Layout.ofSerialized texts = .ok layout →
      layout.StoredAs layout.stored) := by
  refine ⟨?_, ?_, ?_, ?_, ?_⟩
  · intro container stored storedAs
    have exact := storedAs.eq_stored
    rw [exact]
    exact ⟨container.stored_sound, rfl, container.check_stored⟩
  · intro layout stored storedAs
    have exact := storedAs.eq_stored
    rw [exact]
    exact ⟨layout.stored_sound, rfl⟩
  · intro text container decoded
    exact .decoded (Wire.decodeStored_of_decodeContainer decoded) decoded
  · intro text layout decoded
    exact .decoded (Wire.decodeStored_of_decodeLayout decoded) decoded
  · intro texts layout made
    obtain ⟨containers, read, layoutStored⟩ :=
      Layout.decodeStored_of_ofSerialized made
    rw [layoutStored]
    exact .ofSerialized read made

namespace Sample

def disorderedTasks : List Task :=
  [.active "b" [] 7, .active "a" [⟨"k", "s", 2⟩, ⟨"k", "s", 1⟩] 0]

def disordered : Container := ⟨"x", .ofList disorderedTasks⟩

def disorderedLayout : Layout := .ofList [disordered]

/-- A text of the container.  One task comes twice under its name, and neither
the names nor the partitions are in order. -/
def disorderedText : String :=
  "\x7b\"tasks\":\x7b\"b\":[\"b\",[],1]," ++
    "\"a\":[\"a\",[[\"k\",\"s\",2],[\"k\",\"s\",1]],0]," ++
    "\"b\":[\"b\",[],7]\x7d,\"id\":\"x\"\x7d"

theorem stored_keys_agree_disordered :
    StoredContainer.Sound
      ⟨"x", .ofList (disorderedTasks.map (fun task => (task.name, task)))⟩ ∧
    disordered.StoredAs disordered.stored ∧
    Layout.StoredAs disorderedLayout disorderedLayout.stored ∧
    ∃ outcome, disorderedLayout.generate 2 = .ok outcome ∧
      outcome.layout.stored.Sound := by
  obtain ⟨containers, layouts, texts, layoutTexts, severalTexts⟩ :=
    stored_keys_agree
  have made : Container.ofTasks "x" disorderedTasks = .ok disordered := by
    decide +kernel
  have decoded : Wire.decodeContainer disorderedText = .ok disordered := by
    decide +kernel
  have layoutDecoded :
      Wire.decodeLayout ("\x7b\"x\":" ++ disorderedText ++ "\x7d") =
        .ok disorderedLayout := by
    decide +kernel
  have severalDecoded :
      Layout.ofSerialized (.ofList [("x", disorderedText)]) =
        .ok disorderedLayout := by
    decide +kernel
  have layoutStored := layoutTexts _ _ layoutDecoded
  obtain ⟨outcome, generated⟩ := Layout.exists_outcome_of_isOk
    (show (disorderedLayout.generate 2).isOk = true by decide +kernel)
  have accepted : ReplicationFactor.ofInt? 2 = some ⟨2, by decide⟩ := rfl
  obtain ⟨sound, exact⟩ :=
    layouts _ _ (.generated layoutStored accepted generated)
  rw [exact] at sound
  exact ⟨(containers _ _ (.ofTasks made)).1, texts _ _ decoded,
    severalTexts _ _ severalDecoded, outcome, generated, sound⟩

end Sample

end WarmStandby
