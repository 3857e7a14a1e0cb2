import WarmStandby.Proofs.BuilderWalks
import WarmStandby.Replication

/-!
# Containers and layouts as they are stored

A container is stored as a map of tasks and a layout as a map of containers,
and the keys of such a map are given apart from the values under them.  Each
operation is told here by what it does to these maps; it is shown that what is
stored for its result is then the result itself, with every task under its name
and every container under its id.
-/

set_option autoImplicit false

namespace WarmStandby

universe u v w

/-! ## Images of rosters -/

theorem map_snd_eq {Record : Type v} {Image : Type w}
    {parts : List (Record × Image)} {view : Record → Image}
    (each : ∀ part ∈ parts, part.2 = view part.1) :
    parts.map Prod.snd = (parts.map Prod.fst).map view := by
  rw [List.map_map]
  exact List.map_congr_left each

namespace Roster

variable {Key : Type u} {Record : Type v} {Image : Type w} [Ord Key]
  {key : Record → Key} {imageKey : Image → Key}

/-- The roster of the images of all records, if an image keeps the key of its
record. -/
def image (roster : Roster key) (view : Record → Image)
    (keeps : ∀ record, imageKey (view record) = key record) :
    Roster imageKey :=
  ⟨roster.toList.map view, List.pairwise_map.mpr (by
    simpa only [keeps] using roster.ascending)⟩

variable {view : Record → Image}
  (keeps : ∀ record, imageKey (view record) = key record)

include keeps in
theorem map_place (record : Record) (records : List Record) :
    (place key record records).map view =
      place imageKey (view record) (records.map view) := by
  induction records with
  | nil => rfl
  | cons head tail inductionHypothesis =>
      simp only [List.map_cons, place, keeps]
      split
      · rfl
      · rfl
      · rw [List.map_cons, inductionHypothesis]

variable [Std.TransOrd Key]

theorem image_insert (roster : Roster key) (record : Record) :
    (roster.insert record).image view keeps =
      (roster.image view keeps).insert (view record) :=
  ext (map_place keeps record roster.toList)

theorem image_foldl_insert (records : List Record) (roster : Roster key) :
    (records.foldl insert roster).image view keeps =
      (records.map view).foldl insert (roster.image view keeps) := by
  induction records generalizing roster with
  | nil => rfl
  | cons record rest inductionHypothesis =>
      rw [List.foldl_cons, inductionHypothesis, image_insert, List.map_cons,
        List.foldl_cons]

theorem image_ofList (records : List Record) :
    (ofList records).image view keeps = ofList (records.map view) :=
  image_foldl_insert keeps records empty

theorem ownEntries_ofList {key : Record → String} (records : List Record) :
    (ofList records : Roster key).ownEntries =
      ofList (records.map (fun record => (key record, record))) :=
  image_ofList (fun _ => rfl) records

end Roster

/-! ## Entries of checked keys -/

namespace Entries

variable {Record : Type v} {Image : Type w}

def mapRecords (entries : Entries Record) (view : Record → Image) :
    Entries Image :=
  entries.image (fun entry => (entry.1, view entry.2)) (fun _ => rfl)

theorem mapRecords_insert (entries : Entries Record) (key : String)
    (record : Record) (view : Record → Image) :
    Entries.mapRecords (entries.insert (key, record)) view =
      (entries.mapRecords view).insert (key, view record) :=
  Roster.image_insert _ entries (key, record)

theorem mapRecords_snd {parts : Entries (Record × Image)}
    {view : Record → Image}
    (each : ∀ part ∈ parts.toList, part.2.2 = view part.2.1) :
    parts.mapRecords Prod.snd =
      (parts.mapRecords Prod.fst).mapRecords view := by
  apply Roster.ext
  change parts.toList.map _ = (parts.toList.map _).map _
  rw [List.map_map]
  apply List.map_congr_left
  intro part member
  rw [each part member]
  rfl

theorem agree_of_mismatch?_eq_none {entries : Entries Record}
    {key : Record → String} (agree : entries.mismatch? key = none) :
    ∀ entry ∈ entries.toList, entry.1 = key entry.2 := by
  intro entry member
  simpa using List.find?_eq_none.mp agree entry member

theorem ownEntries_records {entries : Entries Record} {key : Record → String}
    (agree : entries.mismatch? key = none) :
    (entries.records key).ownEntries = entries := by
  have sameKey := agree_of_mismatch?_eq_none agree
  have ascending : (entries.toList.map Prod.snd).Pairwise
      (fun left right => compare (key left) (key right) = .lt) := by
    apply List.pairwise_map.mpr
    refine entries.ascending.imp_of_mem ?_
    intro left right leftMember rightMember before
    rwa [sameKey left leftMember, sameKey right rightMember] at before
  apply Roster.ext
  change ((entries.records key).toList.map
    (fun record => (key record, record))) = entries.toList
  rw [records, Roster.toList_ofList_of_ascending ascending, List.map_map]
  calc entries.toList.map ((fun record => (key record, record)) ∘ Prod.snd)
      = entries.toList.map id := by
        apply List.map_congr_left
        intro entry member
        exact Prod.ext (sameKey entry member).symm rfl
    _ = entries.toList := List.map_id _

end Entries

/-! ## The stored forms -/

/-- A container as it is stored.  The keys of its tasks need not be their
names. -/
structure StoredContainer where
  id : ContainerId
  tasks : Entries Task
deriving DecidableEq

/-- A layout as it is stored.  The keys of its containers need not be their
ids. -/
abbrev StoredLayout : Type := Entries StoredContainer

namespace StoredContainer

/-- The container that is stored, if every task is under its name. -/
def check (stored : StoredContainer) : Except ModelFault Container :=
  Container.ofEntries stored.id stored.tasks

/-- The buddy of what is stored: the standbys of all tasks, under the names that
are derived from the names of the tasks. -/
def derive (active : StoredContainer) (replica : UInt32) : StoredContainer :=
  ⟨BuddyId.text ⟨active.id, replica⟩,
    .ofList (active.tasks.toList.map (fun entry =>
      let name := StandbyName.text ⟨entry.2.name, replica⟩
      (name, entry.2.standbyCopy name)))⟩

end StoredContainer

namespace StoredLayout

def put (layout : StoredLayout) (container : StoredContainer) : StoredLayout :=
  layout.insert (container.id, container)

def putAll (layout : StoredLayout) (containers : List StoredContainer) :
    StoredLayout :=
  containers.foldl put layout

end StoredLayout

def Container.stored (container : Container) : StoredContainer :=
  ⟨container.id, container.tasks.ownEntries⟩

def Layout.stored (layout : Layout) : StoredLayout :=
  layout.image (fun container => (container.id, container.stored))
    (fun _ => rfl)

/-! ## Making containers -/

namespace Container

theorem stored_of_ofTasks {id : ContainerId} {tasks : List Task}
    {container : Container} (made : ofTasks id tasks = .ok container) :
    container.stored =
      ⟨id, .ofList (tasks.map (fun task => (task.name, task)))⟩ := by
  rw [(ofTasks_walks id).eq_make_of_ok made, stored,
    Roster.ownEntries_ofList]

theorem ofEntries_own (container : Container) :
    ofEntries container.id container.tasks.ownEntries = .ok container := by
  rw [ofEntries, Roster.mismatch?_ownEntries, Roster.records_ownEntries]

theorem stored_of_ofEntries {id : ContainerId} {entries : Entries Task}
    {container : Container} (made : ofEntries id entries = .ok container) :
    container.stored = ⟨id, entries⟩ := by
  unfold ofEntries at made
  cases agree : entries.mismatch? Task.name with
  | some entry =>
      rw [agree] at made
      contradiction
  | none =>
      rw [agree] at made
      cases Except.ok.inj made
      unfold stored
      rw [Entries.ownEntries_records agree]

end Container

theorem Buddy.stored_derive (active : Container) (replica : UInt32) :
    (Buddy.derive active replica).model.stored =
      active.stored.derive replica := by
  let copy (task : Task) : Task :=
    task.standbyCopy (StandbyName.text ⟨task.name, replica⟩)
  have copies : (active.tasks.replicate replica).ownEntries =
      .ofList ((active.tasks.toList.map copy).map
        (fun task => (task.name, task))) :=
    Roster.image_ofList (fun _ => rfl) (active.tasks.toList.map copy)
  change StoredContainer.mk _ (active.tasks.replicate replica).ownEntries = _
  rw [copies, StoredContainer.derive, Container.stored, Roster.ownEntries,
    List.map_map, List.map_map]
  rfl

/-! ## Making layouts -/

namespace Layout

variable {layout next : Layout} {container : Container}

theorem stored_insert (layout : Layout) (container : Container) :
    Layout.stored (layout.insert container) =
      layout.stored.put container.stored :=
  Roster.image_insert _ layout container

theorem stored_of_add (added : layout.add container = .ok next) :
    next.stored = layout.stored.put container.stored := by
  rw [add] at added
  cases inserted : layout.insertNew? container with
  | none =>
      rw [inserted] at added
      contradiction
  | some roster =>
      rw [inserted] at added
      rw [← Except.ok.inj added, Roster.eq_insert_of_insertNew? inserted]
      exact stored_insert layout container

theorem stored_of_ofContainers {containers : List Container}
    (made : ofContainers containers = .ok layout) :
    layout.stored =
      StoredLayout.putAll .empty (containers.map Container.stored) := by
  rw [ofContainers_walks.eq_make_of_ok made, StoredLayout.putAll,
    List.foldl_map]
  exact (Roster.image_ofList _ containers).trans List.foldl_map

theorem ofEntries_own (layout : Layout) :
    ofEntries layout.ownEntries = .ok layout := by
  rw [ofEntries, Roster.mismatch?_ownEntries, Roster.records_ownEntries]

theorem stored_eq_mapRecords (layout : Layout) :
    layout.stored = layout.ownEntries.mapRecords Container.stored := by
  apply Roster.ext
  change _ = (layout.ownEntries.toList.map _)
  rw [Roster.ownEntries, List.map_map]
  rfl

theorem stored_of_ofEntries {entries : Entries Container}
    (made : ofEntries entries = .ok layout) :
    layout.stored = entries.mapRecords Container.stored := by
  unfold ofEntries at made
  cases agree : entries.mismatch? Container.id with
  | some entry =>
      rw [agree] at made
      contradiction
  | none =>
      rw [agree] at made
      cases Except.ok.inj made
      rw [stored_eq_mapRecords, Entries.ownEntries_records agree]

end Layout

end WarmStandby
