import WarmStandby.Proofs.ByteOrder
import WarmStandby.Proofs.StoredForms
import WarmStandby.Wire.Serialized

/-!
# Layouts from texts under keys

A layout that comes as one text for each container is taken if every text decodes
to a container with the id that the text is listed under, and then it has just
these containers.  All texts are decoded before any key is held against an id,
so a text that does not decode is reported before a wrong key, wherever both
stand; of several faults of one kind the one with the least key is reported.
-/

set_option autoImplicit false

namespace WarmStandby

universe u

/-! ## Least entries -/

structure Entries.Least {Record : Type u} (entries : Entries Record)
    (Property : String × Record → Prop) (entry : String × Record) : Prop where
  listed : entry ∈ entries.toList
  holds : Property entry
  least : ∀ other ∈ entries.toList, Property other →
    other = entry ∨ Text.bytes entry.1 < Text.bytes other.1

namespace Entries

variable {Record : Type u} {entries : Entries Record}
variable {entry : String × Record}

theorem least_of_find? {property : String × Record → Bool}
    (found : entries.toList.find? property = some entry) :
    entries.Least (fun entry => property entry = true) entry := by
  obtain ⟨holds, before, after, split, passed⟩ :=
    List.find?_eq_some_iff_append.mp found
  refine ⟨List.mem_of_find?_eq_some found, holds, ?_⟩
  intro other member otherHolds
  have ascending := entries.ascending
  rw [split] at member ascending
  have noneBefore : ∀ earlier ∈ before, ¬ property earlier = true := by
    intro earlier isBefore
    simpa using passed earlier isBefore
  exact (eq_or_related_of_first ascending noneBefore member
    otherHolds).imp_right Text.bytes_lt_of_compare

theorem least_of_mismatch? {key : Record → String}
    (found : entries.mismatch? key = some entry) :
    entries.Least (fun entry => entry.1 ≠ key entry.2) entry := by
  simpa using least_of_find? found

end Entries

namespace Layout

/-! ## Decoding -/

def Undecodable (entry : String × String) : Prop :=
  ∃ fault, Wire.decodeContainer entry.2 = .error fault

instance : DecidablePred Undecodable := fun entry =>
  match decoded : Wire.decodeContainer entry.2 with
  | .error fault => isTrue ⟨fault, decoded⟩
  | .ok _ => isFalse (by simp [Undecodable, decoded])

/-- The texts decode to these containers, under the same keys. -/
def DecodesTo (texts : List (String × String))
    (containers : List (String × Container)) : Prop :=
  texts.map (fun entry => (entry.1, Wire.decodeContainer entry.2)) =
    containers.map (fun entry => (entry.1, .ok entry.2))

theorem decodeSerialized_cases (texts : List (String × String)) :
    (∃ entry fault,
      texts.find? (fun entry => decide (Undecodable entry)) = some entry ∧
      Wire.decodeContainer entry.2 = .error fault ∧
      decodeSerialized texts = .error (.undecodable entry.1 fault)) ∨
    (∃ containers, DecodesTo texts containers ∧
      decodeSerialized texts = .ok containers) := by
  induction texts with
  | nil => exact .inr ⟨[], rfl, rfl⟩
  | cons first rest inductionHypothesis =>
      obtain ⟨key, text⟩ := first
      rw [decodeSerialized]
      cases decoded : Wire.decodeContainer text with
      | error fault =>
          have found : decide (Undecodable (key, text)) = true :=
            decide_eq_true ⟨fault, decoded⟩
          exact .inl ⟨(key, text), fault, List.find?_cons_of_pos found,
            decoded, rfl⟩
      | ok container =>
          have passed : decide (Undecodable (key, text)) = false := by
            simp [Undecodable, decoded]
          rcases inductionHypothesis with
            ⟨entry, fault, found, undecoded, failure⟩ |
              ⟨containers, decodesTo, success⟩
          · rw [failure]
            exact .inl ⟨entry, fault,
              by rw [List.find?_cons, passed]; exact found, undecoded, rfl⟩
          · rw [success]
            refine .inr ⟨(key, container) :: containers, ?_, rfl⟩
            simp only [DecodesTo, List.map_cons, decoded] at decodesTo ⊢
            rw [decodesTo]

namespace DecodesTo

variable {texts : List (String × String)}
variable {containers : List (String × Container)}
variable (decodesTo : DecodesTo texts containers)

include decodesTo

theorem keys_eq : containers.map Prod.fst = texts.map Prod.fst := by
  have keys := congrArg (List.map Prod.fst) decodesTo
  simpa [Function.comp_def] using keys.symm

theorem exists_container {entry : String × String} (listed : entry ∈ texts) :
    ∃ container, Wire.decodeContainer entry.2 = .ok container ∧
      (entry.1, container) ∈ containers := by
  have shown : (entry.1, Wire.decodeContainer entry.2) ∈
      texts.map (fun entry => (entry.1, Wire.decodeContainer entry.2)) :=
    List.mem_map_of_mem listed
  rw [decodesTo] at shown
  obtain ⟨found, member, same⟩ := List.mem_map.mp shown
  obtain ⟨sameKey, decoded⟩ := Prod.mk.inj same
  exact ⟨found.2, decoded.symm, sameKey ▸ member⟩

theorem mem_of_decoded {entry : String × String} (listed : entry ∈ texts)
    {container : Container}
    (decoded : Wire.decodeContainer entry.2 = .ok container) :
    (entry.1, container) ∈ containers := by
  obtain ⟨found, foundDecoded, member⟩ := decodesTo.exists_container listed
  rw [decoded] at foundDecoded
  rwa [Except.ok.inj foundDecoded]

theorem not_undecodable {entry : String × String} (listed : entry ∈ texts) :
    ¬ Undecodable entry := by
  intro undecodable
  obtain ⟨fault, undecoded⟩ := undecodable
  obtain ⟨container, decoded, _⟩ := decodesTo.exists_container listed
  rw [undecoded] at decoded
  contradiction

theorem exists_text {entry : String × Container} (listed : entry ∈ containers) :
    ∃ text, Wire.decodeContainer text = .ok entry.2 ∧
      (entry.1, text) ∈ texts := by
  have shown : (entry.1, Except.ok entry.2) ∈
      containers.map (fun entry =>
        (entry.1, (.ok entry.2 : Except Wire.Fault Container))) :=
    List.mem_map_of_mem listed
  rw [← decodesTo] at shown
  obtain ⟨found, member, same⟩ := List.mem_map.mp shown
  obtain ⟨sameKey, decoded⟩ := Prod.mk.inj same
  exact ⟨found.2, decoded, sameKey ▸ member⟩

end DecodesTo

/-! ## Keys and ids -/

def Matching (entry : String × String) : Prop :=
  ∃ container, Wire.decodeContainer entry.2 = .ok container ∧
    entry.1 = container.id

def Mismatching (entry : String × String) : Prop :=
  ∃ container, Wire.decodeContainer entry.2 = .ok container ∧
    entry.1 ≠ container.id

section Verdicts

variable {entry : String × String}

theorem Matching.not_undecodable (matching : Matching entry) :
    ¬ Undecodable entry := by
  rintro ⟨fault, undecoded⟩
  obtain ⟨container, decoded, _⟩ := matching
  rw [undecoded] at decoded
  contradiction

theorem Matching.not_mismatching (matching : Matching entry) :
    ¬ Mismatching entry := by
  rintro ⟨other, otherDecoded, wrong⟩
  obtain ⟨container, decoded, agrees⟩ := matching
  rw [decoded] at otherDecoded
  exact wrong (agrees.trans (congrArg Container.id (Except.ok.inj otherDecoded)))

end Verdicts

theorem ofEntries_cases (entries : Entries Container) :
    (∃ entry, entries.Least (fun entry => entry.1 ≠ entry.2.id) entry ∧
      ofEntries entries =
        .error (.containerKeyMismatch entry.1 entry.2.id)) ∨
    (∃ layout, (∀ entry ∈ entries.toList, entry.1 = entry.2.id) ∧
      Roster.ownEntries layout = entries ∧ ofEntries entries = .ok layout) := by
  rw [ofEntries]
  cases checked : entries.mismatch? Container.id with
  | some entry =>
      exact .inl ⟨entry, Entries.least_of_mismatch? checked, rfl⟩
  | none =>
      exact .inr ⟨entries.records Container.id,
        Entries.agree_of_mismatch?_eq_none checked,
        Entries.ownEntries_records checked, rfl⟩

/-- The layout has the keys of the texts as its ids, and under each of them the
container that is decoded from the text. -/
def Renders (layout : Layout) (texts : Entries String) : Prop :=
  layout.ids = texts.keys ∧
    ∀ entry ∈ texts.toList, ∃ container,
      Wire.decodeContainer entry.2 = .ok container ∧
        layout.get? entry.1 = some container

namespace DecodesTo

variable {texts : Entries String}

/-- Containers with the keys of the texts come in order, so none of them takes
the place of another. -/
theorem toList_ofList {containers : List (String × Container)}
    (decodesTo : DecodesTo texts.toList containers) :
    (.ofList containers : Entries Container).toList = containers := by
  have keysAscending : (texts.toList.map Prod.fst).Pairwise
      (fun left right => compare left right = .lt) :=
    List.pairwise_map.mpr texts.ascending
  rw [← decodesTo.keys_eq] at keysAscending
  exact Roster.toList_ofList_of_ascending (List.pairwise_map.mp keysAscending)

theorem least_mismatching {entries : Entries Container}
    (decodesTo : DecodesTo texts.toList entries.toList)
    {entry : String × Container}
    (least : entries.Least (fun entry => entry.1 ≠ entry.2.id) entry) :
    ∃ text, Wire.decodeContainer text = .ok entry.2 ∧
      texts.Least Mismatching (entry.1, text) := by
  obtain ⟨text, decoded, listed⟩ := decodesTo.exists_text least.listed
  refine ⟨text, decoded, listed, ⟨entry.2, decoded, least.holds⟩, ?_⟩
  rintro other otherListed ⟨container, otherDecoded, otherWrong⟩
  have otherMember := decodesTo.mem_of_decoded otherListed otherDecoded
  rcases least.least _ otherMember otherWrong with same | below
  · have sameKey : other.1 = entry.1 := congrArg Prod.fst same
    exact .inl (texts.eq_of_key_eq otherListed listed sameKey)
  · exact .inr below

theorem renders {layout : Layout}
    (decodesTo : DecodesTo texts.toList layout.ownEntries.toList) :
    layout.Renders texts := by
  refine ⟨?_, ?_⟩
  · rw [Roster.keys, ← decodesTo.keys_eq, Roster.ownEntries, List.map_map]
    rfl
  · intro entry listed
    obtain ⟨container, decoded, own⟩ := decodesTo.exists_container listed
    obtain ⟨found, member, same⟩ := List.mem_map.mp own
    obtain ⟨sameId, rfl⟩ := Prod.mk.inj same
    exact ⟨found, decoded, Roster.get?_eq_some_iff.mpr ⟨member, sameId⟩⟩

end DecodesTo

theorem ofSerialized_cases (texts : Entries String) :
    (∃ entry fault, texts.Least Undecodable entry ∧
      Wire.decodeContainer entry.2 = .error fault ∧
      ofSerialized texts = .error (.undecodable entry.1 fault)) ∨
    (∃ entry container, (∀ entry ∈ texts.toList, ¬ Undecodable entry) ∧
      texts.Least Mismatching entry ∧
      Wire.decodeContainer entry.2 = .ok container ∧
      ofSerialized texts =
        .error (.model (.containerKeyMismatch entry.1 container.id))) ∨
    (∃ layout, (∀ entry ∈ texts.toList, Matching entry) ∧
      layout.Renders texts ∧ ofSerialized texts = .ok layout) := by
  rw [ofSerialized]
  rcases decodeSerialized_cases texts.toList with
    ⟨entry, fault, found, undecoded, failure⟩ |
      ⟨containers, decodesTo, success⟩
  · rw [failure]
    have least := Entries.least_of_find? found
    simp only [decide_eq_true_eq] at least
    exact .inl ⟨entry, fault, least, undecoded, rfl⟩
  · rw [success]
    rw [← decodesTo.toList_ofList] at decodesTo
    rcases ofEntries_cases (.ofList containers) with
      ⟨entry, least, failure⟩ | ⟨layout, agree, own, made⟩
    · obtain ⟨text, decoded, textLeast⟩ := decodesTo.least_mismatching least
      refine .inr (.inl ⟨(entry.1, text), entry.2, ?_, textLeast, decoded, ?_⟩)
      · exact fun _ listed => decodesTo.not_undecodable listed
      · simp only [failure, Except.mapError]
    · refine .inr (.inr ⟨layout, ?_, ?_, ?_⟩)
      · intro entry listed
        obtain ⟨container, decoded, member⟩ := decodesTo.exists_container listed
        exact ⟨container, decoded, agree (entry.1, container) member⟩
      · rw [← own] at decodesTo
        exact decodesTo.renders
      · simp only [made, Except.mapError]

theorem message_of_ofSerialized_eq_error {texts : Entries String}
    {fault : SerializedFault} (shown : Wire.Fault → String)
    (refused : ofSerialized texts = .error fault) :
    (∃ entry source, texts.Least Undecodable entry ∧
      Wire.decodeContainer entry.2 = .error source ∧
      fault.message shown = "container " ++ entry.1 ++ ": " ++ shown source) ∨
    (∃ entry container, texts.Least Mismatching entry ∧
      Wire.decodeContainer entry.2 = .ok container ∧
      fault.message shown = "layout key " ++ entry.1
        ++ " does not match container id " ++ container.id) := by
  rcases ofSerialized_cases texts with
    ⟨entry, source, least, undecoded, failure⟩ |
      ⟨entry, container, _, least, decoded, failure⟩ |
      ⟨layout, _, _, success⟩
  · rw [failure] at refused
    rw [← Except.error.inj refused]
    exact .inl ⟨entry, source, least, undecoded, rfl⟩
  · rw [failure] at refused
    rw [← Except.error.inj refused]
    exact .inr ⟨entry, container, least, decoded, rfl⟩
  · rw [success] at refused
    contradiction

/-- The layout of texts under keys.  There is one just if every text decodes to a
container whose id is its key, and then it has these containers and no other.
If some text does not decode, the least key of such a text is reported, whatever
the other keys are; and if all decode, the least key that is not the id of its
container. -/
theorem texts_taken_iff_all_match (texts : Entries String) :
    ((∃ layout, ofSerialized texts = .ok layout) ↔
      ∀ entry ∈ texts.toList, Matching entry) ∧
    (∀ layout, ofSerialized texts = .ok layout → layout.Renders texts) ∧
    ((∃ entry ∈ texts.toList, Undecodable entry) →
      ∃ entry fault, texts.Least Undecodable entry ∧
        Wire.decodeContainer entry.2 = .error fault ∧
        ofSerialized texts = .error (.undecodable entry.1 fault)) ∧
    ((∀ entry ∈ texts.toList, ¬ Undecodable entry) →
      (∃ entry ∈ texts.toList, Mismatching entry) →
        ∃ entry container, texts.Least Mismatching entry ∧
          Wire.decodeContainer entry.2 = .ok container ∧
          ofSerialized texts =
            .error (.model (.containerKeyMismatch entry.1 container.id))) := by
  rcases ofSerialized_cases texts with
    ⟨entry, fault, least, undecoded, failure⟩ |
      ⟨entry, container, allDecode, least, decoded, failure⟩ |
      ⟨layout, allMatch, renders, success⟩
  · refine ⟨?_, by simp [failure], fun _ => ?_, fun allDecode => ?_⟩
    · simp only [failure, reduceCtorEq, exists_false, false_iff]
      intro allMatch
      exact (allMatch entry least.listed).not_undecodable least.holds
    · exact ⟨entry, fault, least, undecoded, failure⟩
    · exact absurd least.holds (allDecode entry least.listed)
  · refine ⟨?_, by simp [failure], ?_, fun _ _ => ?_⟩
    · simp only [failure, reduceCtorEq, exists_false, false_iff]
      intro allMatch
      exact (allMatch entry least.listed).not_mismatching least.holds
    · rintro ⟨other, listed, undecodable⟩
      exact absurd undecodable (allDecode other listed)
    · exact ⟨entry, container, least, decoded, failure⟩
  · refine ⟨⟨fun _ => allMatch, fun _ => ⟨layout, success⟩⟩, ?_, ?_, ?_⟩
    · intro other made
      rw [success] at made
      cases made
      exact renders
    · rintro ⟨entry, listed, undecodable⟩
      exact absurd undecodable (allMatch entry listed).not_undecodable
    · rintro _ ⟨entry, listed, mismatching⟩
      exact absurd mismatching (allMatch entry listed).not_mismatching

end Layout

namespace Sample

def emptyText (id : ContainerId) : String :=
  Wire.encodeContainer ⟨id, .empty⟩

/-- The text under the least key is that of another entry, and the one under the
greatest key is cut short. -/
def misplaced : Entries String :=
  .ofList [("a", emptyText "b"), ("b", emptyText "b"), ("c", "\x7b")]

theorem texts_taken_iff_all_match_misplaced :
    Layout.Mismatching ("a", emptyText "b") ∧
      ∃ fault, Layout.ofSerialized misplaced =
        .error (.undecodable "c" fault) := by
  have listed : misplaced.toList =
      [("a", emptyText "b"), ("b", emptyText "b"), ("c", "\x7b")] := by
    decide +kernel
  have swapped : Wire.decodeContainer (emptyText "b") = .ok ⟨"b", .empty⟩ := by
    decide +kernel
  have cut : Layout.Undecodable ("c", "\x7b") := by decide +kernel
  obtain ⟨_, _, undecodable, _⟩ := Layout.texts_taken_iff_all_match misplaced
  obtain ⟨entry, fault, least, _, failure⟩ :=
    undecodable ⟨("c", "\x7b"), by simp [listed], cut⟩
  have isLast : entry = ("c", "\x7b") := by
    have member := least.listed
    have fails := least.holds
    rw [listed] at member
    simp only [List.mem_cons, List.not_mem_nil, or_false] at member
    rcases member with rfl | rfl | rfl
    · simp [Layout.Undecodable, swapped] at fails
    · simp [Layout.Undecodable, swapped] at fails
    · rfl
  rw [isLast] at failure
  exact ⟨⟨_, swapped, by decide⟩, fault, failure⟩

end Sample

end WarmStandby
