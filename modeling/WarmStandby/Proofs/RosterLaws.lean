import Mathlib.Data.List.Nodup
import WarmStandby.Roster

/-!
# Laws of rosters

A roster behaves as a finite map from keys to records: looking a key up finds
the one record that carries it, an insertion brings one key, and a roster is
determined by its records in any order.
-/

set_option autoImplicit false

namespace WarmStandby

universe u v

/-- The first item with a property stands before all others that have it. -/
theorem eq_or_related_of_first {Item : Type v} {relation : Item → Item → Prop}
    {Property : Item → Prop} {before after : List Item} {first other : Item}
    (ascending : (before ++ first :: after).Pairwise relation)
    (passed : ∀ earlier ∈ before, ¬ Property earlier)
    (member : other ∈ before ++ first :: after) (holds : Property other) :
    other = first ∨ relation first other := by
  have firstBelow :=
    (List.pairwise_cons.mp (List.pairwise_append.mp ascending).2.1).1
  rcases List.mem_append.mp member with isBefore | isFirstOrAfter
  · exact absurd holds (passed other isBefore)
  · exact (List.mem_cons.mp isFirstOrAfter).imp_right (firstBelow other)

namespace Roster

variable {Key : Type u} {Record : Type v} [Ord Key] {key : Record → Key}

theorem mem_keys_iff {roster : Roster key} {wanted : Key} :
    wanted ∈ roster.keys ↔ ∃ record ∈ roster.toList, key record = wanted :=
  List.mem_map

theorem ne_of_compare_eq_lt [Std.ReflOrd Key] {left right : Key}
    (before : compare left right = .lt) : left ≠ right := by
  intro same
  rw [same, Std.ReflOrd.compare_self] at before
  contradiction

theorem eq_of_perm [Std.TransOrd Key] {left right : Roster key}
    (perm : left.toList.Perm right.toList) : left = right := by
  refine ext (perm.eq_of_pairwise ?_ left.ascending right.ascending)
  intro first second _ _ before after
  rw [Std.OrientedOrd.eq_swap, after] at before
  contradiction

/-! ## Looking up -/

section LookUp

variable [Std.LawfulEqOrd Key]

theorem nodup_keys (roster : Roster key) : roster.keys.Nodup :=
  List.pairwise_map.mpr (roster.ascending.imp ne_of_compare_eq_lt)

theorem nodup_toList (roster : Roster key) : roster.toList.Nodup :=
  List.Nodup.of_map key roster.nodup_keys

theorem eq_of_key_eq (roster : Roster key) {left right : Record}
    (leftMember : left ∈ roster.toList) (rightMember : right ∈ roster.toList)
    (same : key left = key right) : left = right :=
  List.inj_on_of_nodup_map roster.nodup_keys leftMember rightMember same

theorem get?_eq_none_iff {roster : Roster key} {wanted : Key} :
    roster.get? wanted = none ↔ wanted ∉ roster.keys := by
  simp only [get?, keys, List.find?_eq_none, List.mem_map, beq_iff_eq,
    Std.LawfulEqOrd.compare_eq_iff_eq, not_exists, not_and]

theorem get?_eq_some_iff {roster : Roster key} {wanted : Key}
    {record : Record} :
    roster.get? wanted = some record ↔
      record ∈ roster.toList ∧ key record = wanted := by
  constructor
  · intro found
    refine ⟨List.mem_of_find?_eq_some found, ?_⟩
    simpa [Std.LawfulEqOrd.compare_eq_iff_eq] using List.find?_some found
  · intro carried
    obtain ⟨member, carries⟩ := carried
    cases found : roster.get? wanted with
    | none =>
        have known : wanted ∈ roster.keys :=
          mem_keys_iff.mpr ⟨record, member, carries⟩
        exact absurd known (get?_eq_none_iff.mp found)
    | some other =>
        have same : key other = wanted := by
          simpa [Std.LawfulEqOrd.compare_eq_iff_eq] using List.find?_some found
        rw [roster.eq_of_key_eq (List.mem_of_find?_eq_some found) member
          (same.trans carries.symm)]

theorem mem_iff_get?_eq_some {roster : Roster key} {record : Record} :
    record ∈ roster.toList ↔ roster.get? (key record) = some record := by
  simp [get?_eq_some_iff]

theorem eq_of_mem_iff [Std.TransOrd Key] {left right : Roster key}
    (same : ∀ record, record ∈ left.toList ↔ record ∈ right.toList) :
    left = right := by
  apply eq_of_perm
  exact (List.perm_ext_iff_of_nodup left.nodup_toList right.nodup_toList).mpr
    same

@[simp]
theorem contains_iff {roster : Roster key} {wanted : Key} :
    roster.contains wanted = true ↔ wanted ∈ roster.keys := by
  rw [contains, Option.isSome_iff_ne_none, ne_eq, get?_eq_none_iff, not_not]

@[simp]
theorem contains_eq_false_iff {roster : Roster key} {wanted : Key} :
    roster.contains wanted = false ↔ wanted ∉ roster.keys := by
  rw [← contains_iff, Bool.not_eq_true]

end LookUp

/-! ## Insertion -/

section Insertion

variable [Std.LawfulEqOrd Key]

theorem place_perm {record : Record} {records : List Record}
    (fresh : key record ∉ records.map key) :
    (place key record records).Perm (record :: records) := by
  induction records with
  | nil => exact List.Perm.refl _
  | cons head tail inductionHypothesis =>
      have tailFresh : key record ∉ tail.map key := fun member =>
        fresh (List.mem_cons_of_mem _ member)
      rw [place]
      split
      · exact List.Perm.refl _
      · rename_i same
        have headKey := Std.LawfulEqOrd.eq_of_compare same
        exact absurd (List.mem_cons.mpr (.inl headKey)) fresh
      · exact ((inductionHypothesis tailFresh).cons head).trans
          (List.Perm.swap record head tail)

theorem mem_keys_place {record : Record} {records : List Record}
    {wanted : Key} :
    wanted ∈ (place key record records).map key ↔
      wanted = key record ∨ wanted ∈ records.map key := by
  induction records with
  | nil => simp [place]
  | cons head tail inductionHypothesis =>
      rw [place]
      split
      · simp
      · rename_i same
        simp [Std.LawfulEqOrd.eq_of_compare same]
      · simp only [List.map_cons, List.mem_cons, inductionHypothesis]
        exact or_left_comm

/-- A placed record is found under its key, and all else as before. -/
theorem find?_place [DecidableEq Key] {record : Record} {records : List Record}
    {wanted : Key} :
    (place key record records).find?
        (fun other => compare (key other) wanted == .eq) =
      if key record = wanted then some record
      else records.find? (fun other => compare (key other) wanted == .eq) := by
  induction records with
  | nil => by_cases found : key record = wanted <;> simp [place, found]
  | cons head tail inductionHypothesis =>
      rw [place]
      split
      · by_cases found : key record = wanted <;> simp [List.find?_cons, found]
      · rename_i same
        have headKey := Std.LawfulEqOrd.eq_of_compare same
        by_cases found : key record = wanted
        · simp [found]
        · have notHead : key head ≠ wanted := headKey ▸ found
          simp [found, notHead]
      · rename_i after
        by_cases isHead : key head = wanted
        · have notFound : key record ≠ wanted := by
            intro same
            rw [same, isHead, Std.ReflOrd.compare_self] at after
            contradiction
          simp [isHead, notFound]
        · simp [isHead, inductionHypothesis]

variable [Std.TransOrd Key]

theorem get?_insert [DecidableEq Key] {roster : Roster key} {record : Record}
    {wanted : Key} :
    (roster.insert record).get? wanted =
      if key record = wanted then some record else roster.get? wanted :=
  find?_place

theorem toList_insert_perm {roster : Roster key} {record : Record}
    (fresh : key record ∉ roster.keys) :
    (roster.insert record).toList.Perm (record :: roster.toList) :=
  place_perm fresh

@[simp]
theorem mem_keys_insert {roster : Roster key} {record : Record}
    {wanted : Key} :
    wanted ∈ (roster.insert record).keys ↔
      wanted = key record ∨ wanted ∈ roster.keys :=
  mem_keys_place

theorem mem_insert_iff {roster : Roster key} {record other : Record} :
    other ∈ (roster.insert record).toList ↔
      other = record ∨ other ∈ roster.toList ∧ key other ≠ key record := by
  classical
  rw [mem_iff_get?_eq_some, get?_insert]
  by_cases same : key record = key other
  · simp [same, eq_comm]
  · have notRecord : other ≠ record := by
      intro isRecord
      exact same (congrArg key isRecord.symm)
    simp [same, notRecord, Ne.symm same, mem_iff_get?_eq_some]

/-- Keys that are distinct from each other stay so when the first of those to
come is taken into the roster. -/
theorem nodup_keys_insert_append {roster : Roster key} {record : Record}
    {rest : List Key} (distinct : (roster.keys ++ key record :: rest).Nodup) :
    ((roster.insert record).keys ++ rest).Nodup := by
  have fresh : key record ∉ roster.keys := fun member =>
    List.disjoint_of_nodup_append distinct member List.mem_cons_self
  have inserted := (toList_insert_perm fresh).map key
  exact (inserted.append_right rest).nodup_iff.mpr
    (List.perm_middle.nodup_iff.mp distinct)

end Insertion

/-! ## Rosters of lists -/

section OfList

variable [Std.TransOrd Key] [Std.LawfulEqOrd Key]

theorem foldl_insert_perm {records : List Record} {roster : Roster key}
    (distinct : (roster.keys ++ records.map key).Nodup) :
    (records.foldl insert roster).toList.Perm (roster.toList ++ records) := by
  induction records generalizing roster with
  | nil => simp
  | cons record rest inductionHypothesis =>
      have fresh : key record ∉ roster.keys := fun member =>
        List.disjoint_of_nodup_append distinct member List.mem_cons_self
      have inserted := toList_insert_perm fresh
      have restDistinct := nodup_keys_insert_append distinct
      calc
        ((rest.foldl insert (roster.insert record)).toList).Perm
            ((roster.insert record).toList ++ rest) :=
          inductionHypothesis restDistinct
        List.Perm _ (record :: roster.toList ++ rest) :=
          inserted.append_right rest
        List.Perm _ (roster.toList ++ record :: rest) :=
          List.perm_middle.symm

theorem toList_ofList_perm {records : List Record}
    (distinct : (records.map key).Nodup) :
    (ofList records : Roster key).toList.Perm records := by
  have startDistinct :
      ((empty : Roster key).keys ++ records.map key).Nodup := distinct
  exact foldl_insert_perm startDistinct

theorem mem_keys_foldl_insert {records : List Record} {roster : Roster key}
    {wanted : Key} :
    wanted ∈ (records.foldl insert roster).keys ↔
      wanted ∈ roster.keys ∨ wanted ∈ records.map key := by
  induction records generalizing roster with
  | nil => simp
  | cons record rest inductionHypothesis =>
      rw [List.foldl_cons, inductionHypothesis, mem_keys_insert, List.map_cons,
        List.mem_cons]
      tauto

/-- The keys of a roster are those of its list, also where keys repeat. -/
@[simp]
theorem mem_keys_ofList {records : List Record} {wanted : Key} :
    wanted ∈ (ofList records : Roster key).keys ↔ wanted ∈ records.map key := by
  rw [ofList, mem_keys_foldl_insert]
  exact or_iff_right List.not_mem_nil

theorem toList_ofList_of_ascending {records : List Record}
    (ascending : records.Pairwise
      (fun left right => compare (key left) (key right) = .lt)) :
    (ofList records : Roster key).toList = records := by
  have distinct : (records.map key).Nodup :=
    nodup_keys (⟨records, ascending⟩ : Roster key)
  have same : (ofList records : Roster key) = ⟨records, ascending⟩ :=
    eq_of_perm (toList_ofList_perm distinct)
  rw [same]

@[simp]
theorem ofList_toList (roster : Roster key) : ofList roster.toList = roster :=
  ext (toList_ofList_of_ascending roster.ascending)

end OfList

/-! ## Entries under the keys of their records -/

section OwnEntries

variable {Record : Type v} {key : Record → String}

/-- The records of a roster, each listed under the key that it carries. -/
def ownEntries (roster : Roster key) : Entries Record :=
  ⟨roster.toList.map (fun record => (key record, record)),
    List.pairwise_map.mpr roster.ascending⟩

theorem mismatch?_ownEntries (roster : Roster key) :
    roster.ownEntries.mismatch? key = none := by
  apply List.find?_eq_none.mpr
  intro entry member
  obtain ⟨record, _, rfl⟩ := List.mem_map.mp member
  simp

theorem records_ownEntries (roster : Roster key) :
    roster.ownEntries.records key = roster := by
  have own : roster.ownEntries.toList.map Prod.snd = roster.toList := by
    simp [ownEntries, Function.comp_def]
  rw [Entries.records, own, ofList_toList]

end OwnEntries

end Roster

end WarmStandby
