import WarmStandby.Proofs.BuddyLookup
import WarmStandby.Proofs.ByteOrder
import WarmStandby.Proofs.NameGrammar

/-!
# Reading buddies off any two layouts

The ids of one layout are read as buddies of a container of another, and the two
need not come from one run.  What is listed follows from the grammar of ids: the
containers whose ids are spelled with the container in question as their base,
unless they are containers of the other layout themselves.  An index may be
spelled with leading zeros, so several containers can bear the same one; the
list is sorted by indices, and the sort leaves those in the order of their ids.
-/

set_option autoImplicit false

namespace WarmStandby

/-! ## Sorting by indices -/

section Sorting

variable {pairs : List (UInt32 × Container)}

theorem filter_mergeSort_index (pairs : List (UInt32 × Container))
    (index : UInt32) :
    (pairs.mergeSort (fun left right => decide (left.1 ≤ right.1))).filter
        (fun pair => pair.1 = index) =
      pairs.filter (fun pair => pair.1 = index) := by
  have equalIndices : (pairs.filter (fun pair => pair.1 = index)).Pairwise
      (fun first second => decide (first.1 ≤ second.1) = true) := by
    refine List.pairwise_of_forall_mem_list ?_
    intro first firstMember second secondMember
    have firstIndex := of_decide_eq_true (List.mem_filter.mp firstMember).2
    have secondIndex := of_decide_eq_true (List.mem_filter.mp secondMember).2
    rw [firstIndex, secondIndex]
    exact decide_eq_true (UInt32.le_refl index)
  -- The pairs of one index are sorted as they are, so they are found in this
  -- order in the sorted list, which has no other pairs of that index.
  have kept := (List.sublist_mergeSort index_le_trans index_le_total
    equalIndices List.filter_sublist).filter (fun pair => pair.1 = index)
  rw [List.filter_filter] at kept
  simp only [Bool.and_self] at kept
  refine (kept.eq_of_length ?_).symm
  exact ((List.mergeSort_perm pairs _).filter _).length_eq.symm

/-- A list that is in some order is sorted by indices first, and then by that
order. -/
theorem mergeSort_index_ordered
    {Before : UInt32 × Container → UInt32 × Container → Prop}
    (ordered : pairs.Pairwise Before) :
    (pairs.mergeSort (fun left right => decide (left.1 ≤ right.1))).Pairwise
      (fun first second => first.1 < second.1 ∨
        first.1 = second.1 ∧ Before first second) := by
  refine List.pairwise_iff_forall_sublist.mpr ?_
  intro first second inSorted
  have atMost : first.1 ≤ second.1 := List.pairwise_iff_forall_sublist.mp
    (pairwise_mergeSort_index pairs) inSorted
  rcases Std.le_iff_lt_or_eq.mp atMost with below | same
  · exact .inl below
  · have inFiltered := inSorted.filter (fun pair => pair.1 = second.1)
    rw [filter_mergeSort_index] at inFiltered
    simp only [List.filter_cons, same, decide_true, if_true, List.filter_nil]
      at inFiltered
    exact .inr ⟨same, List.pairwise_iff_forall_sublist.mp ordered
      (inFiltered.trans List.filter_sublist)⟩

end Sorting

/-! ## What is listed -/

section Listed

variable {expanded layout : Layout} {query : ContainerId}

theorem mem_buddiesOf_iff (known : query ∈ layout.ids)
    {pair : UInt32 × Container} :
    pair ∈ buddiesOf expanded layout query ↔
      pair.2 ∈ expanded.toList ∧ pair.2.id ∉ layout.ids ∧
        BuddyId.parse? pair.2.id = some ⟨query, pair.1⟩ := by
  rw [buddiesOf_of_mem known, List.mem_mergeSort, mem_filterMap_readBuddy?_iff]

theorem mem_buddiesOf_iff_spells (known : query ∈ layout.ids)
    (named : query ≠ "") {number : Nat} {container : Container} :
    (∃ replica : UInt32, replica.toNat = number ∧
        (replica, container) ∈ buddiesOf expanded layout query) ↔
      container ∈ expanded.toList ∧ container.id ∉ layout.ids ∧
        ∃ numeral,
          ReplicaText.Spells container.id query numeral number := by
  simp only [mem_buddiesOf_iff known]
  constructor
  · intro listed
    obtain ⟨replica, denoted, member, foreign, parsed⟩ := listed
    exact ⟨member, foreign,
      (BuddyId.parse?_iff_spells.mp ⟨replica, denoted, parsed⟩).2⟩
  · intro held
    obtain ⟨member, foreign, spelled⟩ := held
    obtain ⟨replica, denoted, parsed⟩ :=
      BuddyId.parse?_iff_spells.mpr ⟨named, spelled⟩
    exact ⟨replica, denoted, member, foreign, parsed⟩

theorem buddiesOf_of_unnamed : buddiesOf expanded layout "" = [] := by
  refine buddiesOf_eq_nil ?_
  intro pair read
  obtain ⟨_, _, parsed⟩ := mem_filterMap_readBuddy?_iff.mp read
  exact (BuddyId.parse?_eq_some_iff.mp parsed).1 rfl

theorem filterMap_readBuddy?_ordered :
    (expanded.toList.filterMap (readBuddy? layout query)).Pairwise
      (fun first second =>
        Text.bytes first.2.id < Text.bytes second.2.id) := by
  refine List.Pairwise.filterMap _ ?_ expanded.ascending
  intro left right before first leftRead second rightRead
  obtain ⟨_, _, rfl⟩ := readBuddy?_eq_some_iff.mp leftRead
  obtain ⟨_, _, rfl⟩ := readBuddy?_eq_some_iff.mp rightRead
  exact Text.bytes_lt_of_compare before

theorem nodup_ids_buddiesOf (known : query ∈ layout.ids) :
    ((buddiesOf expanded layout query).map
      (fun found => found.2.id)).Nodup := by
  rw [buddiesOf_of_mem known, ((List.mergeSort_perm _ _).map _).nodup_iff]
  refine List.pairwise_map.mpr (filterMap_readBuddy?_ordered.imp ?_)
  intro first second before same
  rw [same] at before
  exact List.lt_irrefl _ before

end Listed

/-- What is read off any layout as buddies of a container of another: nothing for
a container that the other layout does not have or that has no name, and
otherwise all containers with ids of the right spelling that the other layout
does not have, each once, by indices and then by ids. -/
theorem buddies_read_from_ids_in_order (expanded layout : Layout)
    (query : ContainerId) :
    (query ∉ layout.ids ∨ query = "" →
      buddiesOf expanded layout query = []) ∧
    (query ∈ layout.ids → query ≠ "" →
      (∀ number container,
        (∃ replica : UInt32, replica.toNat = number ∧
            (replica, container) ∈ buddiesOf expanded layout query) ↔
          container ∈ expanded.toList ∧ container.id ∉ layout.ids ∧
            ∃ numeral,
              ReplicaText.Spells container.id query numeral number) ∧
      ((buddiesOf expanded layout query).map
        (fun found => found.2.id)).Nodup ∧
      (buddiesOf expanded layout query).Pairwise (fun earlier later =>
        earlier.1 < later.1 ∨
          earlier.1 = later.1 ∧
            Text.bytes earlier.2.id < Text.bytes later.2.id)) := by
  refine ⟨?_, ?_⟩
  · intro foreign
    rcases foreign with unknown | unnamed
    · exact buddiesOf_of_not_mem unknown
    · rw [unnamed]
      exact buddiesOf_of_unnamed
  · intro known named
    refine ⟨fun _ _ => mem_buddiesOf_iff_spells known named,
      nodup_ids_buddiesOf known, ?_⟩
    rw [buddiesOf_of_mem known]
    exact mergeSort_index_ordered filterMap_readBuddy?_ordered

namespace Sample

def scattered : Layout :=
  .ofList (["7-5", "7-05", "7-005", "7-10", "7--5", "7-x", "7-4294967296",
    "7-5-1", "77-1"].map Container.vacant)

theorem buddies_read_from_ids_in_order_scattered :
    (∃ replica : UInt32, replica.toNat = 5 ∧
      (replica, Container.vacant "7-05") ∈ buddiesOf scattered dashed "7") ∧
    (¬ ∃ replica : UInt32, replica.toNat = 5 ∧
      (replica, Container.vacant "7-5") ∈ buddiesOf scattered dashed "7") ∧
    buddiesOf scattered dashed "" = [] := by
  obtain ⟨none, _⟩ := buddies_read_from_ids_in_order scattered dashed ""
  obtain ⟨_, some⟩ := buddies_read_from_ids_in_order scattered dashed "7"
  obtain ⟨listed, _, _⟩ := some (by decide +kernel) (by decide)
  have five : Decimal.Denotes "05".toList 5 :=
    Decimal.denotes_iff.mpr
      ⟨⟨by decide, List.all_eq_true.mp (by decide +kernel)⟩, by decide +kernel⟩
  have spells : ReplicaText.Spells "7-05" "7" "05" 5 :=
    ⟨by decide +kernel, five, by decide⟩
  refine ⟨?_, ?_, none (.inr rfl)⟩
  · exact (listed 5 _).mpr
      ⟨by decide +kernel, by decide +kernel, "05", spells⟩
  · intro read
    obtain ⟨_, foreign, _⟩ := (listed 5 _).mp read
    exact foreign (by decide +kernel)

end Sample

end WarmStandby
