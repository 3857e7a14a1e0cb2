import WarmStandby.Proofs.ExpandedLayout

/-!
# Looking buddies up

The buddies of a container are found either by the typed ids of a run or by
reading the ids of the expanded layout back.  Both ways list the same containers
in the same order, except for the container with the empty id, whose buddies
are not read back.
-/

set_option autoImplicit false

namespace WarmStandby

/-! ## Lists in ascending order of replica indices -/

theorem nodup_indices_of_ascending {pairs : List (UInt32 × Container)}
    (ascending : pairs.Pairwise (fun first second => first.1 < second.1)) :
    (pairs.map Prod.fst).Nodup :=
  List.pairwise_map.mpr (ascending.imp UInt32.ne_of_lt)

theorem eq_of_ascending_of_mem_iff {left right : List (UInt32 × Container)}
    (leftAscending : left.Pairwise (fun first second => first.1 < second.1))
    (rightAscending : right.Pairwise (fun first second => first.1 < second.1))
    (same : ∀ pair, pair ∈ left ↔ pair ∈ right) : left = right := by
  have leftNodup :=
    List.Nodup.of_map _ (nodup_indices_of_ascending leftAscending)
  have rightNodup :=
    List.Nodup.of_map _ (nodup_indices_of_ascending rightAscending)
  refine ((List.perm_ext_iff_of_nodup leftNodup rightNodup).mpr
    same).eq_of_pairwise ?_ leftAscending rightAscending
  intro first second _ _ before after
  exact absurd (UInt32.lt_trans before after) (UInt32.lt_irrefl _)

theorem index_le_trans (first second third : UInt32 × Container)
    (before : decide (first.1 ≤ second.1) = true)
    (after : decide (second.1 ≤ third.1) = true) :
    decide (first.1 ≤ third.1) = true := by
  simp only [decide_eq_true_eq] at before after ⊢
  exact UInt32.le_trans before after

theorem index_le_total (first second : UInt32 × Container) :
    (decide (first.1 ≤ second.1) || decide (second.1 ≤ first.1)) = true := by
  simpa using UInt32.le_total first.1 second.1

theorem pairwise_mergeSort_index (pairs : List (UInt32 × Container)) :
    (pairs.mergeSort (fun left right => decide (left.1 ≤ right.1))).Pairwise
      (fun first second => first.1 ≤ second.1) :=
  (List.pairwise_mergeSort index_le_trans index_le_total pairs).imp
    of_decide_eq_true

/-- A list without repetition sorts to the list of its members in strictly
ascending order, if there is one. -/
theorem mergeSort_eq_of_ascending {found expected : List (UInt32 × Container)}
    (nodup : found.Nodup)
    (ascending : expected.Pairwise (fun first second => first.1 < second.1))
    (same : ∀ pair, pair ∈ found ↔ pair ∈ expected) :
    found.mergeSort (fun left right => decide (left.1 ≤ right.1)) =
      expected := by
  have distinct := nodup_indices_of_ascending ascending
  have perm : (found.mergeSort
      (fun left right => decide (left.1 ≤ right.1))).Perm expected :=
    (List.mergeSort_perm _ _).trans
      ((List.perm_ext_iff_of_nodup nodup (List.Nodup.of_map _ distinct)).mpr
        same)
  -- Sorting compares by `≤` only, so equal indices have to be told apart by the
  -- indices of `expected`, which are distinct.
  refine perm.eq_of_pairwise ?_ (pairwise_mergeSort_index found)
    (ascending.imp UInt32.le_of_lt)
  intro first second firstMember secondMember before after
  have sameIndex : first.1 = second.1 := UInt32.le_antisymm before after
  exact List.inj_on_of_nodup_map distinct (perm.subset firstMember)
    secondMember sameIndex

/-! ## By typed ids -/

theorem Outcome.buddiesOf_ascending (outcome : Outcome)
    (query : ContainerId) :
    (outcome.buddiesOf query).Pairwise
      (fun first second => first.1 < second.1) := by
  refine List.Pairwise.filterMap _ ?_ outcome.buddies.ascending
  intro left right before first leftFound second rightFound
  split at leftFound
  · rename_i leftActive
    split at rightFound
    · rename_i rightActive
      obtain ⟨_, _, rfl⟩ := Option.map_eq_some_iff.mp leftFound
      obtain ⟨_, _, rfl⟩ := Option.map_eq_some_iff.mp rightFound
      rcases BuddyId.compare_eq_lt_iff.mp before with
        activeBefore | ⟨_, replicaBefore⟩
      · rw [leftActive, rightActive] at activeBefore
        exact absurd activeBefore (String.lt_irrefl _)
      · exact replicaBefore
    · contradiction
  · contradiction

namespace Outcome.Expands

variable {outcome : Outcome} {layout : Layout} {factor : ReplicationFactor}
variable (expands : outcome.Expands layout factor)

include expands

theorem mem_buddiesOf_iff {query : ContainerId}
    {pair : UInt32 × Container} :
    pair ∈ outcome.buddiesOf query ↔
      ∃ source ∈ layout.toList, source.id = query ∧
        pair.1.toNat < factor.buddiesPerContainer ∧
        (Buddy.derive source pair.1).model = pair.2 := by
  rw [buddiesOf, expands.buddies, List.mem_filterMap]
  constructor
  · intro listed
    obtain ⟨id, member, found⟩ := listed
    obtain ⟨buddy, buddyMember, rfl⟩ := List.mem_map.mp member
    obtain ⟨source, sourceMember, replica, inRange, rfl⟩ :=
      Layout.mem_buddies_iff.mp buddyMember
    rw [Buddy.derive_id, expands.get?_of_buddy sourceMember inRange] at found
    split at found
    · rename_i sameId
      rw [← Option.some.inj found]
      exact ⟨source, sourceMember, sameId, inRange, rfl⟩
    · contradiction
  · intro derivedPair
    obtain ⟨source, member, sameId, inRange, derived⟩ := derivedPair
    have offered := Layout.derive_mem_buddies member inRange
    refine ⟨⟨source.id, pair.1⟩, List.mem_map_of_mem offered, ?_⟩
    rw [if_pos sameId, expands.get?_of_buddy member inRange, derived]
    rfl

theorem buddiesOf_eq_nil_of_not_mem {query : ContainerId}
    (unknown : query ∉ layout.ids) : outcome.buddiesOf query = [] := by
  refine List.eq_nil_iff_forall_not_mem.mpr ?_
  intro pair listed
  obtain ⟨source, member, rfl, _⟩ := expands.mem_buddiesOf_iff.mp listed
  exact unknown (List.mem_map_of_mem member)

theorem buddiesOf_eq {source : Container} (member : source ∈ layout.toList) :
    outcome.buddiesOf source.id = factor.indices.map (fun replica =>
      (replica, (Buddy.derive source replica).model)) := by
  refine eq_of_ascending_of_mem_iff (outcome.buddiesOf_ascending source.id)
    (List.pairwise_map.mpr factor.indices_ascending) ?_
  intro pair
  simp only [expands.mem_buddiesOf_iff, List.mem_map,
    ReplicationFactor.mem_indices_iff]
  constructor
  · intro listed
    obtain ⟨other, otherMember, sameId, inRange, derived⟩ := listed
    rw [layout.eq_of_key_eq otherMember member sameId] at derived
    exact ⟨pair.1, inRange, by rw [derived]⟩
  · intro indexed
    obtain ⟨replica, inRange, rfl⟩ := indexed
    exact ⟨source, member, rfl, inRange, rfl⟩

end Outcome.Expands

/-! ## By id texts -/

/-- The index of a container that is none of `layout` and whose id reads as a
buddy of `active`. -/
def readBuddy? (layout : Layout) (active : ContainerId)
    (container : Container) : Option (UInt32 × Container) :=
  if layout.contains container.id then none
  else
    match BuddyId.parse? container.id with
    | some buddy =>
        if buddy.active = active then some (buddy.replica, container) else none
    | none => none

section Scan

variable {expanded layout : Layout} {active : ContainerId}

theorem buddiesOf_of_not_mem (unknown : active ∉ layout.ids) :
    buddiesOf expanded layout active = [] := by
  rw [buddiesOf, if_neg (fun known => unknown (Roster.contains_iff.mp known))]

theorem buddiesOf_of_mem (known : active ∈ layout.ids) :
    buddiesOf expanded layout active =
      (expanded.toList.filterMap (readBuddy? layout active)).mergeSort
        (fun left right => decide (left.1 ≤ right.1)) := by
  rw [buddiesOf, if_pos (Roster.contains_iff.mpr known)]
  rfl

theorem readBuddy?_eq_some_iff {container : Container}
    {pair : UInt32 × Container} :
    readBuddy? layout active container = some pair ↔
      container.id ∉ layout.ids ∧
        BuddyId.parse? container.id = some ⟨active, pair.1⟩ ∧
        container = pair.2 := by
  obtain ⟨replica, found⟩ := pair
  rw [readBuddy?]
  by_cases known : container.id ∈ layout.ids
  · simp [Roster.contains_iff.mpr known, known]
  · rw [if_neg (fun contained => known (Roster.contains_iff.mp contained))]
    cases parsed : BuddyId.parse? container.id with
    | none => simp
    | some buddy =>
        by_cases sameActive : buddy.active = active
        · obtain ⟨readActive, readReplica⟩ := buddy
          simp_all
        · have other : buddy ≠ ⟨active, replica⟩ := fun same =>
            sameActive (congrArg BuddyId.active same)
          simp [sameActive, other]

theorem mem_filterMap_readBuddy?_iff {pair : UInt32 × Container} :
    pair ∈ expanded.toList.filterMap (readBuddy? layout active) ↔
      pair.2 ∈ expanded.toList ∧ pair.2.id ∉ layout.ids ∧
        BuddyId.parse? pair.2.id = some ⟨active, pair.1⟩ := by
  rw [List.mem_filterMap]
  constructor
  · intro listed
    obtain ⟨container, member, found⟩ := listed
    obtain ⟨foreign, parsed, rfl⟩ := readBuddy?_eq_some_iff.mp found
    exact ⟨member, foreign, parsed⟩
  · intro held
    obtain ⟨member, foreign, parsed⟩ := held
    exact ⟨pair.2, member, readBuddy?_eq_some_iff.mpr ⟨foreign, parsed, rfl⟩⟩

theorem nodup_filterMap_readBuddy? :
    (expanded.toList.filterMap (readBuddy? layout active)).Nodup := by
  refine expanded.nodup_toList.filterMap ?_
  intro left right pair leftFound rightFound
  obtain ⟨_, _, leftExact⟩ := readBuddy?_eq_some_iff.mp leftFound
  obtain ⟨_, _, rightExact⟩ := readBuddy?_eq_some_iff.mp rightFound
  rw [leftExact, rightExact]

theorem buddiesOf_eq_nil
    (unread : ∀ pair,
      pair ∉ expanded.toList.filterMap (readBuddy? layout active)) :
    buddiesOf expanded layout active = [] := by
  by_cases known : active ∈ layout.ids
  · rw [buddiesOf_of_mem known, List.eq_nil_iff_forall_not_mem.mpr unread,
      List.mergeSort_nil]
  · exact buddiesOf_of_not_mem known

theorem buddiesOf_self (layout : Layout) (active : ContainerId) :
    buddiesOf layout layout active = [] := by
  refine buddiesOf_eq_nil ?_
  intro pair read
  obtain ⟨member, foreign, _⟩ := mem_filterMap_readBuddy?_iff.mp read
  exact foreign (List.mem_map_of_mem member)

end Scan

/-! ## Both ways -/

namespace Outcome.Expands

variable {outcome : Outcome} {layout : Layout} {factor : ReplicationFactor}
variable (expands : outcome.Expands layout factor)

include expands

/-- What is read back are the buddies of the typed ids, if the container has a
name. -/
theorem mem_filterMap_readBuddy?_iff {query : ContainerId}
    {pair : UInt32 × Container} :
    pair ∈ outcome.layout.toList.filterMap (readBuddy? layout query) ↔
      query ≠ "" ∧ pair ∈ outcome.buddiesOf query := by
  rw [WarmStandby.mem_filterMap_readBuddy?_iff, expands.mem_iff,
    expands.mem_buddiesOf_iff]
  constructor
  · intro held
    obtain ⟨member, foreign, parsed⟩ := held
    rcases member with active | ⟨source, member, replica, inRange, derived⟩
    · exact absurd (List.mem_map_of_mem active) foreign
    · rw [← derived, Buddy.derive_model_id] at parsed
      by_cases unnamed : source.id = ""
      · rw [BuddyId.parse?_text_of_active_empty unnamed] at parsed
        contradiction
      · rw [BuddyId.parse?_text unnamed] at parsed
        obtain ⟨rfl, rfl⟩ := BuddyId.mk.inj (Option.some.inj parsed)
        exact ⟨unnamed, source, member, rfl, inRange, derived⟩
  · intro found
    obtain ⟨named, listed⟩ := found
    obtain ⟨source, member, rfl, inRange, derived⟩ := listed
    refine ⟨.inr ⟨source, member, pair.1, inRange, derived⟩, ?_, ?_⟩
    · rw [← derived]
      exact expands.fresh _ (Layout.derive_mem_buddies member inRange)
    · rw [← derived, Buddy.derive_model_id, BuddyId.parse?_text named]

theorem buddiesOf_eq_read {query : ContainerId} (named : query ≠ "") :
    outcome.buddiesOf query =
      WarmStandby.buddiesOf outcome.layout layout query := by
  by_cases known : query ∈ layout.ids
  · rw [buddiesOf_of_mem known]
    refine (mergeSort_eq_of_ascending nodup_filterMap_readBuddy?
      (outcome.buddiesOf_ascending query) ?_).symm
    intro pair
    rw [expands.mem_filterMap_readBuddy?_iff]
    exact and_iff_right named
  · rw [buddiesOf_of_not_mem known, expands.buddiesOf_eq_nil_of_not_mem known]

theorem unread_of_unnamed :
    WarmStandby.buddiesOf outcome.layout layout "" = [] := by
  refine buddiesOf_eq_nil ?_
  intro pair read
  exact (expands.mem_filterMap_readBuddy?_iff.mp read).1 rfl

theorem length_buddiesOf {query : ContainerId} (known : query ∈ layout.ids) :
    (outcome.buddiesOf query).length = factor.buddiesPerContainer := by
  obtain ⟨source, member, rfl⟩ := Roster.mem_keys_iff.mp known
  rw [expands.buddiesOf_eq member, List.length_map,
    ReplicationFactor.length_indices]

end Outcome.Expands

/-- Both ways of looking buddies up agree, but for the container with the empty
id. -/
theorem buddy_lookups_agree (layout : Layout) (value : Int) (outcome : Outcome)
    (success : layout.generate value = .ok outcome) (query : ContainerId) :
    (¬ (query = "" ∧ "" ∈ layout.ids ∧ 2 ≤ value) →
      outcome.buddiesOf query = buddiesOf outcome.layout layout query) ∧
    (query = "" ∧ "" ∈ layout.ids ∧ 2 ≤ value →
      ((outcome.buddiesOf query).length : Int) = value - 1 ∧
        buddiesOf outcome.layout layout query = []) := by
  rcases Layout.cases_of_generate_eq_ok success with
    ⟨idle, received, reason, rfl⟩ | ⟨_, two, factor, copies, expands⟩
  · refine ⟨fun _ => ?_, ?_⟩
    · exact (buddiesOf_self layout query).symm
    · intro exception
      obtain ⟨_, known, two⟩ := exception
      rcases idle with empty | one
      · rw [Layout.ids, Roster.keys, List.isEmpty_iff.mp empty] at known
        contradiction
      · omega
  · refine ⟨?_, ?_⟩
    · intro noException
      by_cases named : query = ""
      · rw [named, expands.unread_of_unnamed]
        refine expands.buddiesOf_eq_nil_of_not_mem ?_
        exact fun known => noException ⟨named, known, two⟩
      · exact expands.buddiesOf_eq_read named
    · intro exception
      obtain ⟨unnamed, known, _⟩ := exception
      rw [unnamed]
      refine ⟨?_, expands.unread_of_unnamed⟩
      rw [expands.length_buddiesOf known, ReplicationFactor.buddiesPerContainer]
      omega

theorem Sample.buddy_lookups_agree_dashed :
    ∃ outcome, dashed.generate 3 = .ok outcome ∧
      outcome.buddiesOf "7" = buddiesOf outcome.layout dashed "7" ∧
      ((outcome.buddiesOf "").length : Int) = 2 ∧
      buddiesOf outcome.layout dashed "" = [] := by
  have unnamed : "" ∈ dashed.ids := by decide +kernel
  obtain ⟨outcome, success⟩ := generate_dashed
  refine ⟨outcome, success, ?_, ?_⟩
  · exact (buddy_lookups_agree dashed 3 outcome success "7").1 (by simp)
  · exact (buddy_lookups_agree dashed 3 outcome success "").2
      ⟨rfl, unnamed, by decide⟩

end WarmStandby
