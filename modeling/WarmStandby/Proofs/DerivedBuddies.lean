import Mathlib.Data.List.Pairwise
import WarmStandby.Proofs.BuddyDerivation
import WarmStandby.Proofs.MergeRun

/-!
# The buddies of a layout

A factor asks for one buddy of every container and replica index, in the order
of container ids and then of indices.  No two of them share an id, and for a
purely active layout neither do they share a task name with each other or with
the layout, so only an id can be taken.
-/

set_option autoImplicit false

namespace WarmStandby

namespace ReplicationFactor

theorem toNat_ofNat_of_lt {factor : ReplicationFactor} {index : Nat}
    (inRange : index < factor.buddiesPerContainer) :
    (UInt32.ofNat index).toNat = index := by
  have wordRange := factor.copies.toNat_lt_size
  rw [buddiesPerContainer] at inRange
  exact UInt32.toNat_ofNat_of_lt' (by omega)

theorem mem_indices_iff {factor : ReplicationFactor} {replica : UInt32} :
    replica ∈ factor.indices ↔
      replica.toNat < factor.buddiesPerContainer := by
  rw [indices, List.mem_map]
  constructor
  · intro listed
    obtain ⟨index, member, denotes⟩ := listed
    have inRange := List.mem_range.mp member
    rw [← denotes, toNat_ofNat_of_lt inRange]
    exact inRange
  · intro inRange
    exact ⟨replica.toNat, List.mem_range.mpr inRange, UInt32.ofNat_toNat⟩

theorem indices_ascending (factor : ReplicationFactor) :
    factor.indices.Pairwise (· < ·) := by
  have rangeAscending :
      (List.range factor.buddiesPerContainer).Pairwise (· < ·) :=
    List.pairwise_lt_range
  refine List.pairwise_map.mpr (rangeAscending.imp_of_mem ?_)
  intro left right leftMember rightMember before
  rw [UInt32.lt_iff_toNat_lt, toNat_ofNat_of_lt (List.mem_range.mp leftMember),
    toNat_ofNat_of_lt (List.mem_range.mp rightMember)]
  exact before

theorem nodup_indices (factor : ReplicationFactor) : factor.indices.Nodup :=
  factor.indices_ascending.imp UInt32.ne_of_lt

theorem map_toNat_indices (factor : ReplicationFactor) :
    factor.indices.map UInt32.toNat =
      List.range factor.buddiesPerContainer := by
  rw [indices, List.map_map]
  conv_rhs => rw [← List.map_id (List.range factor.buddiesPerContainer)]
  exact List.map_congr_left (fun index member =>
    toNat_ofNat_of_lt (List.mem_range.mp member))

@[simp]
theorem length_indices (factor : ReplicationFactor) :
    factor.indices.length = factor.buddiesPerContainer := by
  simp [indices]

end ReplicationFactor

namespace Layout

/-- The buddies of every container, for all replica indices of a factor. -/
def buddies (layout : Layout) (factor : ReplicationFactor) : List Buddy :=
  layout.toList.flatMap (fun container =>
    factor.indices.map (Buddy.derive container))

theorem mem_buddies_iff {layout : Layout} {factor : ReplicationFactor}
    {buddy : Buddy} :
    buddy ∈ layout.buddies factor ↔
      ∃ container ∈ layout.toList, ∃ replica : UInt32,
        replica.toNat < factor.buddiesPerContainer ∧
          Buddy.derive container replica = buddy := by
  simp only [buddies, List.mem_flatMap, List.mem_map,
    ReplicationFactor.mem_indices_iff]

theorem derive_mem_buddies {layout : Layout} {factor : ReplicationFactor}
    {source : Container} {replica : UInt32} (member : source ∈ layout.toList)
    (inRange : replica.toNat < factor.buddiesPerContainer) :
    Buddy.derive source replica ∈ layout.buddies factor :=
  mem_buddies_iff.mpr ⟨source, member, replica, inRange, rfl⟩

theorem mem_append_buddies_iff {layout : Layout} {factor : ReplicationFactor}
    {container : Container} :
    container ∈ layout.toList ++ (layout.buddies factor).map Buddy.model ↔
      container ∈ layout.toList ∨
        ∃ source ∈ layout.toList, ∃ replica : UInt32,
          replica.toNat < factor.buddiesPerContainer ∧
            (Buddy.derive source replica).model = container := by
  rw [List.mem_append, List.mem_map]
  refine or_congr_right ?_
  constructor
  · intro modelled
    obtain ⟨buddy, member, rfl⟩ := modelled
    obtain ⟨source, sourceMember, replica, inRange, rfl⟩ :=
      mem_buddies_iff.mp member
    exact ⟨source, sourceMember, replica, inRange, rfl⟩
  · intro derived
    obtain ⟨source, member, replica, inRange, rfl⟩ := derived
    exact ⟨_, derive_mem_buddies member inRange, rfl⟩

theorem length_buddies (layout : Layout) (factor : ReplicationFactor) :
    (layout.buddies factor).length =
      layout.size * factor.buddiesPerContainer := by
  simp [buddies, Roster.size]

theorem buddies_ascending (layout : Layout) (factor : ReplicationFactor) :
    (layout.buddies factor).Pairwise
      (fun earlier later => compare earlier.id later.id = .lt) := by
  refine List.pairwise_flatMap.mpr ⟨?_, ?_⟩
  · intro container _
    refine List.pairwise_map.mpr (factor.indices_ascending.imp ?_)
    intro left right before
    exact BuddyId.compare_eq_lt_iff.mpr (.inr ⟨rfl, before⟩)
  · refine layout.ascending.imp ?_
    intro left right before leftBuddy leftMember rightBuddy rightMember
    obtain ⟨leftReplica, _, rfl⟩ := List.mem_map.mp leftMember
    obtain ⟨rightReplica, _, rfl⟩ := List.mem_map.mp rightMember
    exact BuddyId.compare_eq_lt_iff.mpr
      (.inl (compareOfLessAndEq_eq_lt.mp before))

/-! ## Apart from the layout and from each other -/

namespace PurelyActive

variable {layout : Layout} (pure : layout.PurelyActive)

include pure

theorem not_reserved_of_mem {container : Container} {name : TaskName}
    (member : container ∈ layout.toList)
    (held : name ∈ container.tasks.keys) : isReserved name = false := by
  obtain ⟨task, taskMember, rfl⟩ := Roster.mem_keys_iff.mp held
  exact pure.unreserved (container.id, task)
    (mem_assignments_iff.mpr ⟨container, member, rfl, taskMember⟩)

theorem containers_apart : layout.toList.Pairwise Container.Apart := by
  refine layout.ascending.imp_of_mem ?_
  intro left right leftMember rightMember before
  have distinct : left.id ≠ right.id := Roster.ne_of_compare_eq_lt before
  refine ⟨distinct, ?_⟩
  intro name leftHolds rightHolds
  exact distinct (congrArg Container.id
    (pure.eq_of_mem_names leftMember rightMember leftHolds rightHolds))

/-- A standby name is reserved, so a buddy is apart from the layout if its id
is. -/
theorem apart_of_fresh {factor : ReplicationFactor} {container : Container}
    {buddy : Buddy} (member : container ∈ layout.toList)
    (offered : buddy ∈ layout.buddies factor)
    (fresh : buddy.model.id ∉ layout.keys) :
    container.Apart buddy.model := by
  obtain ⟨source, _, replica, _, rfl⟩ := mem_buddies_iff.mp offered
  refine ⟨?_, ?_⟩
  · intro sameId
    exact fresh (Roster.mem_keys_iff.mpr ⟨container, member, sameId⟩)
  · intro name held derived
    obtain ⟨sourceName, _, rfl⟩ := Buddy.mem_derive_names_iff.mp derived
    have unreserved := pure.not_reserved_of_mem member held
    rw [StandbyName.isReserved_text] at unreserved
    contradiction

/-- Buddies with distinct typed ids are apart: a common standby name would stand
for a task of both their containers. -/
theorem derive_apart_derive {left right : Container}
    {leftReplica rightReplica : UInt32}
    (leftMember : left ∈ layout.toList) (rightMember : right ∈ layout.toList)
    (distinct : (⟨left.id, leftReplica⟩ : BuddyId) ≠ ⟨right.id, rightReplica⟩) :
    (Buddy.derive left leftReplica).model.Apart
      (Buddy.derive right rightReplica).model := by
  refine ⟨fun same => distinct (BuddyId.text_injective same), ?_⟩
  intro name leftHolds rightHolds
  obtain ⟨leftName, leftHeld, rfl⟩ := Buddy.mem_derive_names_iff.mp leftHolds
  obtain ⟨rightName, rightHeld, same⟩ :=
    Buddy.mem_derive_names_iff.mp rightHolds
  have sameName : (⟨rightName, rightReplica⟩ : StandbyName) =
      ⟨leftName, leftReplica⟩ := StandbyName.text_injective same
  obtain ⟨rfl, rfl⟩ := StandbyName.mk.inj sameName
  have sameContainer :=
    pure.eq_of_mem_names leftMember rightMember leftHeld rightHeld
  exact distinct (by rw [sameContainer])

theorem buddies_apart (factor : ReplicationFactor) :
    (layout.buddies factor).Pairwise
      (fun earlier later => earlier.model.Apart later.model) := by
  refine (layout.buddies_ascending factor).imp_of_mem ?_
  intro earlier later earlierMember laterMember before
  obtain ⟨left, leftMember, leftReplica, _, rfl⟩ :=
    mem_buddies_iff.mp earlierMember
  obtain ⟨right, rightMember, rightReplica, _, rfl⟩ :=
    mem_buddies_iff.mp laterMember
  exact pure.derive_apart_derive leftMember rightMember
    (Roster.ne_of_compare_eq_lt before)

end PurelyActive

end Layout

end WarmStandby
