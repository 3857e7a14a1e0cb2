import WarmStandby.Proofs.ExpandedLayout
import WarmStandby.Proofs.ReplicaNames

/-!
# Tracing a buddy back

The text of a buddy id is enough to find the container that the buddy stands in
for, and which of its buddies it is.  The one exception are the buddies of a
container whose id is empty: their texts begin with the dash, and the reader
takes no such text for a buddy id.
-/

set_option autoImplicit false

namespace WarmStandby

theorem Layout.exists_buddyId_of_made {layout : Layout} {value : Int}
    {outcome : Outcome} (success : layout.generate value = .ok outcome)
    {id : ContainerId} (listed : id ∈ outcome.layout.ids)
    (made : id ∉ layout.ids) :
    ∃ buddy ∈ outcome.buddies.toList,
      buddy.active ∈ layout.ids ∧ buddy.text = id := by
  rcases cases_of_generate_eq_ok success with
    ⟨_, received, reason, rfl⟩ | ⟨_, _, factor, _, expands⟩
  · contradiction
  · obtain ⟨container, member, rfl⟩ := Roster.mem_keys_iff.mp listed
    rcases expands.mem_iff.mp member with
      active | ⟨source, sourceMember, replica, inRange, rfl⟩
    · have known : container.id ∈ layout.ids :=
        Roster.mem_keys_iff.mpr ⟨container, active, rfl⟩
      contradiction
    · have recorded : (⟨source.id, replica⟩ : BuddyId) ∈
          outcome.buddies.toList := by
        rw [expands.buddies]
        exact List.mem_map_of_mem (derive_mem_buddies sourceMember inRange)
      exact ⟨_, recorded,
        Roster.mem_keys_iff.mpr ⟨source, sourceMember, rfl⟩, rfl⟩

/-- The text of a buddy id is read back as that id if its container is named,
and not read at all if it is not.  So each container that a run made for a named
container tells that container and the index by its id. -/
theorem buddy_ids_traced_back :
    (∀ (active : ContainerId) (replica : UInt32), active ≠ "" →
      BuddyId.parse? (BuddyId.text ⟨active, replica⟩) =
        some ⟨active, replica⟩) ∧
    (∀ replica : UInt32, BuddyId.parse? (BuddyId.text ⟨"", replica⟩) = none) ∧
    ∀ (layout : Layout) (value : Int) (outcome : Outcome),
      layout.generate value = .ok outcome →
      ∀ id ∈ outcome.layout.ids, id ∉ layout.ids →
        ∃ buddy ∈ outcome.buddies.toList,
          buddy.active ∈ layout.ids ∧ buddy.text = id ∧
            (buddy.active ≠ "" → BuddyId.parse? id = some buddy) := by
  refine ⟨?_, ?_, ?_⟩
  · intro active replica named
    exact BuddyId.parse?_text named
  · intro replica
    exact BuddyId.parse?_text_of_active_empty rfl
  · intro layout value outcome success id listed made
    obtain ⟨buddy, recorded, known, rfl⟩ :=
      Layout.exists_buddyId_of_made success listed made
    exact ⟨buddy, recorded, known, rfl, BuddyId.parse?_text⟩

namespace Sample

theorem buddy_ids_traced_back_dashed :
    BuddyId.parse? (BuddyId.text ⟨"7-5", 4294967295⟩) =
        some ⟨"7-5", 4294967295⟩ ∧
      ∃ outcome, dashed.generate 3 = .ok outcome ∧
        ∃ buddy ∈ outcome.buddies.toList,
          buddy.active ∈ dashed.ids ∧ buddy.text = "7-5-1" := by
  obtain ⟨named, _, traced⟩ := buddy_ids_traced_back
  obtain ⟨outcome, success⟩ := generate_dashed
  have checked : (dashed.generate 3).toOption.any
      (fun outcome => outcome.layout.contains "7-5-1") = true := by
    decide +kernel
  have listed : "7-5-1" ∈ outcome.layout.ids := by
    rw [success] at checked
    exact Roster.contains_iff.mp checked
  obtain ⟨buddy, recorded, known, same, _⟩ :=
    traced dashed 3 outcome success "7-5-1" listed (by decide +kernel)
  exact ⟨named "7-5" 4294967295 (by decide),
    outcome, success, buddy, recorded, known, same⟩

theorem unnamed_buddy_not_traced_back :
    "" ∈ dashed.ids ∧
      ¬ ∀ active ∈ dashed.ids, ∀ replica : UInt32,
        BuddyId.parse? (BuddyId.text ⟨active, replica⟩) =
          some ⟨active, replica⟩ := by
  have held : "" ∈ dashed.ids := by decide +kernel
  refine ⟨held, ?_⟩
  intro traced
  have refused : BuddyId.parse? (BuddyId.text ⟨"", 1⟩) = none :=
    BuddyId.parse?_text_of_active_empty rfl
  rw [traced "" held 1] at refused
  exact Option.some_ne_none _ refused

end Sample

end WarmStandby
