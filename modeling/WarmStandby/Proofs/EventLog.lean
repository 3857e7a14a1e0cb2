import WarmStandby.Proofs.ByteOrder
import WarmStandby.Proofs.Provenance

/-!
# The log of a run

A run tells what it did in four ways: by the events of its containers, by the
list of ids in its last event, by a set of typed ids, and by the layout that it
returns.  They are kept in three orders.  The events and the list come in the
order of the run; the set is ordered by container ids and then by the numbers
of the replicas; and the layout is ordered by the bytes of ids, where the tenth
replica of a container comes before its second.  For every run they tell of the
same buddies, and the first three in the same order.
-/

set_option autoImplicit false

namespace WarmStandby

namespace Layout

/-! ## What the events should be -/

/-- The ids of the first `standbys` buddies of every container, in the order of
the run. -/
def addedIds (layout : Layout) (standbys : Nat) : List ContainerId :=
  layout.ids.flatMap (fun id =>
    (List.range standbys).map (fun index => id ++ "-" ++ Decimal.text index))

/-- One event for each of these buddies, with as many tasks as the container
has that it backs up. -/
def generatedEvents (layout : Layout) (standbys : Nat) : List Event :=
  layout.toList.flatMap (fun active =>
    (List.range standbys).map (fun index =>
      .standbyTasksGenerated active.id
        (active.id ++ "-" ++ Decimal.text index) active.size))

section Buddies

variable (layout : Layout) (factor : ReplicationFactor)

theorem map_buddies {Listed : Type} {ofBuddy : Buddy → Listed}
    {ofIndex : Container → Nat → Listed}
    (each : ∀ source replica,
      ofBuddy (.derive source replica) = ofIndex source replica.toNat) :
    (layout.buddies factor).map ofBuddy =
      layout.toList.flatMap (fun source =>
        (List.range factor.buddiesPerContainer).map (ofIndex source)) := by
  rw [buddies, List.map_flatMap]
  refine List.flatMap_congr ?_
  intro source _
  rw [← factor.map_toNat_indices, List.map_map, List.map_map]
  exact List.map_congr_left (fun replica _ => each source replica)

theorem map_ofBuddy_buddies :
    (layout.buddies factor).map Event.ofBuddy =
      layout.generatedEvents factor.buddiesPerContainer := by
  refine layout.map_buddies factor ?_
  intro source replica
  rw [Event.ofBuddy, Buddy.derive_model_size]
  rfl

theorem map_id_buddies :
    (layout.buddies factor).map (fun buddy => buddy.model.id) =
      layout.addedIds factor.buddiesPerContainer := by
  rw [addedIds, Layout.ids, Roster.keys, List.flatMap_map]
  exact layout.map_buddies factor (fun _ _ => rfl)

theorem length_addedIds (standbys : Nat) :
    (layout.addedIds standbys).length = layout.size * standbys := by
  simp [addedIds, Layout.ids, Roster.keys, Roster.size, Function.comp_def]

end Buddies

end Layout

/-! ## What a run records -/

namespace Outcome.Expands

variable {outcome : Outcome} {layout : Layout} {factor : ReplicationFactor}
variable (expands : outcome.Expands layout factor)

include expands

theorem events_eq :
    outcome.events =
      .received layout.size factor.copies ::
        layout.generatedEvents factor.buddiesPerContainer ++
        [.buddyContainersAdded
          (layout.addedIds factor.buddiesPerContainer)] := by
  rw [expands.events, layout.map_ofBuddy_buddies, layout.map_id_buddies]

theorem map_text_buddies :
    outcome.buddies.toList.map BuddyId.text =
      layout.addedIds factor.buddiesPerContainer := by
  rw [expands.buddies, List.map_map, ← layout.map_id_buddies]
  refine List.map_congr_left ?_
  intro buddy offered
  exact (Layout.model_id_of_mem_buddies offered).symm

theorem mem_addedIds_iff {id : ContainerId} :
    id ∈ layout.addedIds factor.buddiesPerContainer ↔
      id ∈ outcome.layout.ids ∧ id ∉ layout.ids := by
  rw [← layout.map_id_buddies]
  exact expands.mem_made_ids_iff

theorem nodup_addedIds :
    (layout.addedIds factor.buddiesPerContainer).Nodup := by
  rw [← layout.map_id_buddies]
  exact expands.ids_split.2

theorem get?_of_index {source : Container} (member : source ∈ layout.toList)
    {index : Nat} (inRange : index < factor.buddiesPerContainer) :
    ∃ buddy,
      outcome.layout.get? (source.id ++ "-" ++ Decimal.text index) =
          some buddy ∧
        buddy.size = source.size := by
  have indexExact := ReplicationFactor.toNat_ofNat_of_lt inRange
  have found := expands.get?_of_buddy member (indexExact.symm ▸ inRange)
  rw [BuddyId.text, ReplicaText.render, indexExact] at found
  exact ⟨_, found, Buddy.derive_model_size source _⟩

end Outcome.Expands

theorem BuddyIdSet.ordered (buddies : BuddyIdSet) :
    buddies.toList.Pairwise (fun earlier later =>
      Text.bytes earlier.active < Text.bytes later.active ∨
        earlier.active = later.active ∧ earlier.replica < later.replica) := by
  refine buddies.ascending.imp ?_
  intro earlier later before
  rw [← Text.lt_iff_bytes_lt]
  exact BuddyId.compare_eq_lt_iff.mp before

namespace Layout

variable {layout : Layout} {value : Int} {outcome : Outcome}

/-- The events of a run that expands its layout, and how they agree with its
typed ids and its layout: the factor, one event for each buddy with its number
of tasks, and a list of ids that has the order of the typed ids and holds each
id that the run brought once. -/
theorem events_list_every_derivation (nonempty : layout.isEmpty = false)
    (two : 2 ≤ value) (success : layout.generate value = .ok outcome) :
    let standbys := (value - 1).toNat
    let added := layout.addedIds standbys
    (∃ copies : UInt32, (copies.toNat : Int) = value ∧
      outcome.events =
        .received layout.size copies :: layout.generatedEvents standbys ++
          [.buddyContainersAdded added]) ∧
    (∀ active ∈ layout.toList, ∀ index < standbys,
      ∃ buddy,
        outcome.layout.get? (active.id ++ "-" ++ Decimal.text index) =
            some buddy ∧
          buddy.size = active.size) ∧
    added = outcome.buddies.toList.map (fun buddy =>
      buddy.active ++ "-" ++ Decimal.text buddy.replica.toNat) ∧
    outcome.buddies.toList.Pairwise (fun earlier later =>
      Text.bytes earlier.active < Text.bytes later.active ∨
        earlier.active = later.active ∧ earlier.replica < later.replica) ∧
    (added.length : Int) = (value - 1) * layout.size ∧
    added.Nodup ∧
    ∀ id, id ∈ added ↔ id ∈ outcome.layout.ids ∧ id ∉ layout.ids := by
  intro standbys added
  obtain ⟨factor, copies, expands⟩ :=
    expands_of_generate_eq_ok nonempty two success
  have standbysExact : standbys = factor.buddiesPerContainer := by
    unfold standbys
    rw [ReplicationFactor.buddiesPerContainer]
    omega
  unfold added
  rw [standbysExact]
  refine ⟨⟨factor.copies, copies, expands.events_eq⟩, ?_,
    expands.map_text_buddies.symm, outcome.buddies.ordered, ?_,
    expands.nodup_addedIds, fun _ => expands.mem_addedIds_iff⟩
  · intro active member index inRange
    exact expands.get?_of_index member inRange
  · rw [length_addedIds, ← standbysExact, Nat.mul_comm]
    push_cast
    rw [Int.toNat_of_nonneg (by omega)]

end Layout

namespace Sample

def alike : Layout :=
  .ofList [⟨"a", .ofList [.active "x" [] 0]⟩, .vacant "a-"]

/-- With more than ten replicas the ids in the last event are not in the order
of the layout. -/
theorem events_list_every_derivation_alike :
    alike.isEmpty = false ∧ ∃ outcome, alike.generate 12 = .ok outcome ∧
      (∃ copies : UInt32, (copies.toNat : Int) = 12 ∧
        outcome.events =
          .received 2 copies :: alike.generatedEvents 11 ++
            [.buddyContainersAdded (alike.addedIds 11)]) ∧
      (alike.addedIds 11).Nodup ∧ "a-10" ∈ outcome.layout.ids := by
  have nonempty : alike.isEmpty = false := by decide +kernel
  have size : alike.size = 2 := by decide +kernel
  obtain ⟨outcome, success⟩ := Layout.exists_outcome_of_isOk
    (show (alike.generate 12).isOk = true by decide +kernel)
  obtain ⟨events, _, _, _, _, distinct, added⟩ :=
    Layout.events_list_every_derivation nonempty (by decide) success
  have listed : "a-10" ∈ alike.addedIds 11 := by decide +kernel
  rw [size] at events
  exact ⟨nonempty, outcome, success, events, distinct,
    ((added "a-10").mp listed).1⟩

end Sample

end WarmStandby
