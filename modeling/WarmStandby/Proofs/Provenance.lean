import WarmStandby.Command.Expansion
import WarmStandby.Proofs.BuddyLookup
import WarmStandby.Proofs.GenerationOutcomes

/-!
# Where a container came from

The typed ids of a run, the ids of the expanded layout, the events and the
report of an expansion all divide the containers in the same way: those of the
layout that was given, and those that the run made.  How an id is spelled and
what a container holds do not matter.
-/

set_option autoImplicit false

namespace WarmStandby

/-! ## Runs that expand their layout -/

namespace Outcome.Expands

variable {outcome : Outcome} {layout : Layout} {factor : ReplicationFactor}
variable (expands : outcome.Expands layout factor)

include expands

theorem any_buddy_text_iff {id : ContainerId} :
    outcome.buddies.toList.any (fun buddy => buddy.text == id) = true ↔
      ∃ buddy ∈ layout.buddies factor, buddy.model.id = id := by
  rw [expands.buddies, List.any_map, List.any_eq_true]
  simp only [Function.comp_apply, beq_iff_eq]
  refine exists_congr (fun buddy => and_congr_right (fun offered => ?_))
  rw [Layout.model_id_of_mem_buddies offered]

theorem activeContainers_eq : outcome.activeContainers = layout.toList := by
  let foreign := fun container : Container =>
    !outcome.buddies.toList.any (fun buddy => buddy.text == container.id)
  have activeKept : ∀ container ∈ layout.toList,
      foreign container = true := by
    intro container member
    rw [Bool.not_eq_true', ← Bool.not_eq_true, expands.any_buddy_text_iff]
    intro named
    obtain ⟨buddy, offered, sameId⟩ := named
    exact expands.fresh buddy offered
      (Roster.mem_keys_iff.mpr ⟨container, member, sameId.symm⟩)
  have madeDropped : ∀ model ∈ (layout.buddies factor).map Buddy.model,
      ¬ foreign model = true := by
    intro model member
    obtain ⟨buddy, offered, rfl⟩ := List.mem_map.mp member
    rw [Bool.not_eq_true', Bool.not_eq_false, expands.any_buddy_text_iff]
    exact ⟨buddy, offered, rfl⟩
  have perm : (outcome.layout.filter foreign).toList.Perm layout.toList :=
    calc (outcome.layout.toList.filter foreign).Perm
          ((layout.toList ++ (layout.buddies factor).map Buddy.model).filter
            foreign) := expands.containers.filter foreign
      List.Perm _ layout.toList := by
        rw [List.filter_append, List.filter_eq_self.mpr activeKept,
          List.filter_eq_nil_iff.mpr madeDropped, List.append_nil]
  exact congrArg Roster.toList (Roster.eq_of_perm perm)

/-- The ids of the expanded layout are those of the layout, and apart from these
the ids of the buddies, each once. -/
theorem ids_split :
    (∀ id, id ∈ outcome.layout.ids ↔ id ∈ layout.ids ∨
      id ∈ (layout.buddies factor).map (fun buddy => buddy.model.id)) ∧
    ((layout.buddies factor).map (fun buddy => buddy.model.id)).Nodup := by
  have perm := expands.containers.map Container.id
  rw [List.map_append, List.map_map] at perm
  have distinct := perm.nodup_iff.mp outcome.layout.nodup_keys
  refine ⟨fun id => perm.mem_iff.trans List.mem_append, ?_⟩
  exact (List.nodup_append.mp distinct).2.1

theorem mem_made_ids_iff {id : ContainerId} :
    id ∈ (layout.buddies factor).map (fun buddy => buddy.model.id) ↔
      id ∈ outcome.layout.ids ∧ id ∉ layout.ids := by
  rw [expands.ids_split.1, or_and_right, and_not_self_iff, false_or]
  refine (and_iff_left_of_imp ?_).symm
  intro made
  obtain ⟨buddy, offered, rfl⟩ := List.mem_map.mp made
  exact expands.fresh buddy offered

theorem flatMap_buddiesOf_ids :
    layout.ids.flatMap (fun id =>
        (outcome.buddiesOf id).map (fun found => found.2.id)) =
      (layout.buddies factor).map (fun buddy => buddy.model.id) := by
  rw [Layout.ids, Roster.keys, List.flatMap_map, Layout.buddies,
    List.map_flatMap]
  refine List.flatMap_congr ?_
  intro source member
  rw [expands.buddiesOf_eq member, List.map_map, List.map_map]
  rfl

/-- Each index is listed with the container that bears it. -/
theorem buddiesOf_indexed {id : ContainerId} (known : id ∈ layout.ids) :
    (outcome.buddiesOf id).map (fun found => (found.1.toNat, some found.2)) =
      (List.range factor.buddiesPerContainer).map (fun index =>
        (index, outcome.layout.get? (id ++ "-" ++ Decimal.text index))) := by
  obtain ⟨source, member, rfl⟩ := Roster.mem_keys_iff.mp known
  rw [expands.buddiesOf_eq member, ← factor.map_toNat_indices, List.map_map,
    List.map_map]
  refine List.map_congr_left ?_
  intro replica listed
  have inRange := ReplicationFactor.mem_indices_iff.mp listed
  have found := expands.get?_of_buddy member inRange
  rw [BuddyId.text, ReplicaText.render] at found
  simp only [Function.comp_apply]
  rw [← found]
  rfl

theorem not_isPassThrough : outcome.isPassThrough = false := by
  rw [Outcome.isPassThrough, expands.events]
  simp [Event.isPassThrough, Event.ofBuddy]

theorem buddies_ne_empty (nonempty : layout.isEmpty = false)
    (several : 0 < factor.buddiesPerContainer) : outcome.buddies ≠ .empty := by
  obtain ⟨source, member⟩ := List.exists_mem_of_ne_nil layout.toList
    (List.isEmpty_eq_false_iff.mp nonempty)
  have offered : Buddy.derive source 0 ∈ layout.buddies factor :=
    Layout.derive_mem_buddies member several
  have listed : (⟨source.id, 0⟩ : BuddyId) ∈ outcome.buddies.toList := by
    rw [expands.buddies]
    exact List.mem_map_of_mem offered
  intro none
  rw [none] at listed
  contradiction

theorem layout_ne (nonempty : layout.isEmpty = false)
    (several : 0 < factor.buddiesPerContainer) : outcome.layout ≠ layout := by
  have sizePositive : 0 < layout.size :=
    List.length_pos_iff.mpr (List.isEmpty_eq_false_iff.mp nonempty)
  have grown : 0 < layout.size * factor.buddiesPerContainer :=
    Nat.mul_pos sizePositive several
  have sizeExact := expands.size_eq
  intro same
  rw [same] at sizeExact
  omega

end Outcome.Expands

/-! ## Runs that pass their layout through -/

section PassThrough

variable {layout : Layout} {received : Event} {reason : PassThroughReason}

theorem activeContainers_passThrough :
    (Generation.passThrough layout received reason).activeContainers =
      layout.toList :=
  List.filter_eq_self.mpr (fun _ _ => rfl)

theorem buddiesOf_passThrough (query : ContainerId) :
    (Generation.passThrough layout received reason).buddiesOf query = [] := rfl

theorem isPassThrough_passThrough :
    (Generation.passThrough layout received reason).isPassThrough = true := by
  simp [Generation.passThrough, Outcome.isPassThrough, Event.isPassThrough]

end PassThrough

/-! ## All runs -/

namespace Layout

variable {layout : Layout} {value : Int} {outcome : Outcome}

theorem isPassThrough_iff (success : layout.generate value = .ok outcome) :
    (outcome.isPassThrough = true ↔ outcome.buddies = .empty) ∧
    (outcome.isPassThrough = true ↔ outcome.layout = layout) ∧
    (outcome.isPassThrough = true ↔ layout.isEmpty = true ∨ value = 1) := by
  rcases cases_of_generate_eq_ok success with
    ⟨idle, received, reason, rfl⟩ | ⟨nonempty, two, factor, copies, expands⟩
  · rw [isPassThrough_passThrough]
    exact ⟨iff_of_true rfl rfl, iff_of_true rfl rfl, iff_of_true rfl idle⟩
  · have several : 0 < factor.buddiesPerContainer :=
      ReplicationFactor.buddiesPerContainer_pos (by omega)
    have busy : ¬ (layout.isEmpty = true ∨ value = 1) := by
      rw [nonempty]
      simp only [Bool.false_eq_true, false_or]
      omega
    rw [expands.not_isPassThrough]
    exact ⟨iff_of_false Bool.false_ne_true
        (expands.buddies_ne_empty nonempty several),
      iff_of_false Bool.false_ne_true (expands.layout_ne nonempty several),
      iff_of_false Bool.false_ne_true busy⟩

theorem activeContainers_of_generate
    (success : layout.generate value = .ok outcome) :
    outcome.activeContainers = layout.toList := by
  rcases cases_of_generate_eq_ok success with
    ⟨_, received, reason, rfl⟩ | ⟨_, _, factor, _, expands⟩
  · exact activeContainers_passThrough
  · exact expands.activeContainers_eq

theorem buddiesOf_of_generate (success : layout.generate value = .ok outcome)
    (two : 2 ≤ value) {id : ContainerId} (known : id ∈ layout.ids) :
    (outcome.buddiesOf id).map (fun found => (found.1.toNat, some found.2)) =
      (List.range (value - 1).toNat).map (fun index =>
        (index, outcome.layout.get? (id ++ "-" ++ Decimal.text index))) := by
  have nonempty : layout.isEmpty = false := by
    obtain ⟨container, member, _⟩ := Roster.mem_keys_iff.mp known
    exact List.isEmpty_eq_false_iff.mpr (List.ne_nil_of_mem member)
  obtain ⟨factor, copies, expands⟩ :=
    expands_of_generate_eq_ok nonempty two success
  have buddiesExact : (value - 1).toNat = factor.buddiesPerContainer := by
    rw [ReplicationFactor.buddiesPerContainer]
    omega
  rw [buddiesExact]
  exact expands.buddiesOf_indexed known

theorem buddiesOf_of_foreign (success : layout.generate value = .ok outcome)
    {query : ContainerId} (foreign : query ∉ layout.ids ∨ value = 1) :
    outcome.buddiesOf query = [] := by
  rcases cases_of_generate_eq_ok success with
    ⟨_, received, reason, rfl⟩ | ⟨_, two, factor, _, expands⟩
  · exact buddiesOf_passThrough query
  · exact expands.buddiesOf_eq_nil_of_not_mem
      (foreign.resolve_right (by omega))

theorem expansion_reports (success : layout.generate value = .ok outcome) :
    ∃ expansion, layout.expansion value = .ok expansion ∧
      expansion.layout = outcome.layout ∧
      expansion.buddies = layout.ids.map (fun id =>
        (id, (outcome.buddiesOf id).map (fun found => found.2.id))) ∧
      (expansion.buddies.flatMap Prod.snd).Nodup ∧
      ∀ id, id ∈ expansion.buddies.flatMap Prod.snd ↔
        id ∈ outcome.layout.ids ∧ id ∉ layout.ids := by
  rw [expansion, success]
  refine ⟨_, rfl, rfl, rfl, ?_⟩
  simp only [List.flatMap_map]
  rcases cases_of_generate_eq_ok success with
    ⟨_, received, reason, rfl⟩ | ⟨_, _, factor, _, expands⟩
  · have noBuddies :
        layout.ids.flatMap (fun _ => ([] : List ContainerId)) = [] :=
      List.flatMap_eq_nil_iff.mpr (fun _ _ => rfl)
    simp only [buddiesOf_passThrough, List.map_nil, noBuddies]
    simp [Generation.passThrough]
  · rw [expands.flatMap_buddiesOf_ids]
    exact ⟨expands.ids_split.2, fun _ => expands.mem_made_ids_iff⟩

/-- All that a run tells of where its containers came from.  The containers that
it did not make are those of the layout, in order; the buddies of each of these
are listed from index 0 on without a gap; together they are the containers that
it made; and a run that made none is one that passed its layout through. -/
theorem recorded_ids_tell_provenance
    (success : layout.generate value = .ok outcome) :
    outcome.activeContainers = layout.toList ∧
    (2 ≤ value → ∀ id ∈ layout.ids,
      (outcome.buddiesOf id).map (fun found => (found.1.toNat, some found.2)) =
        (List.range (value - 1).toNat).map (fun index =>
          (index, outcome.layout.get? (id ++ "-" ++ Decimal.text index)))) ∧
    (∀ query, query ∉ layout.ids ∨ value = 1 →
      outcome.buddiesOf query = []) ∧
    (∃ expansion, layout.expansion value = .ok expansion ∧
      expansion.layout = outcome.layout ∧
      expansion.buddies = layout.ids.map (fun id =>
        (id, (outcome.buddiesOf id).map (fun found => found.2.id))) ∧
      (expansion.buddies.flatMap Prod.snd).Nodup ∧
      ∀ id, id ∈ expansion.buddies.flatMap Prod.snd ↔
        id ∈ outcome.layout.ids ∧ id ∉ layout.ids) ∧
    (outcome.isPassThrough = true ↔ outcome.buddies = .empty) ∧
    (outcome.isPassThrough = true ↔ outcome.layout = layout) ∧
    (outcome.isPassThrough = true ↔ layout.isEmpty = true ∨ value = 1) :=
  ⟨activeContainers_of_generate success,
    fun two _ => buddiesOf_of_generate success two,
    fun _ => buddiesOf_of_foreign success, expansion_reports success,
    isPassThrough_iff success⟩

end Layout

namespace Sample

theorem recorded_ids_tell_provenance_dashed :
    ∃ outcome, dashed.generate 3 = .ok outcome ∧
      outcome.activeContainers = dashed.toList ∧
      (outcome.buddiesOf "7-5").map
          (fun found => (found.1.toNat, some found.2)) =
        [(0, outcome.layout.get? "7-5-0"), (1, outcome.layout.get? "7-5-1")] ∧
      outcome.buddiesOf "7-0" = [] ∧ outcome.isPassThrough = false := by
  obtain ⟨outcome, success⟩ := generate_dashed
  obtain ⟨active, indexed, foreign, _, _, _, passed⟩ :=
    Layout.recorded_ids_tell_provenance success
  refine ⟨outcome, success, active, ?_, ?_, ?_⟩
  · exact indexed (by decide) "7-5" (by decide +kernel)
  · exact foreign "7-0" (.inl (by decide +kernel))
  · have busy : ¬ (dashed.isEmpty = true ∨ (3 : Int) = 1) := by decide +kernel
    rw [← passed, Bool.not_eq_true] at busy
    exact busy

end Sample

end WarmStandby
