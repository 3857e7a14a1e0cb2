import WarmStandby.Proofs.GenerationOutcomes

/-!
# Expansion and batch merging

An expansion derives the buddies of a layout one by one, offers each to its
merge at once, and keeps a record of them.  A merge is given all buddies as a
list and keeps no record.  Both come to the same layout, or to the same fault.
-/

set_option autoImplicit false

namespace WarmStandby.Layout

theorem map_layout_expand {layout : Layout} {factor : ReplicationFactor}
    (nonempty : layout.isEmpty = false) (standbys : factor.hasStandbys = true)
    (valid : layout.validate = .ok ()) :
    (layout.expand factor).map Outcome.layout =
      layout.merge (layout.buddies factor) := by
  rw [expand_eq_of_validate nonempty standbys valid, merge]
  cases (Merge.start layout).pushUntilRefused (layout.buddies factor) with
  | error fault => rfl
  | ok merge => rfl

/-- An expansion succeeds if the merge of the buddies does, container by
container and replica by replica, and then both return one layout.  Otherwise
both report the same fault. -/
theorem expand_agrees_with_merge (layout : Layout) (factor : ReplicationFactor)
    (nonempty : layout.isEmpty = false) (valid : layout.validate = .ok ())
    (two : 2 ≤ factor.copies.toNat) :
    let offered := layout.toList.flatMap (fun container =>
      (List.range (factor.copies.toNat - 1)).map (fun index =>
        Buddy.derive container (UInt32.ofNat index)))
    ((∃ outcome, layout.expand factor = .ok outcome) ↔
      ∃ merged, layout.merge offered = .ok merged) ∧
    (∀ outcome merged, layout.expand factor = .ok outcome →
      layout.merge offered = .ok merged → outcome.layout = merged) ∧
    (∀ fault, layout.expand factor = .error fault ↔
      layout.merge offered = .error fault) := by
  intro offered
  have offeredExact : offered = layout.buddies factor := by
    simp only [offered, buddies, ReplicationFactor.indices, List.map_map,
      ReplicationFactor.buddiesPerContainer, Function.comp_def]
  have same := map_layout_expand nonempty
    (ReplicationFactor.hasStandbys_iff.mpr two) valid
  rw [offeredExact, ← same]
  cases layout.expand factor with
  | error fault => simp [Except.map]
  | ok outcome => simp [Except.map]

end WarmStandby.Layout

namespace WarmStandby.Sample

theorem expand_agrees_with_merge_numbered :
    numbered.isEmpty = false ∧ numbered.validate = .ok () ∧
      numbered.merge (numbered.toList.flatMap (fun container =>
        (List.range 11).map (fun index =>
          Buddy.derive container (UInt32.ofNat index)))) =
        .error (.namingCollision (Layout.clashReport ⟨"a", 2⟩)) := by
  have nonempty : numbered.isEmpty = false := by decide +kernel
  have valid : numbered.validate = .ok () := by decide +kernel
  obtain ⟨_, _, sameFault⟩ := Layout.expand_agrees_with_merge numbered
    ⟨12, by decide⟩ nonempty valid (by decide)
  have failure : numbered.expand ⟨12, by decide⟩ =
      .error (.namingCollision (Layout.clashReport ⟨"a", 2⟩)) := by
    decide +kernel
  exact ⟨nonempty, valid, (sameFault _).mp failure⟩

end WarmStandby.Sample
