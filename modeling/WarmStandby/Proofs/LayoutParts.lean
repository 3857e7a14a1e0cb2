import Mathlib.Data.List.Flatten
import Mathlib.Data.List.Perm.Subperm
import WarmStandby.Proofs.ExpandedLayout
import WarmStandby.Proofs.GenerationOutcomes

/-!
# Parts of a layout

The buddies of a container do not depend on the containers beside it.  So a
request that succeeds for a layout succeeds for a part of it and a smaller
factor, and returns just what the larger run made of that part.
-/

set_option autoImplicit false

namespace WarmStandby

def Layout.PartOf (part layout : Layout) : Prop :=
  ∀ container ∈ part.toList, container ∈ layout.toList

/-- The ids that a layout and a factor ask for: those of its containers, and
those of their buddies. -/
def Layout.AsksFor (layout : Layout) (value : Int) (id : ContainerId) : Prop :=
  id ∈ layout.ids ∨
    ∃ active ∈ layout.ids, ∃ index : Nat, (index : Int) ≤ value - 2 ∧
      id = active ++ "-" ++ Decimal.text index

theorem ReplicationFactor.eq_of_toNat_copies {left right : ReplicationFactor}
    (same : left.copies.toNat = right.copies.toNat) : left = right := by
  cases left
  cases right
  cases UInt32.toNat_inj.mp same
  rfl

/-! ## All successful requests -/

/-- What a successful request returns, be it that the layout was expanded or
passed through: the containers with their buddies. -/
structure Outcome.Extends (outcome : Outcome) (layout : Layout)
    (factor : ReplicationFactor) : Prop where
  containers : outcome.layout.toList.Perm
    (layout.toList ++ (layout.buddies factor).map Buddy.model)
  buddies : outcome.buddies.toList = (layout.buddies factor).map Buddy.id

namespace Layout

variable {layout : Layout} {value : Int} {factor : ReplicationFactor}

theorem buddies_eq_nil_of_idle (copies : (factor.copies.toNat : Int) = value)
    (idle : layout.isEmpty = true ∨ value = 1) : layout.buddies factor = [] := by
  rcases idle with empty | one
  · have noContainers : layout.toList = [] := List.isEmpty_iff.mp empty
    rw [buddies, noContainers, List.flatMap_nil]
  · have noBuddies : factor.buddiesPerContainer = 0 := by
      rw [ReplicationFactor.buddiesPerContainer]
      omega
    simp [buddies, ReplicationFactor.indices, noBuddies]

theorem pure_and_unclashed_of_empty (empty : layout.isEmpty = true) :
    layout.PurelyActive ∧ ∀ buddy, ¬ layout.Clash value buddy := by
  have noContainers : layout.toList = [] := List.isEmpty_iff.mp empty
  refine ⟨by constructor <;> simp [taskNames, assignments, noContainers], ?_⟩
  intro buddy clash
  obtain ⟨container, member, _⟩ := Roster.mem_keys_iff.mp clash.active
  rw [noContainers] at member
  contradiction

theorem extends_of_generate_eq_ok {outcome : Outcome}
    (success : layout.generate value = .ok outcome) :
    ∃ factor : ReplicationFactor, (factor.copies.toNat : Int) = value ∧
      outcome.Extends layout factor := by
  rcases cases_of_generate_eq_ok success with
    ⟨idle, received, reason, rfl⟩ | ⟨_, _, factor, copies, expands⟩
  · cases accepted : ReplicationFactor.ofInt? value with
    | none =>
        rw [generate, accepted] at success
        contradiction
    | some factor =>
        have copies := ReplicationFactor.copies_of_ofInt?_eq_some accepted
        have noBuddies := buddies_eq_nil_of_idle copies idle
        refine ⟨factor, copies, ?_⟩
        constructor
        · simp [noBuddies, Generation.passThrough]
        · rw [noBuddies]
          rfl
  · exact ⟨factor, copies, expands.containers, expands.buddies⟩

theorem in_range_of_generate_eq_ok {outcome : Outcome}
    (success : layout.generate value = .ok outcome) :
    1 ≤ value ∧ value ≤ 4294967295 := by
  obtain ⟨factor, copies, _⟩ := extends_of_generate_eq_ok success
  have one := factor.atLeastOne
  have wordRange : factor.copies.toNat < 4294967296 :=
    factor.copies.toNat_lt_size
  omega

theorem generate_of_unclashed (inRange : 1 ≤ value ∧ value ≤ 4294967295)
    (pure : layout.PurelyActive)
    (unclashed : ∀ buddy, ¬ layout.Clash value buddy) :
    ∃ outcome, layout.generate value = .ok outcome := by
  cases accepted : ReplicationFactor.ofInt? value with
  | none =>
      exact absurd inRange (ReplicationFactor.ofInt?_eq_none_iff.mp accepted)
  | some factor =>
      have copies := ReplicationFactor.copies_of_ofInt?_eq_some accepted
      by_cases idle : layout.isEmpty = true ∨ value = 1
      · obtain ⟨received, reason, passed⟩ :=
          generate_eq_passThrough accepted idle
        exact ⟨_, passed⟩
      · obtain ⟨notEmpty, several⟩ := not_or.mp idle
        have standbys : factor.hasStandbys = true :=
          ReplicationFactor.hasStandbys_iff.mpr (by omega)
        have fresh : ∀ buddy ∈ layout.buddies factor,
            buddy.model.id ∉ layout.keys := fun buddy member taken =>
          unclashed buddy.id
            ((clash_iff copies).mpr ⟨buddy, member, rfl, taken⟩)
        obtain ⟨outcome, expansion, _⟩ := expand_of_ids_fresh
          (Bool.eq_false_iff.mpr notEmpty) standbys
          (validate_eq_ok_iff.mpr pure) fresh
        refine ⟨outcome, ?_⟩
        rw [generate, accepted]
        exact expansion

theorem exists_generate_eq_ok_iff :
    (∃ outcome, layout.generate value = .ok outcome) ↔
      (1 ≤ value ∧ value ≤ 4294967295) ∧
        (value = 1 ∨
          layout.PurelyActive ∧ ∀ buddy, ¬ layout.Clash value buddy) := by
  constructor
  · intro succeeds
    obtain ⟨outcome, success⟩ := succeeds
    refine ⟨in_range_of_generate_eq_ok success, ?_⟩
    rcases cases_of_generate_eq_ok success with
      ⟨empty | one, _⟩ | ⟨_, _, factor, copies, expands⟩
    · exact .inr (pure_and_unclashed_of_empty empty)
    · exact .inl one
    · refine .inr ⟨expands.pure, ?_⟩
      intro id clash
      obtain ⟨buddy, member, _, taken⟩ := (clash_iff copies).mp clash
      exact expands.fresh buddy member taken
  · intro conditions
    obtain ⟨inRange, one | ⟨pure, unclashed⟩⟩ := conditions
    · have word : Decimal.IsInt32 value := by rw [one]; decide
      obtain ⟨outcome, success, _⟩ :=
        generate_passed_through layout word inRange.1 (.inr one)
      exact ⟨outcome, success⟩
    · exact generate_of_unclashed inRange pure unclashed

end Layout

/-! ## Success of a part -/

namespace Layout

variable {part layout : Layout} {value smaller : Int}

theorem PartOf.ids_subset (partOf : part.PartOf layout) :
    part.ids ⊆ layout.ids :=
  List.map_subset Container.id partOf

theorem PartOf.assignments_subset (partOf : part.PartOf layout) :
    part.assignments ⊆ layout.assignments := by
  intro assignment assigned
  obtain ⟨container, member, sameId, held⟩ :=
    mem_assignments_iff.mp assigned
  exact mem_assignments_iff.mpr ⟨container, partOf container member, sameId,
    held⟩

theorem PartOf.taskNames_subperm (partOf : part.PartOf layout) :
    part.taskNames.Subperm layout.taskNames := by
  obtain ⟨chosen, perm, sublist⟩ :=
    List.subperm_of_subset part.nodup_toList partOf
  exact ⟨_, (perm.flatMap_right _).map _, (sublist.flatMap _).map _⟩

theorem PurelyActive.of_part (pure : layout.PurelyActive)
    (partOf : part.PartOf layout) : part.PurelyActive where
  active assignment assigned :=
    pure.active assignment (partOf.assignments_subset assigned)
  unreserved assignment assigned :=
    pure.unreserved assignment (partOf.assignments_subset assigned)
  distinct := by
    obtain ⟨names, perm, sublist⟩ := partOf.taskNames_subperm
    exact perm.nodup_iff.mp (pure.distinct.sublist sublist)

theorem Clash.of_part {buddy : BuddyId} (clash : part.Clash smaller buddy)
    (partOf : part.PartOf layout) (atMost : smaller ≤ value) :
    layout.Clash value buddy where
  active := partOf.ids_subset clash.active
  replica := clash.replica.trans (by omega)
  taken := partOf.ids_subset clash.taken

theorem PartOf.buddies_subset (partOf : part.PartOf layout)
    {factor smallerFactor : ReplicationFactor}
    (atMost : smallerFactor.copies.toNat ≤ factor.copies.toNat) :
    part.buddies smallerFactor ⊆ layout.buddies factor := by
  intro buddy derived
  obtain ⟨source, member, replica, inRange, rfl⟩ := mem_buddies_iff.mp derived
  rw [ReplicationFactor.buddiesPerContainer] at inRange
  refine derive_mem_buddies (partOf source member) ?_
  rw [ReplicationFactor.buddiesPerContainer]
  omega

theorem exists_generate_part_eq_ok (partOf : part.PartOf layout)
    (one : 1 ≤ smaller) (atMost : smaller ≤ value) {outcome : Outcome}
    (success : layout.generate value = .ok outcome) :
    ∃ partOutcome, part.generate smaller = .ok partOutcome := by
  obtain ⟨inRange, expandable⟩ := exists_generate_eq_ok_iff.mp ⟨_, success⟩
  refine exists_generate_eq_ok_iff.mpr ⟨⟨one, by omega⟩, ?_⟩
  rcases expandable with single | ⟨pure, unclashed⟩
  · exact .inl (by omega)
  · exact .inr ⟨pure.of_part partOf,
      fun buddy clash => unclashed buddy (clash.of_part partOf atMost)⟩

end Layout

/-! ## What a part returns -/

/-- A roster within another one is its restriction to the keys it has. -/
theorem Roster.mem_iff_of_subset {Key Record : Type} [Ord Key]
    [Std.LawfulEqOrd Key] {key : Record → Key} {part whole : Roster key}
    (subset : part.toList ⊆ whole.toList) {record : Record} :
    record ∈ part.toList ↔ record ∈ whole.toList ∧ key record ∈ part.keys := by
  constructor
  · intro member
    exact ⟨subset member, List.mem_map_of_mem member⟩
  · intro restricted
    obtain ⟨member, known⟩ := restricted
    obtain ⟨other, otherMember, sameKey⟩ := mem_keys_iff.mp known
    rwa [← whole.eq_of_key_eq (subset otherMember) member sameKey]

namespace Outcome.Extends

variable {outcome : Outcome} {layout : Layout} {factor : ReplicationFactor}

theorem mem_ids_iff (extension : outcome.Extends layout factor) {value : Int}
    (copies : (factor.copies.toNat : Int) = value) {id : ContainerId} :
    id ∈ outcome.layout.ids ↔ layout.AsksFor value id := by
  have memIff := (extension.containers.map Container.id).mem_iff (a := id)
  rw [List.map_append, List.mem_append, List.map_map] at memIff
  refine memIff.trans (or_congr_right ?_)
  constructor
  · intro derived
    obtain ⟨buddy, member, rfl⟩ := List.mem_map.mp derived
    obtain ⟨source, sourceMember, replica, inRange, rfl⟩ :=
      Layout.mem_buddies_iff.mp member
    rw [ReplicationFactor.buddiesPerContainer] at inRange
    exact ⟨source.id, List.mem_map_of_mem sourceMember, replica.toNat,
      by omega, rfl⟩
  · intro asked
    obtain ⟨active, known, index, inRange, rfl⟩ := asked
    obtain ⟨source, member, rfl⟩ := Roster.mem_keys_iff.mp known
    have indexRange : index < factor.buddiesPerContainer := by
      rw [ReplicationFactor.buddiesPerContainer]
      omega
    have indexExact := ReplicationFactor.toNat_ofNat_of_lt indexRange
    have replicaRange :
        (UInt32.ofNat index).toNat < factor.buddiesPerContainer := by
      rwa [indexExact]
    refine List.mem_map.mpr
      ⟨_, Layout.derive_mem_buddies member replicaRange, ?_⟩
    rw [Function.comp_apply, Buddy.derive_model_id, BuddyId.text,
      ReplicaText.render, indexExact]
    rfl

theorem subset_of_part {partOutcome : Outcome} {part : Layout}
    {smallerFactor : ReplicationFactor}
    (partExtension : partOutcome.Extends part smallerFactor)
    (extension : outcome.Extends layout factor)
    (partOf : part.PartOf layout)
    (atMost : smallerFactor.copies.toNat ≤ factor.copies.toNat) :
    partOutcome.layout.toList ⊆ outcome.layout.toList ∧
      partOutcome.buddies.toList ⊆ outcome.buddies.toList := by
  have buddies := partOf.buddies_subset atMost
  refine ⟨?_, ?_⟩
  · intro container member
    refine extension.containers.mem_iff.mpr ?_
    rcases List.mem_append.mp (partExtension.containers.mem_iff.mp member) with
      active | derived
    · exact List.mem_append_left _ (partOf container active)
    · exact List.mem_append_right _ (List.map_subset _ buddies derived)
  · rw [partExtension.buddies, extension.buddies]
    exact List.map_subset _ buddies

end Outcome.Extends

namespace Layout

variable {layout : Layout} {value : Int} {outcome : Outcome}

theorem generate_part_restricts (success : layout.generate value = .ok outcome)
    {part : Layout} {smaller : Int} (partOf : part.PartOf layout)
    (one : 1 ≤ smaller) (atMost : smaller ≤ value) :
    ∃ partOutcome, part.generate smaller = .ok partOutcome ∧
      (∀ id, id ∈ partOutcome.layout.ids ↔ part.AsksFor smaller id) ∧
      (∀ container, container ∈ partOutcome.layout.toList ↔
        container ∈ outcome.layout.toList ∧
          part.AsksFor smaller container.id) ∧
      ∀ buddy ∈ partOutcome.buddies.toList,
        buddy ∈ outcome.buddies.toList := by
  obtain ⟨partOutcome, partSuccess⟩ :=
    exists_generate_part_eq_ok partOf one atMost success
  obtain ⟨factor, copies, extension⟩ := extends_of_generate_eq_ok success
  obtain ⟨smallerFactor, smallerCopies, partExtension⟩ :=
    extends_of_generate_eq_ok partSuccess
  obtain ⟨containers, buddies⟩ :=
    partExtension.subset_of_part extension partOf (by omega)
  have asked : ∀ id,
      id ∈ partOutcome.layout.ids ↔ part.AsksFor smaller id := fun _ =>
    partExtension.mem_ids_iff smallerCopies
  refine ⟨partOutcome, partSuccess, asked, ?_, buddies⟩
  intro container
  rw [← asked]
  exact Roster.mem_iff_of_subset containers

/-! ## Layouts in two parts -/

theorem buddies_perm_of_split {left right : Layout}
    (split : layout.toList.Perm (left.toList ++ right.toList))
    (factor : ReplicationFactor) :
    (layout.buddies factor).Perm
      (left.buddies factor ++ right.buddies factor) := by
  have derived := split.flatMap_right
    (fun container => factor.indices.map (Buddy.derive container))
  rwa [List.flatMap_append] at derived

theorem generate_split_apart (success : layout.generate value = .ok outcome)
    {left right : Layout}
    (split : layout.toList.Perm (left.toList ++ right.toList)) :
    ∃ leftOutcome rightOutcome,
      left.generate value = .ok leftOutcome ∧
      right.generate value = .ok rightOutcome ∧
      outcome.layout.toList.Perm
        (leftOutcome.layout.toList ++ rightOutcome.layout.toList) ∧
      ∀ id ∈ leftOutcome.layout.ids, id ∉ rightOutcome.layout.ids := by
  have leftPart : left.PartOf layout := fun container member =>
    split.mem_iff.mpr (List.mem_append_left _ member)
  have rightPart : right.PartOf layout := fun container member =>
    split.mem_iff.mpr (List.mem_append_right _ member)
  obtain ⟨one, _⟩ := in_range_of_generate_eq_ok success
  obtain ⟨leftOutcome, leftSuccess⟩ :=
    exists_generate_part_eq_ok leftPart one le_rfl success
  obtain ⟨rightOutcome, rightSuccess⟩ :=
    exists_generate_part_eq_ok rightPart one le_rfl success
  obtain ⟨factor, copies, extension⟩ := extends_of_generate_eq_ok success
  obtain ⟨leftFactor, leftCopies, leftExtension⟩ :=
    extends_of_generate_eq_ok leftSuccess
  obtain ⟨rightFactor, rightCopies, rightExtension⟩ :=
    extends_of_generate_eq_ok rightSuccess
  obtain rfl : factor = leftFactor :=
    ReplicationFactor.eq_of_toNat_copies (by omega)
  obtain rfl : factor = rightFactor :=
    ReplicationFactor.eq_of_toNat_copies (by omega)
  have union : outcome.layout.toList.Perm
      (leftOutcome.layout.toList ++ rightOutcome.layout.toList) :=
    calc
      outcome.layout.toList.Perm
          (layout.toList ++ (layout.buddies factor).map Buddy.model) :=
        extension.containers
      List.Perm _ ((left.toList ++ right.toList) ++
          (left.buddies factor ++ right.buddies factor).map Buddy.model) :=
        split.append ((buddies_perm_of_split split factor).map _)
      List.Perm _ ((left.toList ++ (left.buddies factor).map Buddy.model) ++
          (right.toList ++ (right.buddies factor).map Buddy.model)) := by
        rw [List.map_append, List.append_assoc, List.append_assoc]
        exact (List.perm_append_comm_assoc _ _ _).append_left _
      List.Perm _ (leftOutcome.layout.toList ++ rightOutcome.layout.toList) :=
        leftExtension.containers.symm.append rightExtension.containers.symm
  refine ⟨leftOutcome, rightOutcome, leftSuccess, rightSuccess, union, ?_⟩
  have distinct := outcome.layout.nodup_keys
  rw [Roster.keys, (union.map Container.id).nodup_iff, List.map_append]
    at distinct
  exact fun id leftKnown rightKnown =>
    List.disjoint_of_nodup_append distinct leftKnown rightKnown

/-- A request that succeeds also succeeds for every part and smaller factor, and
returns the restriction of the larger run to what is then asked for.  The runs
over the two parts of a split layout add up to the whole run. -/
theorem generate_parts (success : layout.generate value = .ok outcome) :
    (∀ (part : Layout) (smaller : Int), part.PartOf layout →
      1 ≤ smaller → smaller ≤ value →
      ∃ partOutcome, part.generate smaller = .ok partOutcome ∧
        (∀ id, id ∈ partOutcome.layout.ids ↔ part.AsksFor smaller id) ∧
        (∀ container, container ∈ partOutcome.layout.toList ↔
          container ∈ outcome.layout.toList ∧
            part.AsksFor smaller container.id) ∧
        ∀ buddy ∈ partOutcome.buddies.toList,
          buddy ∈ outcome.buddies.toList) ∧
    (∀ left right : Layout,
      layout.toList.Perm (left.toList ++ right.toList) →
      ∃ leftOutcome rightOutcome,
        left.generate value = .ok leftOutcome ∧
        right.generate value = .ok rightOutcome ∧
        outcome.layout.toList.Perm
          (leftOutcome.layout.toList ++ rightOutcome.layout.toList) ∧
        ∀ id ∈ leftOutcome.layout.ids, id ∉ rightOutcome.layout.ids) :=
  ⟨fun _ _ => generate_part_restricts success,
    fun _ _ => generate_split_apart success⟩

end Layout

namespace Sample

def dashedVacant : Layout := dashed.filter Container.isEmpty

def dashedOccupied : Layout :=
  dashed.filter (fun container => !container.isEmpty)

theorem generate_parts_dashed :
    ∃ outcome, dashed.generate 3 = .ok outcome ∧
      (∃ occupied, dashedOccupied.generate 2 = .ok occupied ∧
        occupied.layout.toList ⊆ outcome.layout.toList) ∧
      ∃ vacant occupied,
        dashedVacant.generate 3 = .ok vacant ∧
        dashedOccupied.generate 3 = .ok occupied ∧
        outcome.layout.toList.Perm
          (vacant.layout.toList ++ occupied.layout.toList) := by
  obtain ⟨outcome, success⟩ := generate_dashed
  obtain ⟨ofPart, ofSplit⟩ := Layout.generate_parts success
  have partOf : dashedOccupied.PartOf dashed := fun container member =>
    (List.mem_filter.mp member).1
  have split : dashed.toList.Perm
      (dashedVacant.toList ++ dashedOccupied.toList) :=
    (List.filter_append_perm Container.isEmpty dashed.toList).symm
  refine ⟨outcome, success, ?_, ?_⟩
  · obtain ⟨occupied, run, _, restricted, _⟩ :=
      ofPart dashedOccupied 2 partOf (by decide) (by decide)
    exact ⟨occupied, run, fun container member =>
      ((restricted container).mp member).1⟩
  · obtain ⟨vacant, occupied, vacantRun, occupiedRun, union, _⟩ :=
      ofSplit dashedVacant dashedOccupied split
    exact ⟨vacant, occupied, vacantRun, occupiedRun, union⟩

end Sample

end WarmStandby
