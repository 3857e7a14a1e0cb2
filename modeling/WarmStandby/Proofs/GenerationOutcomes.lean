import WarmStandby.Proofs.GenerationRun

/-!
# The outcomes of a generation

A request ends in one of five ways, told apart by the factor, the layout, its
validation and the ids in it: a refused factor, a layout passed through, a fault
of validation, a collision of container ids, or success.  There is no other: a
standby name never collides, and no two buddies collide with each other.
-/

set_option autoImplicit false

namespace WarmStandby.Layout

/-- A container of the layout and a replica index that the factor `value` asks
for, whose buddy has the id of a container of the layout. -/
structure Clash (layout : Layout) (value : Int) (buddy : BuddyId) : Prop where
  active : buddy.active ∈ layout.ids
  replica : (buddy.replica.toNat : Int) ≤ value - 2
  taken : buddy.active ++ "-" ++ Decimal.text buddy.replica.toNat ∈ layout.ids

/-- The clash of the least container id and then the least index. -/
structure FirstClash (layout : Layout) (value : Int) (buddy : BuddyId) : Prop
    extends Clash layout value buddy where
  least : ∀ other, layout.Clash value other →
    buddy.active < other.active ∨
      buddy.active = other.active ∧ buddy.replica ≤ other.replica

def clashReport (buddy : BuddyId) : Collision where
  kind := .container
  derived := buddy.active ++ "-" ++ Decimal.text buddy.replica.toNat
  derivedFrom := buddy.active
  replica := buddy.replica
  existing := buddy.active ++ "-" ++ Decimal.text buddy.replica.toNat
  existingOwner := buddy.active ++ "-" ++ Decimal.text buddy.replica.toNat

variable {layout : Layout} {factor : ReplicationFactor}

theorem model_id_of_mem_buddies {buddy : Buddy}
    (member : buddy ∈ layout.buddies factor) :
    buddy.model.id = buddy.id.text := by
  obtain ⟨container, _, replica, _, rfl⟩ := mem_buddies_iff.mp member
  rfl

theorem clash_iff {value : Int} (copies : (factor.copies.toNat : Int) = value)
    {id : BuddyId} :
    layout.Clash value id ↔
      ∃ buddy ∈ layout.buddies factor,
        buddy.id = id ∧ buddy.model.id ∈ layout.keys := by
  constructor
  · intro clash
    obtain ⟨active, replica, taken⟩ := clash
    obtain ⟨container, member, sameId⟩ := Roster.mem_keys_iff.mp active
    have inRange : id.replica.toNat < factor.buddiesPerContainer := by
      rw [ReplicationFactor.buddiesPerContainer]
      omega
    refine ⟨_, derive_mem_buddies member inRange, ?_, ?_⟩
    · rw [Buddy.derive_id, sameId]
    · rw [Buddy.derive_model_id, sameId]
      exact taken
  · intro someTaken
    obtain ⟨buddy, member, rfl, taken⟩ := someTaken
    rw [model_id_of_mem_buddies member] at taken
    obtain ⟨container, containerMember, replica, inRange, rfl⟩ :=
      mem_buddies_iff.mp member
    rw [ReplicationFactor.buddiesPerContainer] at inRange
    refine ⟨List.mem_map_of_mem containerMember, ?_, taken⟩
    change (replica.toNat : Int) ≤ value - 2
    omega

/-- The first buddy whose id is taken is the least clash, since the buddies are
in ascending order. -/
theorem firstClash_of_split {value : Int}
    (copies : (factor.copies.toNat : Int) = value)
    {before after : List Buddy} {buddy : Buddy}
    (split : layout.buddies factor = before ++ buddy :: after)
    (fresh : ∀ earlier ∈ before, earlier.model.id ∉ layout.keys)
    (taken : buddy.model.id ∈ layout.keys) :
    layout.FirstClash value buddy.id := by
  have member : buddy ∈ layout.buddies factor := by simp [split]
  refine ⟨(clash_iff copies).mpr ⟨buddy, member, rfl, taken⟩, ?_⟩
  intro other clash
  obtain ⟨otherBuddy, otherMember, rfl, otherTaken⟩ :=
    (clash_iff copies).mp clash
  have ascending := layout.buddies_ascending factor
  rw [split] at otherMember ascending
  rcases eq_or_related_of_first ascending fresh otherMember otherTaken with
    rfl | below
  · exact .inr ⟨rfl, UInt32.le_refl _⟩
  · exact (BuddyId.compare_eq_lt_iff.mp below).imp_right
      (And.imp_right UInt32.le_of_lt)

theorem validate_fault {fault : GenerationFault}
    (failure : layout.validate = .error fault) :
    (∀ modelFault, fault ≠ .model modelFault) ∧
      ∀ collision, fault ≠ .namingCollision collision := by
  rcases checkAssignments_eq_error failure with
    ⟨reason, rfl⟩ | ⟨container, task, rfl⟩ <;> simp

/-! ## Requests by factor and layout -/

section Requests

variable {value : Int}

theorem generate_refused (layout : Layout) (small : value < 1) :
    layout.generate value = .error (.configuration value) := by
  have refused : ReplicationFactor.ofInt? value = none :=
    ReplicationFactor.ofInt?_eq_none_iff.mpr (by omega)
  rw [generate, refused]

theorem generate_passed_through (layout : Layout)
    (word : Decimal.IsInt32 value) (one : 1 ≤ value)
    (idle : layout.isEmpty = true ∨ value = 1) :
    ∃ outcome, layout.generate value = .ok outcome ∧
      outcome.layout = layout := by
  obtain ⟨factor, accepted, _⟩ :=
    ReplicationFactor.ofInt?_of_in_range word one
  obtain ⟨received, reason, passed⟩ := generate_eq_passThrough accepted idle
  exact ⟨_, passed, rfl⟩

theorem generate_invalid (word : Decimal.IsInt32 value) (several : 1 < value)
    (nonempty : layout.isEmpty = false) {fault : GenerationFault}
    (failure : layout.validate = .error fault) :
    layout.generate value = .error fault := by
  obtain ⟨factor, accepted, _, standbys⟩ :=
    ReplicationFactor.ofInt?_of_several word several
  rw [generate, accepted]
  simp [expand, nonempty, standbys, failure]

theorem generate_valid (word : Decimal.IsInt32 value) (several : 1 < value)
    (nonempty : layout.isEmpty = false) (valid : layout.validate = .ok ()) :
    ((¬ ∃ buddy, layout.Clash value buddy) ∧
        ∃ outcome, layout.generate value = .ok outcome) ∨
      ∃ buddy, layout.FirstClash value buddy ∧
        layout.generate value =
          .error (.namingCollision (clashReport buddy)) := by
  obtain ⟨factor, accepted, copies, standbys⟩ :=
    ReplicationFactor.ofInt?_of_several word several
  rw [generate, accepted]
  rcases layout.ids_fresh_or_first_taken factor with
    fresh | ⟨before, buddy, after, split, fresh, taken⟩
  · obtain ⟨outcome, expansion, _⟩ :=
      expand_of_ids_fresh nonempty standbys valid fresh
    refine .inl ⟨?_, outcome, expansion⟩
    intro someClash
    obtain ⟨id, clash⟩ := someClash
    obtain ⟨buddy, member, _, taken⟩ := (clash_iff copies).mp clash
    exact fresh buddy member taken
  · have first := firstClash_of_split copies split fresh taken
    have member : buddy ∈ layout.buddies factor := by simp [split]
    refine .inr ⟨buddy.id, first, ?_⟩
    have expansion :=
      expand_of_id_taken nonempty standbys valid split fresh taken
    rw [model_id_of_mem_buddies member] at expansion
    exact expansion

theorem fault_of_generate (word : Decimal.IsInt32 value)
    {fault : GenerationFault} (failure : layout.generate value = .error fault) :
    fault = .configuration value ∨ layout.validate = .error fault ∨
      ∃ buddy, layout.Clash value buddy ∧
        fault = .namingCollision (clashReport buddy) := by
  by_cases small : value < 1
  · rw [generate_refused layout small] at failure
    exact .inl (Except.error.inj failure).symm
  by_cases idle : layout.isEmpty = true ∨ value = 1
  · obtain ⟨outcome, success, _⟩ :=
      generate_passed_through layout word (by omega) idle
    rw [success] at failure
    contradiction
  obtain ⟨nonempty, several⟩ := not_or.mp idle
  have nonempty : layout.isEmpty = false := by simpa using nonempty
  cases valid : layout.validate with
  | error invalid =>
      rw [generate_invalid word (by omega) nonempty valid] at failure
      exact .inr (.inl (by rw [Except.error.inj failure]))
  | ok =>
      rcases generate_valid word (by omega) nonempty valid with
        ⟨_, outcome, success⟩ | ⟨buddy, first, clash⟩
      · rw [success] at failure
        contradiction
      · rw [clash] at failure
        exact .inr (.inr
          ⟨buddy, first.toClash, (Except.error.inj failure).symm⟩)

end Requests

/-- The outcomes of a request.  They are listed in the order in which the
conditions are tested. -/
theorem generate_outcomes (layout : Layout) (value : Int)
    (word : Decimal.IsInt32 value) :
    (value < 1 → layout.generate value = .error (.configuration value)) ∧
    (1 ≤ value → layout.isEmpty = true ∨ value = 1 →
      ∃ outcome, layout.generate value = .ok outcome ∧
        outcome.layout = layout) ∧
    (1 < value → layout.isEmpty = false →
      ∀ fault, layout.validate = .error fault →
        layout.generate value = .error fault) ∧
    (1 < value → layout.isEmpty = false → layout.validate = .ok () →
      (∃ buddy, layout.Clash value buddy) →
        ∃ buddy, layout.FirstClash value buddy ∧
          layout.generate value =
            .error (.namingCollision (clashReport buddy))) ∧
    (1 < value → layout.isEmpty = false → layout.validate = .ok () →
      (¬ ∃ buddy, layout.Clash value buddy) →
        ∃ outcome, layout.generate value = .ok outcome) ∧
    (∀ fault, layout.generate value = .error fault →
      (∀ modelFault, fault ≠ .model modelFault) ∧
        ∀ collision, fault = .namingCollision collision →
          collision.kind = .container ∧
            collision.existing ∈ layout.ids) := by
  refine ⟨generate_refused layout, generate_passed_through layout word,
    fun several nonempty fault => generate_invalid word several nonempty,
    ?_, ?_, ?_⟩
  · intro several nonempty valid someClash
    rcases generate_valid word several nonempty valid with
      ⟨noClash, _⟩ | reported
    · exact absurd someClash noClash
    · exact reported
  · intro several nonempty valid noClash
    rcases generate_valid word several nonempty valid with
      ⟨_, success⟩ | ⟨buddy, first, _⟩
    · exact success
    · exact absurd ⟨buddy, first.toClash⟩ noClash
  · intro fault failure
    rcases fault_of_generate word failure with
      rfl | invalid | ⟨buddy, clash, rfl⟩
    · simp
    · obtain ⟨notModel, notCollision⟩ := validate_fault invalid
      exact ⟨notModel, fun collision same =>
        absurd same (notCollision collision)⟩
    · refine ⟨by simp, ?_⟩
      intro collision same
      rw [← GenerationFault.namingCollision.inj same]
      exact ⟨rfl, clash.taken⟩

end WarmStandby.Layout

namespace WarmStandby.Sample

def numbered : Layout := .ofList [.vacant "a", .vacant "a-10", .vacant "a-2"]

theorem generate_outcomes_numbered :
    Decimal.IsInt32 12 ∧ ∃ buddy, numbered.FirstClash 12 buddy ∧
      numbered.generate 12 =
        .error (.namingCollision (Layout.clashReport buddy)) := by
  have word : Decimal.IsInt32 12 := by decide
  have valid : numbered.validate = .ok () := by decide +kernel
  have clash : numbered.Clash 12 ⟨"a", 10⟩ :=
    ⟨by decide +kernel, by decide, by decide +kernel⟩
  obtain ⟨_, _, _, ofClash, _, _⟩ := Layout.generate_outcomes numbered 12 word
  exact ⟨word,
    ofClash (by decide) (by decide +kernel) valid ⟨⟨"a", 10⟩, clash⟩⟩

example : numbered.generate 12 =
    .error (.namingCollision (Layout.clashReport ⟨"a", 2⟩)) := by
  decide +kernel

end WarmStandby.Sample
