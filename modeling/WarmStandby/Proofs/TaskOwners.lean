import WarmStandby.Proofs.MergeRun

/-!
# Owners of task names

A merge names one owner for every task name that it holds.  Several containers
of the start layout may hold one name, and then the last of them in id order
owns it, because a later entry takes the place of an earlier one.  A buddy is
taken only if it shares no name with what is there, so it is the one holder of
its own names and changes the owner of no other.
-/

set_option autoImplicit false

namespace WarmStandby

/-! ## Last holders -/

/-- The last, in id order, of the containers that hold the task name. -/
structure LastHolder (containers : List Container) (name : TaskName)
    (owner : ContainerId) : Prop where
  holds : ∃ container ∈ containers,
    container.id = owner ∧ name ∈ container.tasks.keys
  last : ∀ container ∈ containers, name ∈ container.tasks.keys →
    container.id ≤ owner

theorem LastHolder.congr {left right : List Container} {name : TaskName}
    {owner : ContainerId} (lastHolder : LastHolder left name owner)
    (sameHolders : ∀ container : Container, name ∈ container.tasks.keys →
      (container ∈ left ↔ container ∈ right)) :
    LastHolder right name owner := by
  obtain ⟨⟨container, member, sameId, held⟩, last⟩ := lastHolder
  refine ⟨⟨container, (sameHolders container held).mp member, sameId, held⟩, ?_⟩
  intro other otherMember otherHolds
  exact last other ((sameHolders other otherHolds).mpr otherMember) otherHolds

theorem lastHolder_congr {left right : List Container} {name : TaskName}
    {owner : ContainerId}
    (sameHolders : ∀ container : Container, name ∈ container.tasks.keys →
      (container ∈ left ↔ container ∈ right)) :
    LastHolder left name owner ↔ LastHolder right name owner :=
  ⟨fun lastHolder => lastHolder.congr sameHolders,
    fun lastHolder => lastHolder.congr
      (fun container held => (sameHolders container held).symm)⟩

theorem lastHolder_concat_of_not_mem {containers : List Container}
    {added : Container} {name : TaskName} {owner : ContainerId}
    (free : name ∉ added.tasks.keys) :
    LastHolder (containers ++ [added]) name owner ↔
      LastHolder containers name owner := by
  refine lastHolder_congr ?_
  intro container held
  have other : container ≠ added := by
    intro same
    exact free (same ▸ held)
  simp [other]

/-- A holder is the last one if no holder before it has a greater id. -/
theorem lastHolder_concat_of_mem {containers : List Container}
    {added : Container} {name : TaskName} {owner : ContainerId}
    (held : name ∈ added.tasks.keys)
    (below : ∀ container ∈ containers, name ∈ container.tasks.keys →
      container.id ≤ added.id) :
    LastHolder (containers ++ [added]) name owner ↔ added.id = owner := by
  have addedMember : added ∈ containers ++ [added] :=
    List.mem_append_right _ (List.mem_singleton_self added)
  have addedLast : ∀ container ∈ containers ++ [added],
      name ∈ container.tasks.keys → container.id ≤ added.id := by
    intro container member containerHolds
    rcases List.mem_append.mp member with old | new
    · exact below container old containerHolds
    · obtain rfl := List.mem_singleton.mp new
      exact String.le_refl _
  constructor
  · intro lastHolder
    obtain ⟨⟨container, member, rfl, containerHolds⟩, last⟩ := lastHolder
    exact Std.le_antisymm (last added addedMember held)
      (addedLast container member containerHolds)
  · intro same
    subst same
    exact ⟨⟨added, addedMember, rfl, held⟩, addedLast⟩

/-! ## The table of owners -/

namespace Owners

theorem ownerOf?_record {owners : Owners} {names : List TaskName}
    {container : ContainerId} {wanted : TaskName} :
    (owners.record names container).ownerOf? wanted =
      if wanted ∈ names then some container else owners.ownerOf? wanted := by
  rw [record]
  induction names generalizing owners with
  | nil => simp
  | cons name rest inductionHypothesis =>
      rw [List.foldl_cons, inductionHypothesis, ownerOf?, Roster.get?_insert]
      by_cases inRest : wanted ∈ rest
      · simp [inRest]
      · by_cases isName : name = wanted
        · simp [isName]
        · simp [inRest, isName, Ne.symm isName, ownerOf?]

/-- The table lists the last holder of every task name in the containers, and
nothing else. -/
def Tracks (owners : Owners) (containers : List Container) : Prop :=
  ∀ name owner, owners.ownerOf? name = some owner ↔
    LastHolder containers name owner

theorem empty_tracks : Tracks .empty [] := by
  intro name owner
  constructor
  · intro found
    contradiction
  · intro lastHolder
    obtain ⟨⟨container, member, _⟩, _⟩ := lastHolder
    contradiction

theorem Tracks.congr {owners : Owners} {left right : List Container}
    (tracks : owners.Tracks left)
    (same : ∀ container, container ∈ left ↔ container ∈ right) :
    owners.Tracks right := fun name owner =>
  (tracks name owner).trans (lastHolder_congr (fun container _ => same container))

theorem Tracks.record {owners : Owners} {containers : List Container}
    (tracks : owners.Tracks containers) {added : Container}
    (below : ∀ name ∈ added.tasks.keys, ∀ container ∈ containers,
      name ∈ container.tasks.keys → container.id ≤ added.id) :
    (owners.record added.tasks.keys added.id).Tracks
      (containers ++ [added]) := by
  intro name owner
  rw [ownerOf?_record]
  by_cases held : name ∈ added.tasks.keys
  · rw [if_pos held, lastHolder_concat_of_mem held (below name held),
      Option.some.injEq]
  · rw [if_neg held, lastHolder_concat_of_not_mem held]
    exact tracks name owner

theorem Tracks.foldl_record {owners : Owners} {before after : List Container}
    (tracks : owners.Tracks before)
    (ascending : (before ++ after).Pairwise
      (fun left right => compare left.id right.id = .lt)) :
    (after.foldl (fun owners container =>
        owners.record container.tasks.keys container.id) owners).Tracks
      (before ++ after) := by
  induction after generalizing owners before with
  | nil => simpa using tracks
  | cons container rest inductionHypothesis =>
      have regrouped : before ++ container :: rest =
          (before ++ [container]) ++ rest := by simp
      have below : ∀ name ∈ container.tasks.keys, ∀ other ∈ before,
          name ∈ other.tasks.keys → other.id ≤ container.id := by
        intro name _ other member _
        have before := (List.pairwise_append.mp ascending).2.2 other member
          container List.mem_cons_self
        exact Std.le_of_lt (compareOfLessAndEq_eq_lt.mp before)
      rw [regrouped] at ascending ⊢
      exact inductionHypothesis (tracks.record below) ascending

end Owners

theorem Merge.start_tracks (active : Layout) :
    (start active).owners.Tracks active.toList :=
  Owners.empty_tracks.foldl_record active.ascending

end WarmStandby
