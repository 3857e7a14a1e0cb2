import WarmStandby.Merge
import WarmStandby.Proofs.RosterLaws
import WarmStandby.Proofs.PurelyActive

/-!
# What a merge has taken up

Along a run, a merge holds the containers it started from and those of the
buddies it took, and its owner table lists just the task names in them.  A buddy
is taken when its container is apart from all of these: another id and no
common task name.
-/

set_option autoImplicit false

namespace WarmStandby

def Container.Apart (left right : Container) : Prop :=
  left.id ≠ right.id ∧ ∀ name ∈ left.tasks.keys, name ∉ right.tasks.keys

theorem Container.Apart.symm {left right : Container}
    (apart : left.Apart right) : right.Apart left :=
  ⟨apart.1.symm, fun name rightHolds leftHolds =>
    apart.2 name leftHolds rightHolds⟩

instance : Std.Symm Container.Apart := ⟨fun _ _ => Container.Apart.symm⟩

/-! ## Owners -/

theorem Owners.mem_keys_record {owners : Owners} {names : List TaskName}
    {container : ContainerId} {wanted : TaskName} :
    wanted ∈ (owners.record names container).keys ↔
      wanted ∈ names ∨ wanted ∈ owners.keys := by
  rw [record]
  induction names generalizing owners with
  | nil => simp
  | cons name rest inductionHypothesis =>
      rw [List.foldl_cons, inductionHypothesis, Roster.mem_keys_insert,
        List.mem_cons]
      tauto

namespace Merge

/-- The merge holds the containers of `active` and of the buddies in `taken`,
and owners of just the task names in them. -/
structure Holds (active : Layout) (taken : List Buddy) (merge : Merge) :
    Prop where
  containers : merge.layout.toList.Perm
    (active.toList ++ taken.map Buddy.model)
  owned : ∀ name, name ∈ merge.owners.keys ↔
    ∃ container ∈ merge.layout.toList, name ∈ container.tasks.keys

theorem mem_keys_foldl_record {containers : List Container} {owners : Owners}
    {name : TaskName} :
    name ∈ (containers.foldl (fun owners container =>
        owners.record container.tasks.keys container.id) owners).keys ↔
      name ∈ owners.keys ∨
        ∃ container ∈ containers, name ∈ container.tasks.keys := by
  induction containers generalizing owners with
  | nil => simp
  | cons container rest inductionHypothesis =>
      rw [List.foldl_cons, inductionHypothesis, Owners.mem_keys_record,
        List.exists_mem_cons_iff]
      tauto

theorem start_holds (active : Layout) : (start active).Holds active [] where
  containers := by simp [start]
  owned name := by
    rw [start, mem_keys_foldl_record]
    exact or_iff_right List.not_mem_nil

/-! ## One buddy -/

theorem taskCollision?_eq_none_iff {merge : Merge} {replica : UInt32}
    {names : List TaskName} :
    merge.taskCollision? replica names = none ↔
      ∀ name ∈ names, name ∉ merge.owners.keys := by
  induction names with
  | nil => simp [taskCollision?]
  | cons name rest inductionHypothesis =>
      rw [taskCollision?, List.forall_mem_cons, ← inductionHypothesis,
        ← Owners.ownerOf?_eq_none_iff]
      cases merge.owners.ownerOf? name <;> simp

theorem Holds.collision?_eq_none_iff {active : Layout} {taken : List Buddy}
    {merge : Merge} (holds : merge.Holds active taken) {buddy : Buddy} :
    merge.collision? buddy = none ↔
      ∀ container ∈ merge.layout.toList, container.Apart buddy.model := by
  rw [collision?]
  by_cases known : buddy.model.id ∈ merge.layout.keys
  · obtain ⟨container, member, sameId⟩ := Roster.mem_keys_iff.mp known
    rw [if_pos (Roster.contains_iff.mpr known)]
    simp only [reduceCtorEq, false_iff]
    intro apart
    exact (apart container member).1 sameId
  · rw [if_neg (fun contained => known (Roster.contains_iff.mp contained)),
      taskCollision?_eq_none_iff]
    constructor
    · intro free container member
      refine ⟨?_, ?_⟩
      · intro sameId
        exact known (Roster.mem_keys_iff.mpr ⟨container, member, sameId⟩)
      · intro name held offered
        exact free name offered
          ((holds.owned name).mpr ⟨container, member, held⟩)
    · intro apart name offered isOwned
      obtain ⟨container, member, held⟩ := (holds.owned name).mp isOwned
      exact (apart container member).2 name held offered

theorem collision?_of_id_mem {merge : Merge} {buddy : Buddy}
    (known : buddy.model.id ∈ merge.layout.keys) :
    merge.collision? buddy = some
      { kind := .container
        derived := buddy.model.id
        derivedFrom := buddy.id.active
        replica := buddy.id.replica
        existing := buddy.model.id
        existingOwner := buddy.model.id } := by
  rw [collision?, if_pos (Roster.contains_iff.mpr known)]

theorem push_of_collision {merge : Merge} {buddy : Buddy}
    {collision : Collision} (found : merge.collision? buddy = some collision) :
    merge.push buddy = (.error (.namingCollision collision), merge) := by
  rw [push, found]

def taking (merge : Merge) (buddy : Buddy) : Merge :=
  ⟨merge.layout.insert buddy.model,
    merge.owners.record buddy.model.tasks.keys buddy.model.id⟩

section Taking

variable {merge : Merge} {buddy : Buddy}

theorem id_not_mem_of_no_collision (free : merge.collision? buddy = none) :
    buddy.model.id ∉ merge.layout.keys := by
  intro known
  rw [collision?_of_id_mem known] at free
  contradiction

/-- Without a collision the id is new, so the layout cannot refuse the buddy
after its names were recorded. -/
theorem push_of_no_collision (free : merge.collision? buddy = none) :
    merge.push buddy = (.ok (), merge.taking buddy) := by
  have notContained : merge.layout.contains buddy.model.id = false :=
    Roster.contains_eq_false_iff.mpr (id_not_mem_of_no_collision free)
  rw [push, free]
  simp [Layout.add, Roster.insertNew?, notContained, taking]

theorem push_cases (merge : Merge) (buddy : Buddy) :
    (∃ collision, merge.collision? buddy = some collision ∧
      merge.push buddy = (.error (.namingCollision collision), merge)) ∨
    (merge.collision? buddy = none ∧
      merge.push buddy = (.ok (), merge.taking buddy)) := by
  cases found : merge.collision? buddy with
  | some collision => exact .inl ⟨collision, rfl, push_of_collision found⟩
  | none => exact .inr ⟨rfl, push_of_no_collision found⟩

theorem taking_containers_perm (free : merge.collision? buddy = none) :
    (merge.taking buddy).layout.toList.Perm
      (merge.layout.toList ++ [buddy.model]) :=
  (Roster.toList_insert_perm (id_not_mem_of_no_collision free)).trans
    (List.perm_append_singleton _ _).symm

theorem Holds.taking {active : Layout} {taken : List Buddy}
    (holds : merge.Holds active taken) (free : merge.collision? buddy = none) :
    (merge.taking buddy).Holds active (taken ++ [buddy]) where
  containers := by
    calc (merge.taking buddy).layout.toList.Perm
          (merge.layout.toList ++ [buddy.model]) := taking_containers_perm free
      List.Perm _ (active.toList ++ taken.map Buddy.model ++ [buddy.model]) :=
        holds.containers.append_right _
      List.Perm _ (active.toList ++ (taken ++ [buddy]).map Buddy.model) := by
        simp
  owned name := by
    simp only [(taking_containers_perm free).mem_iff, List.mem_append,
      List.mem_singleton, or_and_right, exists_or, exists_eq_left,
      ← holds.owned]
    rw [Merge.taking, Owners.mem_keys_record]
    exact or_comm

end Taking

/-! ## A list of buddies -/

theorem pushUntilRefused_append {merge : Merge} {before after : List Buddy} :
    merge.pushUntilRefused (before ++ after) =
      match merge.pushUntilRefused before with
      | .error fault => .error fault
      | .ok middle => middle.pushUntilRefused after := by
  induction before generalizing merge with
  | nil => rfl
  | cons buddy rest inductionHypothesis =>
      rw [List.cons_append, pushUntilRefused, pushUntilRefused]
      split
      · rfl
      · exact inductionHypothesis

/-- A run looks at no buddy behind those that it takes up. -/
theorem pushUntilRefused_take_countTaken (merge : Merge)
    (buddies : List Buddy) :
    merge.pushUntilRefused (buddies.take (merge.countTaken buddies)) =
      merge.pushUntilRefused buddies := by
  induction buddies generalizing merge with
  | nil => rfl
  | cons buddy rest inductionHypothesis =>
      rw [countTaken]
      rcases merge.push_cases buddy with ⟨collision, _, refused⟩ | ⟨_, taken⟩
      · simp only [refused, List.take_succ_cons, List.take_zero,
          pushUntilRefused]
      · simp only [taken, List.take_succ_cons, pushUntilRefused,
          inductionHypothesis]

theorem pushUntilRefused_take_of_lt {merge : Merge} {buddies : List Buddy}
    {count : Nat} (short : count < merge.countTaken buddies) :
    ∃ middle, merge.pushUntilRefused (buddies.take count) = .ok middle := by
  induction buddies generalizing merge count with
  | nil => exact absurd short (Nat.not_lt_zero count)
  | cons buddy rest inductionHypothesis =>
      cases count with
      | zero => exact ⟨merge, rfl⟩
      | succ count =>
          rw [countTaken] at short
          rcases merge.push_cases buddy with
            ⟨collision, _, refused⟩ | ⟨_, taken⟩
          · simp only [refused] at short
            omega
          · simp only [taken] at short
            simp only [List.take_succ_cons, pushUntilRefused, taken]
            exact inductionHypothesis (Nat.lt_of_succ_lt_succ short)

theorem Holds.pushUntilRefused {active : Layout} {taken buddies : List Buddy}
    {merge : Merge} (holds : merge.Holds active taken)
    (foreign : ∀ buddy ∈ buddies, ∀ container ∈ merge.layout.toList,
      container.Apart buddy.model)
    (apart : buddies.Pairwise
      (fun earlier later => earlier.model.Apart later.model)) :
    ∃ final, merge.pushUntilRefused buddies = .ok final ∧
      final.Holds active (taken ++ buddies) := by
  induction buddies generalizing merge taken with
  | nil => exact ⟨merge, rfl, by simpa using holds⟩
  | cons buddy rest inductionHypothesis =>
      obtain ⟨buddyForeign, restForeign⟩ := List.forall_mem_cons.mp foreign
      obtain ⟨buddyApart, restApart⟩ := List.pairwise_cons.mp apart
      have free := holds.collision?_eq_none_iff.mpr buddyForeign
      have nextHolds := holds.taking free
      -- The buddy just taken joins the containers that the rest has to be apart
      -- from; that it is apart from them is what `apart` says of its head.
      have nextForeign : ∀ other ∈ rest,
          ∀ container ∈ (merge.taking buddy).layout.toList,
            container.Apart other.model := by
        intro other otherMember container member
        rw [(taking_containers_perm free).mem_iff, List.mem_append] at member
        rcases member with old | new
        · exact restForeign other otherMember container old
        · rw [List.mem_singleton.mp new]
          exact buddyApart other otherMember
      obtain ⟨final, run, finalHolds⟩ :=
        inductionHypothesis nextHolds nextForeign restApart
      refine ⟨final, ?_, by simpa using finalHolds⟩
      rw [Merge.pushUntilRefused, push_of_no_collision free]
      exact run

end Merge

end WarmStandby
