import WarmStandby.Proofs.MergePushes

/-!
# Which buddies merge

A merge of a list of buddies ends at the first one that collides with the layout
or with a buddy before it.  That there is none such does not depend on the order
of the list, so neither does success, nor the layout that is then returned.
-/

set_option autoImplicit false

namespace WarmStandby

/-! ## What is reported of a buddy -/

/-- What is reported of a buddy beside these containers: its id, if one of them
has it, and otherwise the least of its task names that one of them holds, with
the last holder. -/
inductive Buddy.Reported (containers : List Container) (buddy : Buddy) :
    Collision → Prop
  | id (taken : ∃ container ∈ containers, container.id = buddy.model.id) :
      Reported containers buddy
        { kind := .container
          derived := buddy.model.id
          derivedFrom := buddy.id.active
          replica := buddy.id.replica
          existing := buddy.model.id
          existingOwner := buddy.model.id }
  | name {name : TaskName} {owner : ContainerId}
      (fresh : ∀ container ∈ containers, container.id ≠ buddy.model.id)
      (offered : name ∈ buddy.model.tasks.keys)
      (owned : LastHolder containers name owner)
      (least : ∀ other ∈ buddy.model.tasks.keys,
        (∃ container ∈ containers, other ∈ container.tasks.keys) →
          name ≤ other) :
      Reported containers buddy
        { kind := .task
          derived := name
          derivedFrom := Merge.derivedFrom name
          replica := buddy.id.replica
          existing := name
          existingOwner := owner }

theorem TaskRoster.names_ascending (tasks : TaskRoster) :
    tasks.keys.Pairwise (· < ·) :=
  List.pairwise_map.mpr (tasks.ascending.imp compareOfLessAndEq_eq_lt.mp)

namespace Merge

theorem taskCollision?_eq_some {merge : Merge} {replica : UInt32}
    {names : List TaskName} {collision : Collision}
    (ascending : names.Pairwise (· < ·))
    (found : merge.taskCollision? replica names = some collision) :
    ∃ name ∈ names, ∃ owner, merge.owners.ownerOf? name = some owner ∧
      (∀ other ∈ names, other ∈ merge.owners.keys → name ≤ other) ∧
      collision =
        { kind := .task
          derived := name
          derivedFrom := derivedFrom name
          replica := replica
          existing := name
          existingOwner := owner } := by
  induction names with
  | nil => contradiction
  | cons name rest inductionHypothesis =>
      obtain ⟨below, restAscending⟩ := List.pairwise_cons.mp ascending
      rw [taskCollision?] at found
      cases owned : merge.owners.ownerOf? name with
      | some owner =>
          rw [owned] at found
          refine ⟨name, List.mem_cons_self, owner, owned, ?_,
            (Option.some.inj found).symm⟩
          intro other member _
          rcases List.mem_cons.mp member with rfl | inRest
          · exact String.le_refl _
          · exact Std.le_of_lt (below other inRest)
      | none =>
          rw [owned] at found
          obtain ⟨least, member, owner, leastOwned, isLeast, report⟩ :=
            inductionHypothesis restAscending found
          refine ⟨least, List.mem_cons_of_mem _ member, owner, leastOwned, ?_,
            report⟩
          intro other otherMember otherOwned
          rcases List.mem_cons.mp otherMember with rfl | inRest
          · exact absurd otherOwned (Owners.ownerOf?_eq_none_iff.mp owned)
          · exact isLeast other inRest otherOwned

section Reports

variable {active : Layout} {taken : List Buddy} {merge : Merge}

theorem Consistent.reported (consistent : merge.Consistent active taken)
    {buddy : Buddy} {collision : Collision}
    (found : merge.collision? buddy = some collision) :
    buddy.Reported (active.toList ++ taken.map Buddy.model) collision := by
  have sameContainers := fun container : Container =>
    consistent.containers.mem_iff (a := container)
  by_cases known : buddy.model.id ∈ merge.layout.keys
  · rw [collision?_of_id_mem known] at found
    obtain ⟨container, member, sameId⟩ := Roster.mem_keys_iff.mp known
    rw [← Option.some.inj found]
    exact .id ⟨container, (sameContainers container).mp member, sameId⟩
  · have notContained : merge.layout.contains buddy.model.id = false :=
      Roster.contains_eq_false_iff.mpr known
    rw [collision?, notContained] at found
    obtain ⟨name, offered, owner, owned, least, report⟩ :=
      taskCollision?_eq_some buddy.model.tasks.names_ascending found
    have lastHolder := (consistent.tracks name owner).mp owned
    rw [report]
    refine .name ?_ offered
      (lastHolder.congr (fun container _ => sameContainers container)) ?_
    · intro container member sameId
      exact known (Roster.mem_keys_iff.mpr
        ⟨container, (sameContainers container).mpr member, sameId⟩)
    · intro other otherOffered held
      obtain ⟨container, member, named⟩ := held
      exact least other otherOffered ((consistent.owned other).mpr
        ⟨container, (sameContainers container).mpr member, named⟩)

end Reports

/-! ## Runs that end early -/

section Runs

variable {active : Layout} {taken buddies : List Buddy} {merge : Merge}

theorem Consistent.pushUntilRefused (consistent : merge.Consistent active taken)
    {final : Merge} (success : merge.pushUntilRefused buddies = .ok final) :
    final.Consistent active (taken ++ buddies) := by
  induction buddies generalizing merge taken with
  | nil =>
      rw [← Except.ok.inj success, List.append_nil]
      exact consistent
  | cons buddy rest inductionHypothesis =>
      rw [Merge.pushUntilRefused] at success
      rcases merge.push_cases buddy with
        ⟨collision, _, refused⟩ | ⟨free, pushed⟩
      · rw [refused] at success
        contradiction
      · rw [pushed] at success
        rw [List.append_cons]
        exact inductionHypothesis (consistent.taking free) success

theorem pushUntilRefused_eq_error {fault : GenerationFault}
    (failure : merge.pushUntilRefused buddies = .error fault) :
    ∃ before buddy after middle collision,
      buddies = before ++ buddy :: after ∧
        merge.pushUntilRefused before = .ok middle ∧
        middle.collision? buddy = some collision ∧
        fault = .namingCollision collision := by
  induction buddies generalizing merge with
  | nil => contradiction
  | cons buddy rest inductionHypothesis =>
      rw [pushUntilRefused] at failure
      rcases merge.push_cases buddy with
        ⟨collision, found, refused⟩ | ⟨free, pushed⟩
      · rw [refused] at failure
        exact ⟨[], buddy, rest, merge, collision, rfl, rfl, found,
          (Except.error.inj failure).symm⟩
      · rw [pushed] at failure
        obtain ⟨before, later, after, middle, collision, split, run, found,
          report⟩ := inductionHypothesis failure
        refine ⟨buddy :: before, later, after, middle, collision,
          by simp [split], ?_, found, report⟩
        rw [pushUntilRefused, pushed]
        exact run

end Runs

end Merge

/-! ## Merging a list -/

namespace Layout

variable {active : Layout} {buddies : List Buddy}

theorem CollisionFree.perm {left right : List Buddy}
    (free : active.CollisionFree left) (perm : left.Perm right) :
    active.CollisionFree right where
  foreign buddy member := free.foreign buddy (perm.mem_iff.mpr member)
  apart := (perm.pairwise_iff Container.Apart.symm).mp free.apart

theorem merge_of_collisionFree (free : active.CollisionFree buddies) :
    ∃ merged, active.merge buddies = .ok merged := by
  obtain ⟨final, run, _⟩ :=
    (Merge.start_holds active).pushUntilRefused free.foreign free.apart
  refine ⟨final.layout, ?_⟩
  rw [merge, run]

theorem consistent_of_merge_eq_ok {merged : Layout}
    (success : active.merge buddies = .ok merged) :
    ∃ final : Merge, final.layout = merged ∧
      final.Consistent active buddies := by
  rw [merge] at success
  cases run : (Merge.start active).pushUntilRefused buddies with
  | error fault =>
      rw [run] at success
      contradiction
  | ok final =>
      rw [run] at success
      exact ⟨final, Except.ok.inj success,
        (Merge.start_consistent active).pushUntilRefused run⟩

theorem merge_eq_ok_iff_collisionFree :
    (∃ merged, active.merge buddies = .ok merged) ↔
      active.CollisionFree buddies := by
  refine ⟨?_, merge_of_collisionFree⟩
  intro success
  obtain ⟨merged, success⟩ := success
  obtain ⟨final, _, consistent⟩ := consistent_of_merge_eq_ok success
  exact consistent.free

theorem containers_perm_of_merge_eq_ok {merged : Layout}
    (success : active.merge buddies = .ok merged) :
    merged.toList.Perm (active.toList ++ buddies.map Buddy.model) := by
  obtain ⟨final, rfl, consistent⟩ := consistent_of_merge_eq_ok success
  exact consistent.containers

theorem merge_eq_error_iff {fault : GenerationFault} :
    active.merge buddies = .error fault ↔
      (Merge.start active).pushUntilRefused buddies = .error fault := by
  rw [merge]
  cases (Merge.start active).pushUntilRefused buddies <;> simp

theorem merge_of_perm {reordered : List Buddy} {merged : Layout}
    (success : active.merge buddies = .ok merged)
    (perm : buddies.Perm reordered) : active.merge reordered = .ok merged := by
  have free := merge_eq_ok_iff_collisionFree.mp ⟨merged, success⟩
  obtain ⟨other, otherSuccess⟩ := merge_of_collisionFree (free.perm perm)
  have sameContainers : other.toList.Perm merged.toList :=
    calc other.toList.Perm (active.toList ++ reordered.map Buddy.model) :=
          containers_perm_of_merge_eq_ok otherSuccess
      List.Perm _ (active.toList ++ buddies.map Buddy.model) :=
          (perm.symm.map _).append_left _
      List.Perm _ merged.toList :=
          (containers_perm_of_merge_eq_ok success).symm
  rw [otherSuccess, Roster.eq_of_perm sameContainers]

/-- A merge succeeds for just the lists without collisions, in any order, and
otherwise reports the first collision of the list. -/
theorem merge_succeeds_iff_collision_free (active : Layout)
    (buddies : List Buddy) :
    ((∃ merged, active.merge buddies = .ok merged) ↔
      active.CollisionFree buddies) ∧
    (∀ merged, active.merge buddies = .ok merged →
      merged.toList.Perm (active.toList ++ buddies.map Buddy.model)) ∧
    (∀ reordered, buddies.Perm reordered →
      (∃ merged, active.merge buddies = .ok merged ∧
        active.merge reordered = .ok merged) ∨
      (∃ fault other, active.merge buddies = .error fault ∧
        active.merge reordered = .error other)) ∧
    (∀ fault, active.merge buddies = .error fault →
      (∃ before buddy after collision,
        buddies = before ++ buddy :: after ∧
          active.CollisionFree before ∧
          ¬ active.CollisionFree (before ++ [buddy]) ∧
          buddy.Reported (active.toList ++ before.map Buddy.model) collision ∧
          fault = .namingCollision collision) ∧
      ∀ appended, active.merge (buddies ++ appended) = .error fault) := by
  refine ⟨merge_eq_ok_iff_collisionFree,
    fun merged => containers_perm_of_merge_eq_ok, ?_, ?_⟩
  · intro reordered perm
    cases run : active.merge buddies with
    | ok merged => exact .inl ⟨merged, rfl, merge_of_perm run perm⟩
    | error fault =>
        cases rerun : active.merge reordered with
        | error other => exact .inr ⟨fault, other, rfl, rfl⟩
        | ok merged =>
            rw [merge_of_perm rerun perm.symm] at run
            contradiction
  · intro fault failure
    have refused := merge_eq_error_iff.mp failure
    refine ⟨?_, ?_⟩
    · obtain ⟨before, buddy, after, middle, collision, split, run, found,
        report⟩ := Merge.pushUntilRefused_eq_error refused
      have consistent : middle.Consistent active before :=
        (Merge.start_consistent active).pushUntilRefused run
      refine ⟨before, buddy, after, collision, split, consistent.free, ?_,
        consistent.reported found, report⟩
      intro free
      rw [consistent.collision?_eq_none_iff.mpr free] at found
      contradiction
    · intro appended
      rw [merge_eq_error_iff, Merge.pushUntilRefused_append, refused]

end Layout

namespace Sample

theorem merge_succeeds_iff_collision_free_doubled :
    (∃ merged,
      doubled.merge [.derive stray 0, .derive stray 1] = .ok merged ∧
        doubled.merge [.derive stray 1, .derive stray 0] = .ok merged) ∧
    doubled.merge (offers ++ [.derive stray 2]) =
      .error (.namingCollision
        { kind := .container
          derived := "0-1"
          derivedFrom := "0"
          replica := 1
          existing := "0-1"
          existingOwner := "0-1" }) := by
  refine ⟨?_, ?_⟩
  · obtain ⟨_, _, anyOrder, _⟩ :=
      Layout.merge_succeeds_iff_collision_free doubled
        [.derive stray 0, .derive stray 1]
    have succeeds :
        (doubled.merge [.derive stray 0, .derive stray 1]).isOk = true := by
      decide +kernel
    rcases anyOrder [.derive stray 1, .derive stray 0] (List.Perm.swap _ _ _)
      with merged | ⟨fault, _, failure, _⟩
    · exact merged
    · rw [failure] at succeeds
      contradiction
  · obtain ⟨_, _, _, ofFailure⟩ :=
      Layout.merge_succeeds_iff_collision_free doubled offers
    have failure : doubled.merge offers =
        .error (.namingCollision
          { kind := .container
            derived := "0-1"
            derivedFrom := "0"
            replica := 1
            existing := "0-1"
            existingOwner := "0-1" }) := by
      decide +kernel
    exact (ofFailure _ failure).2 [.derive stray 2]

end Sample

end WarmStandby
