import Mathlib.Data.List.Pairwise
import WarmStandby.Proofs.TaskOwners
import WarmStandby.Sample

/-!
# Pushing buddies into a merge

A push either takes its buddy or leaves the merge as it was.  So what a merge
holds after any pushes is told by the buddies that it took: the containers of
the start layout and theirs, and for every task name the last of its holders.
The buddies that it took share no id and no task name with the start layout or
with each other.
-/

set_option autoImplicit false

namespace WarmStandby

/-! ## Buddies without collisions -/

/-- No buddy has the id or a task name of a container of the layout, or of
another buddy. -/
structure Layout.CollisionFree (active : Layout) (buddies : List Buddy) :
    Prop where
  foreign : ∀ buddy ∈ buddies, ∀ container ∈ active.toList,
    container.Apart buddy.model
  apart : buddies.Pairwise
    (fun earlier later => earlier.model.Apart later.model)

namespace Layout

variable {active : Layout} {buddies : List Buddy}

theorem collisionFree_nil (active : Layout) : active.CollisionFree [] :=
  ⟨List.forall_mem_nil _, .nil⟩

theorem collisionFree_concat_iff {buddy : Buddy} :
    active.CollisionFree (buddies ++ [buddy]) ↔
      active.CollisionFree buddies ∧
        ∀ container ∈ active.toList ++ buddies.map Buddy.model,
          container.Apart buddy.model := by
  constructor
  · intro free
    obtain ⟨foreign, apart⟩ := free
    obtain ⟨earlierForeign, lastForeign⟩ := List.forall_mem_append.mp foreign
    obtain ⟨earlierApart, _, lastApart⟩ := List.pairwise_append.mp apart
    refine ⟨⟨earlierForeign, earlierApart⟩, ?_⟩
    intro container member
    rcases List.mem_append.mp member with old | taken
    · exact lastForeign buddy (List.mem_singleton_self _) container old
    · obtain ⟨earlier, earlierMember, rfl⟩ := List.mem_map.mp taken
      exact lastApart earlier earlierMember buddy (List.mem_singleton_self _)
  · intro free
    obtain ⟨⟨foreign, apart⟩, lastApart⟩ := free
    obtain ⟨fromActive, fromBuddies⟩ := List.forall_mem_append.mp lastApart
    refine ⟨List.forall_mem_append.mpr ⟨foreign, ?_⟩,
      List.pairwise_append.mpr ⟨apart, List.pairwise_singleton _ _, ?_⟩⟩
    · exact List.forall_mem_singleton.mpr fromActive
    · intro earlier member last lastMember
      rw [List.mem_singleton.mp lastMember]
      exact fromBuddies earlier.model (List.mem_map_of_mem member)

theorem CollisionFree.apart_of_ne (free : active.CollisionFree buddies)
    {buddy : Buddy} (member : buddy ∈ buddies) {container : Container}
    (held : container ∈ active.toList ++ buddies.map Buddy.model)
    (other : container ≠ buddy.model) : container.Apart buddy.model := by
  rcases List.mem_append.mp held with old | taken
  · exact free.foreign buddy member container old
  · have modelsApart : (buddies.map Buddy.model).Pairwise Container.Apart :=
      List.pairwise_map.mpr free.apart
    exact modelsApart.forall taken (List.mem_map_of_mem member) other

end Layout

namespace Merge

/-! ## The account of what was taken -/

/-- What a merge holds and knows after it took the buddies in `taken`. -/
structure Consistent (active : Layout) (taken : List Buddy) (merge : Merge) :
    Prop extends Holds active taken merge where
  free : active.CollisionFree taken
  tracks : merge.owners.Tracks merge.layout.toList

theorem start_consistent (active : Layout) :
    (start active).Consistent active [] where
  toHolds := start_holds active
  free := active.collisionFree_nil
  tracks := start_tracks active

section Step

variable {active : Layout} {taken : List Buddy} {merge : Merge}

theorem Consistent.collision?_eq_none_iff
    (consistent : merge.Consistent active taken) {buddy : Buddy} :
    merge.collision? buddy = none ↔
      active.CollisionFree (taken ++ [buddy]) := by
  rw [consistent.toHolds.collision?_eq_none_iff,
    Layout.collisionFree_concat_iff]
  simp only [consistent.containers.mem_iff]
  exact (and_iff_right consistent.free).symm

theorem Consistent.taking (consistent : merge.Consistent active taken)
    {buddy : Buddy} (noCollision : merge.collision? buddy = none) :
    (merge.taking buddy).Consistent active (taken ++ [buddy]) where
  toHolds := consistent.toHolds.taking noCollision
  free := consistent.collision?_eq_none_iff.mp noCollision
  tracks := by
    have apart := consistent.toHolds.collision?_eq_none_iff.mp noCollision
    -- No container before the buddy holds one of its names, so recording them
    -- changes the owner of no other holder.
    have alone : ∀ name ∈ buddy.model.tasks.keys,
        ∀ container ∈ merge.layout.toList, name ∈ container.tasks.keys →
          container.id ≤ buddy.model.id := by
      intro name offered container member held
      exact absurd offered ((apart container member).2 name held)
    refine (consistent.tracks.record alone).congr ?_
    intro container
    exact (taking_containers_perm noCollision).mem_iff.symm

end Step

/-! ## A sequence of pushes -/

def accepted (merge : Merge) : List Buddy → List Buddy
  | [] => []
  | buddy :: rest =>
      match merge.push buddy with
      | (.error _, next) => next.accepted rest
      | (.ok (), next) => buddy :: next.accepted rest

section Sequence

variable {active : Layout} {taken : List Buddy} {merge next : Merge}
variable {buddy : Buddy} {buddies : List Buddy}

theorem accepted_cons_of_collision {collision : Collision}
    (refused : merge.push buddy = (.error (.namingCollision collision), merge)) :
    merge.accepted (buddy :: buddies) = merge.accepted buddies := by
  rw [accepted, refused]

theorem accepted_cons_of_ok (pushed : merge.push buddy = (.ok (), next)) :
    merge.accepted (buddy :: buddies) = buddy :: next.accepted buddies := by
  rw [accepted, pushed]

theorem pushAll_cons_of_push {verdict : Except GenerationFault Unit}
    (pushed : merge.push buddy = (verdict, next)) :
    merge.pushAll (buddy :: buddies) = next.pushAll buddies := by
  rw [pushAll, List.foldl_cons, pushed]
  rfl

theorem Consistent.pushAll (consistent : merge.Consistent active taken)
    (buddies : List Buddy) :
    (merge.pushAll buddies).Consistent active
      (taken ++ merge.accepted buddies) := by
  induction buddies generalizing merge taken with
  | nil => simpa [accepted, Merge.pushAll] using consistent
  | cons buddy rest inductionHypothesis =>
      rcases merge.push_cases buddy with
        ⟨collision, _, refused⟩ | ⟨free, pushed⟩
      · rw [pushAll_cons_of_push refused, accepted_cons_of_collision refused]
        exact inductionHypothesis consistent
      · rw [pushAll_cons_of_push pushed, accepted_cons_of_ok pushed,
          List.append_cons]
        exact inductionHypothesis (consistent.taking free)

theorem pushUntilRefused_accepted (merge : Merge) (buddies : List Buddy) :
    merge.pushUntilRefused (merge.accepted buddies) =
      .ok (merge.pushAll buddies) := by
  induction buddies generalizing merge with
  | nil => rfl
  | cons buddy rest inductionHypothesis =>
      rcases merge.push_cases buddy with
        ⟨collision, _, refused⟩ | ⟨free, pushed⟩
      · rw [pushAll_cons_of_push refused, accepted_cons_of_collision refused]
        exact inductionHypothesis merge
      · rw [pushAll_cons_of_push pushed, accepted_cons_of_ok pushed,
          pushUntilRefused, pushed]
        exact inductionHypothesis _

theorem pushAll_eq_of_pushUntilRefused {final : Merge}
    (success : merge.pushUntilRefused buddies = .ok final) :
    merge.pushAll buddies = final := by
  induction buddies generalizing merge with
  | nil => exact Except.ok.inj success
  | cons buddy rest inductionHypothesis =>
      rcases merge.push_cases buddy with
        ⟨collision, _, refused⟩ | ⟨free, pushed⟩
      · rw [pushUntilRefused, refused] at success
        contradiction
      · rw [pushUntilRefused, pushed] at success
        rw [pushAll_cons_of_push pushed]
        exact inductionHypothesis success

end Sequence

/-! ## What any pushes lead to -/

section Owners

variable {active : Layout} {taken : List Buddy} {merge : Merge}
variable {buddy : Buddy} {name : TaskName}

theorem Consistent.mem_iff (consistent : merge.Consistent active taken)
    {container : Container} :
    container ∈ merge.layout.toList ↔
      container ∈ active.toList ∨ ∃ buddy ∈ taken, buddy.model = container := by
  rw [consistent.containers.mem_iff, List.mem_append, List.mem_map]

theorem Consistent.apart_of_ne (consistent : merge.Consistent active taken)
    (member : buddy ∈ taken) {container : Container}
    (held : container ∈ merge.layout.toList) (other : container ≠ buddy.model) :
    container.Apart buddy.model :=
  consistent.free.apart_of_ne member (consistent.containers.mem_iff.mp held)
    other

theorem Consistent.eq_model_of_mem_names
    (consistent : merge.Consistent active taken) (member : buddy ∈ taken)
    (offered : name ∈ buddy.model.tasks.keys) {container : Container}
    (held : container ∈ merge.layout.toList)
    (named : name ∈ container.tasks.keys) : container = buddy.model := by
  by_contra other
  have apart := consistent.apart_of_ne member held other
  exact apart.2 name named offered

theorem Consistent.ownerOf?_of_taken
    (consistent : merge.Consistent active taken) (member : buddy ∈ taken)
    (offered : name ∈ buddy.model.tasks.keys) :
    merge.owners.ownerOf? name = some buddy.model.id := by
  have modelHeld : buddy.model ∈ merge.layout.toList :=
    consistent.mem_iff.mpr (.inr ⟨buddy, member, rfl⟩)
  refine (consistent.tracks name _).mpr
    ⟨⟨buddy.model, modelHeld, rfl, offered⟩, ?_⟩
  intro container held named
  obtain rfl := consistent.eq_model_of_mem_names member offered held named
  exact String.le_refl _

theorem Consistent.ownerOf?_of_active
    (consistent : merge.Consistent active taken)
    (known : ∃ container ∈ active.toList, name ∈ container.tasks.keys)
    (owner : ContainerId) :
    merge.owners.ownerOf? name = some owner ↔
      LastHolder active.toList name owner := by
  obtain ⟨holder, holderMember, holderNamed⟩ := known
  refine (consistent.tracks name owner).trans (lastHolder_congr ?_)
  intro container named
  rw [consistent.mem_iff]
  refine or_iff_left ?_
  intro isBuddy
  obtain ⟨taking, member, rfl⟩ := isBuddy
  have apart := consistent.free.foreign taking member holder holderMember
  exact apart.2 name holderNamed named

end Owners

/-- A refused buddy changes nothing, and a merge is what the accepted buddies
alone make of it. -/
theorem refused_pushes_leave_no_trace (active : Layout)
    (buddies : List Buddy) :
    let merge := (start active).pushAll buddies
    let accepted := (start active).accepted buddies
    (∀ buddy fault, (merge.push buddy).1 = .error fault →
      (merge.push buddy).2 = merge ∧
        ∀ modelFault, fault ≠ .model modelFault) ∧
    (start active).pushAll accepted = merge ∧
    (start active).pushUntilRefused accepted = .ok merge ∧
    merge.layout.toList.Perm
      (active.toList ++ accepted.map Buddy.model) := by
  intro merge accepted
  have alone := (start active).pushUntilRefused_accepted buddies
  have consistent := (start_consistent active).pushAll buddies
  refine ⟨?_, pushAll_eq_of_pushUntilRefused alone, alone,
    consistent.containers⟩
  intro buddy fault refusal
  rcases merge.push_cases buddy with ⟨collision, _, refused⟩ | ⟨_, pushed⟩
  · rw [refused] at refusal ⊢
    refine ⟨rfl, ?_⟩
    intro modelFault isModel
    rw [isModel] at refusal
    cases Except.error.inj refusal
  · rw [pushed] at refusal
    contradiction

end Merge

namespace Sample

def doubled : Layout :=
  .ofList
    [⟨"0", .ofList [.active "a" [] 0]⟩, ⟨"0-1", .ofList [.active "a" [] 0]⟩]

def stray : Container := ⟨"z", .ofList [.active "a" [] 0]⟩

/-- Buddies of a container of the layout and of one that is not in it.  The
second has the id of a container of the layout, the third shares its task name
with the first, and the fourth is the first again. -/
def offers : List Buddy :=
  [.derive ⟨"0", .ofList [.active "a" [] 0]⟩ 0,
    .derive ⟨"0", .ofList [.active "a" [] 0]⟩ 1, .derive stray 0,
    .derive ⟨"0", .ofList [.active "a" [] 0]⟩ 0, .derive stray 1]

theorem refused_pushes_leave_no_trace_doubled :
    (((Merge.start doubled).pushAll offers).push (.derive stray 0)).2 =
      (Merge.start doubled).pushAll offers ∧
    (Merge.start doubled).pushAll ((Merge.start doubled).accepted offers) =
      (Merge.start doubled).pushAll offers := by
  obtain ⟨refusedUnchanged, sameAlone, _, _⟩ :=
    Merge.refused_pushes_leave_no_trace doubled offers
  have notOk : (((Merge.start doubled).pushAll offers).push
      (.derive stray 0)).1.isOk = false := by
    decide +kernel
  cases verdict :
      (((Merge.start doubled).pushAll offers).push (.derive stray 0)).1 with
  | error fault => exact ⟨(refusedUnchanged _ _ verdict).1, sameAlone⟩
  | ok taken =>
      rw [verdict] at notOk
      contradiction

example :
    (Merge.start doubled).accepted offers =
      [.derive ⟨"0", .ofList [.active "a" [] 0]⟩ 0, .derive stray 1] := by
  decide +kernel

end Sample

namespace Merge

/-- After any pushes, accepted or refused, the containers of the start layout
are in place, the owners are those of the task names that are held, and each
accepted buddy is the only holder of its names. -/
theorem pushes_keep_owners_exact (active : Layout) (buddies : List Buddy) :
    let merge := (start active).pushAll buddies
    let accepted := (start active).accepted buddies
    (∀ id container, active.get? id = some container →
      merge.layout.get? id = some container) ∧
    (∀ container, container ∈ merge.layout.toList ↔
      container ∈ active.toList ∨
        ∃ buddy ∈ accepted, buddy.model = container) ∧
    (∀ name, name ∈ merge.owners.keys ↔
      ∃ container ∈ merge.layout.toList, name ∈ container.tasks.keys) ∧
    (∀ name owner, merge.owners.ownerOf? name = some owner →
      ∃ container, merge.layout.get? owner = some container ∧
        name ∈ container.tasks.keys) ∧
    (∀ name, (∃ container ∈ active.toList, name ∈ container.tasks.keys) →
      ∀ owner, merge.owners.ownerOf? name = some owner ↔
        LastHolder active.toList name owner) ∧
    (∀ buddy ∈ accepted, ∀ name ∈ buddy.model.tasks.keys,
      merge.owners.ownerOf? name = some buddy.model.id ∧
        ∀ container ∈ merge.layout.toList,
          name ∈ container.tasks.keys → container = buddy.model) ∧
    (∀ buddy ∈ accepted, ∀ container ∈ merge.layout.toList,
      container ≠ buddy.model → ∀ name ∈ container.tasks.keys,
        name ∉ buddy.model.tasks.keys) := by
  intro merge accepted
  have consistent : merge.Consistent active accepted :=
    (start_consistent active).pushAll buddies
  refine ⟨?_, fun container => consistent.mem_iff, consistent.owned, ?_,
    fun name => consistent.ownerOf?_of_active, ?_, ?_⟩
  · intro id container found
    obtain ⟨member, sameId⟩ := Roster.get?_eq_some_iff.mp found
    exact Roster.get?_eq_some_iff.mpr
      ⟨consistent.mem_iff.mpr (.inl member), sameId⟩
  · intro name owner owned
    obtain ⟨container, member, sameId, held⟩ :=
      ((consistent.tracks name owner).mp owned).holds
    exact ⟨container, Roster.get?_eq_some_iff.mpr ⟨member, sameId⟩, held⟩
  · intro buddy member name offered
    exact ⟨consistent.ownerOf?_of_taken member offered,
      fun container => consistent.eq_model_of_mem_names member offered⟩
  · intro buddy member container held other
    exact (consistent.apart_of_ne member held other).2

end Merge

namespace Sample

theorem pushes_keep_owners_exact_doubled :
    LastHolder doubled.toList "a" "0-1" ∧
      ((Merge.start doubled).pushAll offers).owners.ownerOf? "Standby a-1" =
        some "z-1" := by
  obtain ⟨_, _, _, _, ofActive, ofBuddy, _⟩ :=
    Merge.pushes_keep_owners_exact doubled offers
  have known : ∃ container ∈ doubled.toList, "a" ∈ container.tasks.keys := by
    decide +kernel
  have owned :
      ((Merge.start doubled).pushAll offers).owners.ownerOf? "a" =
        some "0-1" := by
    decide +kernel
  have member :
      Buddy.derive stray 1 ∈ (Merge.start doubled).accepted offers := by
    decide +kernel
  have offered : "Standby a-1" ∈ (Buddy.derive stray 1).model.tasks.keys := by
    decide +kernel
  exact ⟨(ofActive "a" known "0-1").mp owned,
    (ofBuddy _ member _ offered).1⟩

end Sample

end WarmStandby
