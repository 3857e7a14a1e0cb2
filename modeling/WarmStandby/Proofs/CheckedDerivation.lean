import Mathlib.Data.Set.Function
import WarmStandby.Proofs.BuddyDerivation
import WarmStandby.Proofs.StoredForms
import WarmStandby.Sample

/-!
# Derivation loses nothing

The tasks of a buddy are put into a map of their own, under names made of those
of the active tasks.  The new names come in another order than the old ones, and
tasks whose names came to one text would be stored as one.  It is shown that
this never happens, and that the keys of the map always pass their check: a
derivation succeeds, and it has one entry for each task.
-/

set_option autoImplicit false

namespace WarmStandby

/-! ## The check of a derived map -/

namespace StoredContainer

def standbys (active : StoredContainer) (replica : UInt32) : TaskRoster :=
  .ofList (active.tasks.toList.map (fun entry => entry.2.standby replica))

theorem derive_tasks (active : StoredContainer) (replica : UInt32) :
    (active.derive replica).tasks = (active.standbys replica).ownEntries := by
  rw [standbys, Roster.ownEntries_ofList, List.map_map]
  rfl

/-- Every standby is put under its own name, so the check succeeds.  The keys of
the active tasks do not matter for this. -/
theorem check_derive (active : StoredContainer) (replica : UInt32) :
    (active.derive replica).check =
      .ok ⟨BuddyId.text ⟨active.id, replica⟩, active.standbys replica⟩ := by
  rw [check, derive_tasks, Container.ofEntries, Roster.mismatch?_ownEntries,
    Roster.records_ownEntries]
  rfl

end StoredContainer

/-! ## One entry for each task -/

def Task.standbyEntry (task : Task) (replica : UInt32) : String × Task :=
  ("Standby " ++ task.name ++ "-" ++ Decimal.text replica.toNat,
    task.standby replica)

theorem Task.standbyEntry_eq (task : Task) (replica : UInt32) :
    task.standbyEntry replica =
      ((task.standby replica).name, task.standby replica) := by
  rw [standbyEntry, standby_name, StandbyName.text_eq]

theorem TaskRoster.injOn_standbyEntry (tasks : TaskRoster) (replica : UInt32) :
    Set.InjOn (fun task : Task => task.standbyEntry replica)
      {task | task ∈ tasks.toList} := by
  intro left leftMember right rightMember same
  have sameText : StandbyName.text ⟨left.name, replica⟩ =
      StandbyName.text ⟨right.name, replica⟩ := by
    rw [StandbyName.text_eq, StandbyName.text_eq]
    exact congrArg Prod.fst same
  have sameName := StandbyName.text_injective sameText
  exact tasks.eq_of_key_eq leftMember rightMember
    (congrArg StandbyName.active sameName)

namespace Container

variable (active : Container) (replica : UInt32)

theorem check_derive_stored :
    (active.stored.derive replica).check =
      .ok (Buddy.derive active replica).model := by
  rw [StoredContainer.check_derive, StoredContainer.standbys, stored,
    Roster.ownEntries, List.map_map]
  rfl

theorem derive_stored_tasks :
    (active.stored.derive replica).tasks =
      (Buddy.derive active replica).model.tasks.ownEntries := by
  rw [← Buddy.stored_derive]
  rfl

theorem size_derive_stored :
    (active.stored.derive replica).tasks.size = active.size := by
  rw [derive_stored_tasks, ← Buddy.derive_model_size active replica]
  exact List.length_map _

theorem bijOn_standbyEntry :
    Set.BijOn (fun task : Task => task.standbyEntry replica)
      {task | task ∈ active.tasks.toList}
      {entry | entry ∈ (active.stored.derive replica).tasks.toList} := by
  rw [derive_stored_tasks]
  refine ⟨?_, active.tasks.injOn_standbyEntry replica, ?_⟩
  · intro task member
    refine List.mem_map.mpr ⟨task.standby replica, ?_, ?_⟩
    · exact Buddy.mem_derive_tasks_iff.mpr ⟨task, member, rfl⟩
    · exact (task.standbyEntry_eq replica).symm
  · intro entry stored
    obtain ⟨copy, copyMember, rfl⟩ := List.mem_map.mp stored
    obtain ⟨task, member, rfl⟩ := Buddy.mem_derive_tasks_iff.mp copyMember
    exact ⟨task, member, task.standbyEntry_eq replica⟩

end Container

/-- A derivation succeeds for every container and index, and stores one standby
for each task, under a name of its own.  No two buddy ids and no two standby
names have the same text, and a standby name is no name without the mark. -/
theorem derivation_loses_nothing :
    (∀ (active : Container) (replica : UInt32),
      (active.stored.derive replica).check =
          .ok (Buddy.derive active replica).model ∧
        (Buddy.derive active replica).model.size = active.size ∧
        (active.stored.derive replica).tasks.size = active.size ∧
        Set.BijOn (fun task : Task => task.standbyEntry replica)
          {task | task ∈ active.tasks.toList}
          {entry | entry ∈ (active.stored.derive replica).tasks.toList}) ∧
    (∀ (leftBase rightBase : String) (leftReplica rightReplica : UInt32),
      leftBase ++ "-" ++ Decimal.text leftReplica.toNat =
          rightBase ++ "-" ++ Decimal.text rightReplica.toNat →
        leftBase = rightBase ∧ leftReplica = rightReplica) ∧
    (∀ (leftBase rightBase : String) (leftReplica rightReplica : UInt32),
      "Standby " ++ leftBase ++ "-" ++ Decimal.text leftReplica.toNat =
          "Standby " ++ rightBase ++ "-" ++ Decimal.text rightReplica.toNat →
        leftBase = rightBase ∧ leftReplica = rightReplica) ∧
    Function.Injective BuddyId.text ∧
    Function.Injective StandbyName.text ∧
    ∀ (name : StandbyName) (other : TaskName),
      isReserved other = false → name.text ≠ other := by
  refine ⟨?_, ?_, ?_, BuddyId.text_injective, StandbyName.text_injective, ?_⟩
  · intro active replica
    exact ⟨active.check_derive_stored replica,
      Buddy.derive_model_size active replica,
      active.size_derive_stored replica, active.bijOn_standbyEntry replica⟩
  · intro leftBase rightBase leftReplica rightReplica same
    exact ReplicaText.render_injective same
  · intro leftBase rightBase leftReplica rightReplica same
    rw [← StandbyName.text_eq, ← StandbyName.text_eq] at same
    exact StandbyName.mk.inj (StandbyName.text_injective same)
  · intro name other unreserved same
    have reserved := name.isReserved_text
    rw [same, unreserved] at reserved
    contradiction

namespace Sample

def punctuated : Container :=
  ⟨"7-5", .ofList [.active "a" [partition 0] 1, .active "a!" [] 2,
    (Task.active "b" [partition 3] 3).standbyCopy "Standby a-0"]⟩

theorem derivation_loses_nothing_punctuated :
    punctuated.tasks.keys = ["Standby a-0", "a", "a!"] ∧
      (punctuated.stored.derive 0).check =
        .ok (Buddy.derive punctuated 0).model ∧
      (punctuated.stored.derive 0).tasks.keys =
        ["Standby Standby a-0-0", "Standby a!-0", "Standby a-0"] ∧
      (punctuated.stored.derive 0).tasks.size = 3 ∧
      BuddyId.text ⟨"7-5", 0⟩ ≠ BuddyId.text ⟨"7", 50⟩ ∧
      StandbyName.text ⟨"a", 0⟩ ≠ "a!" := by
  obtain ⟨derives, _, _, ids, _, unreserved⟩ := derivation_loses_nothing
  obtain ⟨succeeds, _, size, _⟩ := derives punctuated 0
  have three : punctuated.size = 3 := by decide +kernel
  have distinct : (⟨"7-5", 0⟩ : BuddyId) ≠ ⟨"7", 50⟩ := by decide
  exact ⟨by decide +kernel, succeeds, by decide +kernel, size.trans three,
    fun same => distinct (ids same), unreserved _ _ (by decide +kernel)⟩

end Sample

end WarmStandby
