import WarmStandby.Proofs.ReplicaNames
import WarmStandby.Proofs.RosterLaws
import WarmStandby.Replication

/-!
# What a buddy holds

The names of the standbys in a buddy come in an order of their own, but each
task of the active container has one standby, since distinct names have distinct
standby names.
-/

set_option autoImplicit false

namespace WarmStandby

def Task.standby (task : Task) (replica : UInt32) : Task :=
  task.standbyCopy (StandbyName.text ⟨task.name, replica⟩)

@[simp]
theorem Task.standby_name (task : Task) (replica : UInt32) :
    (task.standby replica).name = StandbyName.text ⟨task.name, replica⟩ := rfl

theorem TaskRoster.nodup_standby_names (tasks : TaskRoster)
    (replica : UInt32) :
    ((tasks.toList.map (fun task => task.standby replica)).map
      Task.name).Nodup := by
  rw [List.map_map]
  refine List.Nodup.map_on ?_ tasks.nodup_toList
  intro left leftMember right rightMember same
  have sameName :
      (⟨left.name, replica⟩ : StandbyName) = ⟨right.name, replica⟩ :=
    StandbyName.text_injective same
  exact tasks.eq_of_key_eq leftMember rightMember
    (congrArg StandbyName.active sameName)

/-- A buddy holds one standby of every task. -/
theorem TaskRoster.toList_replicate_perm (tasks : TaskRoster)
    (replica : UInt32) :
    (tasks.replicate replica).toList.Perm
      (tasks.toList.map (fun task => task.standby replica)) :=
  Roster.toList_ofList_perm (tasks.nodup_standby_names replica)

namespace Buddy

@[simp]
theorem derive_id (active : Container) (replica : UInt32) :
    (derive active replica).id = ⟨active.id, replica⟩ := rfl

@[simp]
theorem derive_model_id (active : Container) (replica : UInt32) :
    (derive active replica).model.id = BuddyId.text ⟨active.id, replica⟩ := rfl

theorem derive_model_size (source : Container) (replica : UInt32) :
    (derive source replica).model.size = source.size := by
  have copied := TaskRoster.toList_replicate_perm source.tasks replica
  have length := copied.length_eq
  rw [List.length_map] at length
  exact length

theorem derive_countP_standby (source : Container) (replica : UInt32) :
    (derive source replica).model.tasks.toList.countP
        (fun task => task.role.isStandby) = source.size := by
  have copied := TaskRoster.toList_replicate_perm source.tasks replica
  have counted := copied.countP_eq (fun task => task.role.isStandby)
  rw [List.countP_map] at counted
  refine counted.trans (List.countP_eq_length.mpr ?_)
  intro task _
  rfl

theorem mem_derive_tasks_iff {active : Container} {replica : UInt32}
    {task : Task} :
    task ∈ (derive active replica).model.tasks.toList ↔
      ∃ source ∈ active.tasks.toList, source.standby replica = task := by
  rw [derive, (TaskRoster.toList_replicate_perm _ _).mem_iff, List.mem_map]

theorem mem_derive_names_iff {active : Container} {replica : UInt32}
    {name : TaskName} :
    name ∈ (derive active replica).model.tasks.keys ↔
      ∃ source ∈ active.tasks.keys,
        StandbyName.text ⟨source, replica⟩ = name := by
  simp only [Roster.mem_keys_iff, mem_derive_tasks_iff]
  constructor
  · intro held
    obtain ⟨task, ⟨source, member, copied⟩, named⟩ := held
    rw [← named, ← copied]
    exact ⟨source.name, ⟨source, member, rfl⟩, rfl⟩
  · intro held
    obtain ⟨sourceName, ⟨source, member, sourceNamed⟩, named⟩ := held
    rw [← named, ← sourceNamed]
    exact ⟨source.standby replica, ⟨source, member, rfl⟩, rfl⟩

end Buddy

end WarmStandby
