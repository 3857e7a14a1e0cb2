import WarmStandby.Proofs.BuddyDerivation
import WarmStandby.Proofs.ByteOrder
import WarmStandby.Proofs.MergeCollisions

/-!
# What a collision report says

A report has two sides: what was derived, and from what; what is there already,
and who holds it.  The task behind a derived name is found by reading the name
back, and the holder of an existing name is looked up in the table of owners.
After any pushes both are right: names of standbys are read back as they were
derived, and an owner holds the names that are listed for it.
-/

set_option autoImplicit false

namespace WarmStandby

namespace Layout

/-- The name is one that a buddy of `source` brings, and a container of the
layout holds a task of that name. -/
structure TakesName (layout : Layout) (source : Container) (replica : UInt32)
    (name : TaskName) : Prop where
  derived : ∃ task ∈ source.tasks.keys,
    name = "Standby " ++ task ++ "-" ++ Decimal.text replica.toNat
  held : ∃ container ∈ layout.toList, name ∈ container.tasks.keys

/-- A report of a buddy of `source` that is true of both sides: its id, if the
layout has it, and otherwise the least of its task names that the layout
takes. -/
inductive TrueReport (layout : Layout) (source : Container)
    (replica : UInt32) : Collision → Prop
  | id {id : ContainerId}
      (derived : id = source.id ++ "-" ++ Decimal.text replica.toNat)
      (taken : id ∈ layout.ids) :
      TrueReport layout source replica
        { kind := .container
          derived := id
          derivedFrom := source.id
          replica := replica
          existing := id
          existingOwner := id }
  | name {task name : TaskName} {owner : Container}
      (fresh : source.id ++ "-" ++ Decimal.text replica.toNat ∉ layout.ids)
      (isTask : task ∈ source.tasks.keys)
      (derived :
        name = "Standby " ++ task ++ "-" ++ Decimal.text replica.toNat)
      (isThere : owner ∈ layout.toList)
      (held : name ∈ owner.tasks.keys)
      (least : ∀ other, layout.TakesName source replica other →
        other = name ∨ Text.bytes name < Text.bytes other) :
      TrueReport layout source replica
        { kind := .task
          derived := name
          derivedFrom := task
          replica := replica
          existing := name
          existingOwner := owner.id }

end Layout

/-! ## The derived side -/

namespace Buddy

variable {source : Container} {replica : UInt32} {name : TaskName}

theorem mem_derive_names_iff_written :
    name ∈ (derive source replica).model.tasks.keys ↔
      ∃ task ∈ source.tasks.keys,
        name = "Standby " ++ task ++ "-" ++ Decimal.text replica.toNat := by
  simp only [mem_derive_names_iff, StandbyName.text_eq, eq_comm]

theorem derivedFrom_of_brought
    (brought : name ∈ (derive source replica).model.tasks.keys) :
    ∃ task ∈ source.tasks.keys,
      name = "Standby " ++ task ++ "-" ++ Decimal.text replica.toNat ∧
        StandbyName.parse? name = some ⟨task, replica⟩ ∧
        Merge.derivedFrom name = task := by
  obtain ⟨task, isTask, rfl⟩ := mem_derive_names_iff.mp brought
  have read := StandbyName.parse?_text ⟨task, replica⟩
  refine ⟨task, isTask, StandbyName.text_eq task replica, read, ?_⟩
  rw [Merge.derivedFrom, read]

end Buddy

/-! ## Both sides -/

namespace Merge

section Reports

variable {active : Layout} {taken : List Buddy} {merge : Merge}
variable {source : Container} {replica : UInt32}

theorem Consistent.trueReport (consistent : merge.Consistent active taken)
    {collision : Collision}
    (found : merge.collision? (.derive source replica) = some collision) :
    merge.layout.TrueReport source replica collision := by
  have sameContainers : ∀ container : Container,
      container ∈ active.toList ++ taken.map Buddy.model ↔
        container ∈ merge.layout.toList := fun _ =>
    consistent.containers.mem_iff.symm
  cases consistent.reported found with
  | id taken =>
      obtain ⟨container, member, sameId⟩ := taken
      refine .id rfl (Roster.mem_keys_iff.mpr ⟨container, ?_, sameId⟩)
      exact (sameContainers container).mp member
  | @name name owner fresh offered owned least =>
      obtain ⟨task, isTask, written, _, reported⟩ :=
        Buddy.derivedFrom_of_brought offered
      obtain ⟨holder, member, rfl, held⟩ := owned.holds
      rw [reported]
      refine .name ?_ isTask written ((sameContainers holder).mp member) held ?_
      · intro known
        obtain ⟨container, isThere, sameId⟩ := Roster.mem_keys_iff.mp known
        exact fresh container ((sameContainers container).mpr isThere) sameId
      · intro other takes
        obtain ⟨container, isThere, otherHeld⟩ := takes.held
        have notBelow := least other
          (Buddy.mem_derive_names_iff_written.mpr takes.derived)
          ⟨container, (sameContainers container).mpr isThere, otherHeld⟩
        rcases Std.le_iff_lt_or_eq.mp notBelow with below | same
        · exact .inr (Text.lt_iff_bytes_lt.mp below)
        · exact .inl same.symm

theorem Consistent.exists_collision_of_takesName
    (consistent : merge.Consistent active taken) {name : TaskName}
    (takes : merge.layout.TakesName source replica name) :
    ∃ collision,
      merge.collision? (.derive source replica) = some collision := by
  apply Option.ne_none_iff_exists'.mp
  intro free
  obtain ⟨container, member, held⟩ := takes.held
  have apart := consistent.toHolds.collision?_eq_none_iff.mp free
  exact (apart container member).2 name held
    (Buddy.mem_derive_names_iff_written.mpr takes.derived)

end Reports

theorem push_eq_error_iff {merge : Merge} {buddy : Buddy}
    {fault : GenerationFault} :
    (merge.push buddy).1 = .error fault ↔
      ∃ collision, merge.collision? buddy = some collision ∧
        fault = .namingCollision collision := by
  rcases merge.push_cases buddy with ⟨collision, found, refused⟩ | ⟨free, taken⟩
  · simp [found, refused, eq_comm]
  · simp [free, taken]

end Merge

/-! ## What is reported, and when -/

section Kinds

variable {merge : Merge} {source : Container} {replica : UInt32}
variable {collision : Collision}

theorem Layout.TrueReport.taken_of_container {layout : Layout}
    (report : layout.TrueReport source replica collision)
    (ofContainer : collision.kind = .container) :
    source.id ++ "-" ++ Decimal.text replica.toNat ∈ layout.ids := by
  cases report with
  | id derived taken => exact derived ▸ taken
  | name _ _ _ _ _ _ => contradiction

theorem Layout.TrueReport.takes_of_task {layout : Layout}
    (report : layout.TrueReport source replica collision)
    (ofTask : collision.kind = .task) :
    source.id ++ "-" ++ Decimal.text replica.toNat ∉ layout.ids ∧
      layout.TakesName source replica collision.derived := by
  cases report with
  | id _ _ => contradiction
  | name fresh isTask derived isThere held _ =>
      exact ⟨fresh, ⟨_, isTask, derived⟩, ⟨_, isThere, held⟩⟩

end Kinds

namespace Merge

section Verdicts

variable {active : Layout} {taken : List Buddy} {merge : Merge}
variable {source : Container} {replica : UInt32}

theorem Consistent.exists_trueReport
    (consistent : merge.Consistent active taken) {fault : GenerationFault}
    (refused : (merge.push (.derive source replica)).1 = .error fault) :
    ∃ collision, fault = .namingCollision collision ∧
      merge.layout.TrueReport source replica collision := by
  obtain ⟨collision, found, isCollision⟩ := push_eq_error_iff.mp refused
  exact ⟨collision, isCollision, consistent.trueReport found⟩

theorem Consistent.trueReport_of_push
    (consistent : merge.Consistent active taken) {collision : Collision}
    (refused : (merge.push (.derive source replica)).1 =
      .error (.namingCollision collision)) :
    merge.layout.TrueReport source replica collision := by
  obtain ⟨other, same, report⟩ := consistent.exists_trueReport refused
  cases same
  exact report

theorem Consistent.refused_for_id_iff
    (consistent : merge.Consistent active taken) :
    (∃ collision, (merge.push (.derive source replica)).1 =
        .error (.namingCollision collision) ∧ collision.kind = .container) ↔
      source.id ++ "-" ++ Decimal.text replica.toNat ∈ merge.layout.ids := by
  constructor
  · rintro ⟨collision, refused, ofContainer⟩
    have report := consistent.trueReport_of_push refused
    exact report.taken_of_container ofContainer
  · intro taken
    have found : merge.collision? (.derive source replica) = some _ :=
      collision?_of_id_mem taken
    exact ⟨_, push_eq_error_iff.mpr ⟨_, found, rfl⟩, rfl⟩

theorem Consistent.refused_for_name_iff
    (consistent : merge.Consistent active taken) :
    (∃ collision, (merge.push (.derive source replica)).1 =
        .error (.namingCollision collision) ∧ collision.kind = .task) ↔
      source.id ++ "-" ++ Decimal.text replica.toNat ∉ merge.layout.ids ∧
        ∃ name, merge.layout.TakesName source replica name := by
  constructor
  · rintro ⟨collision, refused, ofTask⟩
    have report := consistent.trueReport_of_push refused
    obtain ⟨fresh, takes⟩ := report.takes_of_task ofTask
    exact ⟨fresh, collision.derived, takes⟩
  · rintro ⟨fresh, name, takes⟩
    obtain ⟨collision, found⟩ := consistent.exists_collision_of_takesName takes
    refine ⟨collision, push_eq_error_iff.mpr ⟨collision, found, rfl⟩, ?_⟩
    cases kind : collision.kind with
    | task => rfl
    | container =>
        have report := consistent.trueReport found
        exact absurd (report.taken_of_container kind) fresh

end Verdicts

/-- After any pushes a buddy is refused for its id just if the layout has it,
and otherwise for a task name just if the layout takes one.  The report is true
of both sides, and the names of the buddy are all read back as tasks of its
source. -/
theorem collision_reports_true (active : Layout) (buddies : List Buddy)
    (source : Container) (replica : UInt32) :
    let merge := (start active).pushAll buddies
    let verdict := (merge.push (.derive source replica)).1
    let id := source.id ++ "-" ++ Decimal.text replica.toNat
    ((∃ collision, verdict = .error (.namingCollision collision) ∧
        collision.kind = .container) ↔
      id ∈ merge.layout.ids) ∧
    ((∃ collision, verdict = .error (.namingCollision collision) ∧
        collision.kind = .task) ↔
      id ∉ merge.layout.ids ∧
        ∃ name, merge.layout.TakesName source replica name) ∧
    (∀ fault, verdict = .error fault →
      ∃ collision, fault = .namingCollision collision ∧
        merge.layout.TrueReport source replica collision) ∧
    (∀ name ∈ (Buddy.derive source replica).model.tasks.keys,
      ∃ task ∈ source.tasks.keys,
        StandbyName.parse? name = some ⟨task, replica⟩) := by
  intro merge verdict id
  have consistent := (start_consistent active).pushAll buddies
  refine ⟨consistent.refused_for_id_iff, consistent.refused_for_name_iff,
    fun _ refused => consistent.exists_trueReport refused, ?_⟩
  intro name brought
  obtain ⟨task, isTask, _, read, _⟩ := Buddy.derivedFrom_of_brought brought
  exact ⟨task, isTask, read⟩

end Merge

namespace Sample

def backed : Container :=
  ⟨"0", .ofList [.active "a" [] 0, .active "b" [] 1]⟩

def squatted : Layout :=
  .ofList [backed, ⟨"q", .ofList [.active "Standby b-0" [] 2]⟩]

theorem collision_reports_true_squatted :
    ∃ collision,
      (((Merge.start squatted).pushAll [.derive stray 0]).push
        (.derive backed 0)).1 = .error (.namingCollision collision) ∧
      collision.kind = .task ∧ collision.derived = "Standby a-0" ∧
      ((Merge.start squatted).pushAll [.derive stray 0]).layout.TrueReport
        backed 0 collision := by
  obtain ⟨_, ofTask, reported, _⟩ :=
    Merge.collision_reports_true squatted [.derive stray 0] backed 0
  have fresh : backed.id ++ "-" ++ Decimal.text 0 ∉
      ((Merge.start squatted).pushAll [.derive stray 0]).layout.ids := by
    decide +kernel
  have takes : ((Merge.start squatted).pushAll
      [.derive stray 0]).layout.TakesName backed 0 "Standby a-0" :=
    ⟨by decide +kernel, by decide +kernel⟩
  obtain ⟨collision, refused, isTask⟩ := ofTask.mpr ⟨fresh, _, takes⟩
  obtain ⟨_, same, report⟩ := reported _ refused
  cases same
  refine ⟨collision, refused, isTask, ?_, report⟩
  have tasks : backed.tasks.keys = ["a", "b"] := by decide +kernel
  cases report with
  | id _ _ => cases isTask
  | name _ ofSource derived _ _ least =>
      rw [tasks] at ofSource
      simp only [List.mem_cons, List.not_mem_nil, or_false] at ofSource
      rcases ofSource with rfl | rfl
      · exact derived.trans (by decide +kernel)
      · rw [derived] at least
        rcases least _ takes with same | below
        · exact absurd same (by decide +kernel)
        · exact absurd below (by decide +kernel)

end Sample

end WarmStandby
