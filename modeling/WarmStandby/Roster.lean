/-!
# Rosters

A roster lists records in strictly ascending order of a key that every record
carries itself, so each key occurs at most once and a roster is determined by
the records it holds.  Layouts, task lists, partition sets and owner tables are
all rosters; they differ only in what the key of a record is.
-/

set_option autoImplicit false

namespace WarmStandby

universe u v

structure Roster {Key : Type u} {Record : Type v} [Ord Key]
    (key : Record → Key) where
  toList : List Record
  ascending : toList.Pairwise
    (fun left right => compare (key left) (key right) = .lt)

namespace Roster

variable {Key : Type u} {Record : Type v} [Ord Key] {key : Record → Key}

theorem ext {left right : Roster key} (same : left.toList = right.toList) :
    left = right := by
  cases left
  cases right
  cases same
  rfl

instance [DecidableEq Record] : DecidableEq (Roster key) := fun left right =>
  if same : left.toList = right.toList then
    isTrue (ext same)
  else
    isFalse (fun equal => same (equal ▸ rfl))

def empty : Roster key := ⟨[], .nil⟩

instance : Inhabited (Roster key) := ⟨empty⟩

def size (roster : Roster key) : Nat := roster.toList.length

def isEmpty (roster : Roster key) : Bool := roster.toList.isEmpty

def keys (roster : Roster key) : List Key := roster.toList.map key

def get? (roster : Roster key) (wanted : Key) : Option Record :=
  roster.toList.find? (fun record => compare (key record) wanted == .eq)

def contains (roster : Roster key) (wanted : Key) : Bool :=
  (roster.get? wanted).isSome

def filter (roster : Roster key) (keep : Record → Bool) : Roster key :=
  ⟨roster.toList.filter keep, roster.ascending.filter keep⟩

/-! ## Insertion -/

/-- Puts a record at its place in an ascending list; a record of the same key
gives way. -/
def place (key : Record → Key) (record : Record) : List Record → List Record
  | [] => [record]
  | head :: tail =>
      match compare (key record) (key head) with
      | .lt => record :: head :: tail
      | .eq => record :: tail
      | .gt => head :: place key record tail

theorem mem_place {record other : Record} {records : List Record}
    (member : other ∈ place key record records) :
    other = record ∨ other ∈ records := by
  induction records with
  | nil => exact .inl (List.mem_singleton.mp member)
  | cons head tail inductionHypothesis =>
      rw [place] at member
      split at member
      · exact List.mem_cons.mp member
      · exact (List.mem_cons.mp member).imp_right (List.mem_cons_of_mem head)
      · rcases List.mem_cons.mp member with isHead | inTail
        · exact .inr (isHead ▸ List.mem_cons_self)
        · exact (inductionHypothesis inTail).imp_right
            (List.mem_cons_of_mem head)

theorem place_ascending [Std.TransOrd Key] (record : Record) :
    ∀ {records : List Record},
      records.Pairwise (fun left right => compare (key left) (key right) = .lt) →
      (place key record records).Pairwise
        (fun left right => compare (key left) (key right) = .lt) := by
  intro records
  induction records with
  | nil =>
      intro _ascending
      exact List.pairwise_singleton _ _
  | cons head tail inductionHypothesis =>
      intro ascending
      obtain ⟨headBelow, tailAscending⟩ := List.pairwise_cons.mp ascending
      rw [place]
      split
      · rename_i before
        refine List.pairwise_cons.mpr ⟨?_, ascending⟩
        intro other member
        rcases List.mem_cons.mp member with isHead | inTail
        · exact isHead ▸ before
        · exact Std.TransCmp.lt_trans before (headBelow other inTail)
      · rename_i same
        refine List.pairwise_cons.mpr ⟨?_, tailAscending⟩
        intro other member
        exact Std.TransCmp.lt_of_eq_of_lt same (headBelow other member)
      · rename_i after
        refine List.pairwise_cons.mpr ⟨?_, inductionHypothesis tailAscending⟩
        intro other member
        rcases mem_place member with isRecord | inTail
        · exact isRecord ▸ Std.OrientedCmp.lt_of_gt after
        · exact headBelow other inTail

variable [Std.TransOrd Key]

def insert (roster : Roster key) (record : Record) : Roster key :=
  ⟨place key record roster.toList, place_ascending record roster.ascending⟩

/-- The roster with `record` in it, beside the record that gave way. -/
def exchange (roster : Roster key) (record : Record) :
    Option Record × Roster key :=
  (roster.get? (key record), roster.insert record)

def insertNew? (roster : Roster key) (record : Record) : Option (Roster key) :=
  if roster.contains (key record) then none else some (roster.insert record)

/-- To look for the key first, or afterwards for a record that gave way, is one
and the same test. -/
theorem insertNew?_eq_exchange (roster : Roster key) (record : Record) :
    roster.insertNew? record =
      match roster.exchange record with
      | (some _, _) => none
      | (none, next) => some next := by
  rw [insertNew?, contains, exchange]
  cases roster.get? (key record) with
  | some _ => rfl
  | none => rfl

/-- The roster of a list of records; of several with one key the last stays. -/
def ofList (records : List Record) : Roster key :=
  records.foldl insert empty

end Roster

/-! ## Entries under keys of their own -/

/-- Records listed under string keys that need not agree with the records. -/
abbrev Entries (Record : Type v) : Type v :=
  Roster (Prod.fst : String × Record → String)

namespace Entries

variable {Record : Type v}

def mismatch? (entries : Entries Record) (key : Record → String) :
    Option (String × Record) :=
  entries.toList.find? (fun entry => entry.1 != key entry.2)

def records (entries : Entries Record) (key : Record → String) : Roster key :=
  .ofList (entries.toList.map Prod.snd)

end Entries

end WarmStandby
