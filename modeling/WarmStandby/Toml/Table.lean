/-!
# TOML tables

The tables of a document grow statement by statement.  A table is opened by a
header of its own, or comes about because a deeper header or a dotted key passes
through it; how it came about decides what may be added to it later.
-/

set_option autoImplicit false

namespace WarmStandby.Toml

inductive Origin where
  | header
  | implied
  | dotted
deriving DecidableEq, Repr

/-- What stands under a key: a closed value, of which only an integer is kept, a
table, or a list of tables, of which only the last can still grow. -/
inductive Item where
  | value (number : Option Int)
  | table (origin : Origin) (members : List (String × Item))
  | tables (last : List (String × Item))

abbrev Members : Type := List (String × Item)

namespace Members

def put (members : Members) (key : String) (item : Item) : Members :=
  match members with
  | [] => [(key, item)]
  | (other, old) :: rest =>
      if other = key then (key, item) :: rest
      else (other, old) :: put rest key item

/-- Adds a value under a dotted key.  The tables on the way have to be new, or
dotted keys must have made them; a last key must not be taken. -/
def assign (item : Item) : List String → Members → Option Members
  | [], _ => none
  | [key], members =>
      match members.lookup key with
      | none => some (put members key item)
      | some _ => none
  | key :: rest, members =>
      match members.lookup key with
      | none =>
          (assign item rest []).map
            (fun inner => put members key (.table .dotted inner))
      | some (.table .dotted inner) =>
          (assign item rest inner).map
            (fun inner => put members key (.table .dotted inner))
      | some (.table .implied inner) =>
          if rest.length = 1 then none
          else
            (assign item rest inner).map
              (fun inner => put members key (.table .implied inner))
      | some (.tables last) =>
          if rest.length = 1 then none
          else
            (assign item rest last).map
              (fun last => put members key (.tables last))
      | some _ => none

def openTable (inList : Bool) : List String → Members → Option Members
  | [], _ => none
  | [key], members =>
      match inList, members.lookup key with
      | true, none => some (put members key (.tables []))
      | true, some (.tables _) => some (put members key (.tables []))
      | false, none => some (put members key (.table .header []))
      | false, some (.table .implied inner) =>
          some (put members key (.table .header inner))
      | _, _ => none
  | key :: rest, members =>
      match members.lookup key with
      | none =>
          (openTable inList rest []).map
            (fun inner => put members key (.table .implied inner))
      | some (.table origin inner) =>
          (openTable inList rest inner).map
            (fun inner => put members key (.table origin inner))
      | some (.tables last) =>
          (openTable inList rest last).map
            (fun last => put members key (.tables last))
      | some (.value _) => none

def update (change : Members → Option Members) :
    List String → Members → Option Members
  | [], members => change members
  | key :: rest, members =>
      match members.lookup key with
      | some (.table origin inner) =>
          (update change rest inner).map
            (fun inner => put members key (.table origin inner))
      | some (.tables last) =>
          (update change rest last).map
            (fun last => put members key (.tables last))
      | _ => none

end Members

end WarmStandby.Toml
