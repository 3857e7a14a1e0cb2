import WarmStandby.Proofs.WireScalars
import WarmStandby.Wire.Decode

/-!
# Lists and objects are read back

Brackets are read item by item, in the order in which the items were written.
The line breaks of the indented style are white space to the reader, so both
styles are read alike.  A list is read if each of its items is.  An object is
read if its members lead, one after another, from the state before them to the
state behind them.
-/

set_option autoImplicit false

namespace WarmStandby.Wire

universe u v

/-! ## Texts of items -/

/-- What stands behind an item `depth` brackets deep: the further items, the
closing bracket, and the text after it. -/
def behindItem (closing : Char) (items : List Writer) (style : Style)
    (depth : Nat) (rest : List Char) : List Char :=
  items.flatMap (fun item =>
      ',' :: (style.lineBreak (depth + 1) ++ item style (depth + 1)))
    ++ (style.lineBreak depth ++ closing :: rest)

theorem behindItem_cons (closing : Char) (item : Writer) (items : List Writer)
    (style : Style) (depth : Nat) (rest : List Char) :
    behindItem closing (item :: items) style depth rest =
      ',' :: (style.lineBreak (depth + 1) ++ (item style (depth + 1)
        ++ behindItem closing items style depth rest)) := by
  simp [behindItem]

def insideBrackets (closing : Char) (items : List Writer) (style : Style)
    (depth : Nat) (rest : List Char) : List Char :=
  match items with
  | [] => closing :: rest
  | first :: items =>
      style.lineBreak (depth + 1) ++ (first style (depth + 1)
        ++ behindItem closing items style depth rest)

theorem writeItems_append (opening closing : Char) (items : List Writer)
    (style : Style) (depth : Nat) (rest : List Char) :
    writeItems opening closing items style depth ++ rest =
      opening :: insideBrackets closing items style depth rest := by
  cases items with
  | nil => rfl
  | cons first items => simp [writeItems, insideBrackets, behindItem]

theorem writeItems_opens (opening closing : Char) (items : List Writer)
    (style : Style) (depth : Nat) :
    writeItems opening closing items style depth =
      opening :: insideBrackets closing items style depth [] := by
  rw [← writeItems_append, List.append_nil]

theorem length_lt_behindItem (closing : Char) (items : List Writer)
    (style : Style) (depth : Nat) (rest : List Char) :
    items.length < (behindItem closing items style depth rest).length := by
  induction items with
  | nil =>
      simp only [behindItem, List.length_append, List.length_cons,
        List.length_nil]
      omega
  | cons item items inductionHypothesis =>
      rw [behindItem_cons]
      simp only [List.length_cons, List.length_append]
      omega

/-- Every item and the closing bracket take a character at least, so the length
of the text is fuel enough. -/
theorem length_le_insideBrackets (closing : Char) (items : List Writer)
    (style : Style) (depth : Nat) (rest : List Char) :
    items.length ≤ (insideBrackets closing items style depth rest).length := by
  cases items with
  | nil => exact Nat.zero_le _
  | cons first items =>
      have shorter := length_lt_behindItem closing items style depth rest
      simp only [insideBrackets, List.length_cons, List.length_append]
      omega

theorem behindItem_endsNumber {closing : Char}
    (bracket : closing ∈ [']', '\x7d']) (items : List Writer) (style : Style)
    (depth : Nat) (rest : List Char) :
    EndsNumber (behindItem closing items style depth rest) := by
  cases items with
  | cons item items =>
      rw [behindItem_cons]
      exact endsNumber_cons (by decide) _
  | nil =>
      cases style with
      | compact =>
          exact endsNumber_cons
            (List.mem_append_right [' ', '\n', '\r', '\t', ','] bracket) _
      | indented => exact endsNumber_cons (by decide) _

/-! ## Lists -/

theorem nextItem_closed {space : List Char} (blank : Blank space)
    (first : Bool) (rest : List Char) :
    nextItem first (space ++ ']' :: rest) = .ok (.closed rest) := by
  have unspaced : skipSpace (']' :: rest) = ']' :: rest := skipSpace_cons rfl _
  simp [nextItem, skipSpace_append blank, unspaced]

theorem nextItem_first {character : Char}
    (opens : opensValue character = true) {space : List Char}
    (blank : Blank space) (rest : List Char) :
    nextItem true (space ++ character :: rest) =
      .ok (.item (character :: rest)) := by
  obtain ⟨solid, notClosing, notComma⟩ := opensValue_iff.mp opens
  simp [nextItem, skipSpace_append blank, skipSpace_cons solid, notClosing,
    notComma]

theorem nextItem_next {character : Char}
    (opens : opensValue character = true) {space : List Char}
    (blank : Blank space) (rest : List Char) :
    nextItem false (',' :: (space ++ character :: rest)) =
      .ok (.item (character :: rest)) := by
  have comma : skipSpace (',' :: (space ++ character :: rest)) =
      ',' :: (space ++ character :: rest) :=
    skipSpace_cons rfl _
  obtain ⟨solid, notClosing, _⟩ := opensValue_iff.mp opens
  simp [nextItem, comma, skipSpace_append blank, skipSpace_cons solid,
    notClosing]

section Lists

variable {Item : Type u} {Value : Type v} {reader : Reader Value}
  {writer : Item → Writer} {value : Item → Value}

theorem readItems_item {item : Item}
    (takes : reader.Takes (writer item) (value item)) {first : Bool}
    {style : Style} {depth : Nat} {text behind : List Char}
    (step : nextItem first text = .ok (.item (writer item style depth ++ behind)))
    (ends : EndsNumber behind) (fuel : Nat) :
    readItems reader (fuel + 1) first text =
      (readItems reader fuel false behind).map
        (fun (values, rest) => (value item :: values, rest)) := by
  rw [readItems, step]
  simp only [takes.readsUnspaced style depth ends]
  cases readItems reader fuel false behind <;> rfl

theorem readItems_behindItem {items : List Item}
    (each : ∀ item ∈ items, reader.Takes (writer item) (value item))
    (style : Style) (depth : Nat) (rest : List Char) {fuel : Nat}
    (enough : items.length ≤ fuel) :
    readItems reader (fuel + 1) false
        (behindItem ']' (items.map writer) style depth rest) =
      .ok (items.map value, rest) := by
  induction items generalizing fuel with
  | nil =>
      have closed := nextItem_closed (style.lineBreak_blank depth) false rest
      simp [readItems, behindItem, closed]
  | cons item items inductionHypothesis =>
      obtain ⟨fuel, rfl⟩ := Nat.exists_eq_add_one_of_ne_zero
        (Nat.ne_zero_of_lt enough)
      obtain ⟨takes, others⟩ := List.forall_mem_cons.mp each
      obtain ⟨first, written, begins, opens⟩ := takes.opens style (depth + 1)
      have step : nextItem false
          (behindItem ']' ((item :: items).map writer) style depth rest) =
          .ok (.item (writer item style (depth + 1) ++
            behindItem ']' (items.map writer) style depth rest)) := by
        rw [List.map_cons, behindItem_cons, begins]
        exact nextItem_next opens (style.lineBreak_blank _) _
      have ends : EndsNumber
          (behindItem ']' (items.map writer) style depth rest) :=
        behindItem_endsNumber (by decide) _ _ _ _
      rw [readItems_item takes step ends,
        inductionHypothesis others (Nat.le_of_succ_le_succ enough)]
      rfl

theorem readItems_insideBrackets {items : List Item}
    (each : ∀ item ∈ items, reader.Takes (writer item) (value item))
    (style : Style) (depth : Nat) (rest : List Char) {fuel : Nat}
    (enough : items.length ≤ fuel) :
    readItems reader (fuel + 1) true
        (insideBrackets ']' (items.map writer) style depth rest) =
      .ok (items.map value, rest) := by
  cases items with
  | nil =>
      have closed : nextItem true (']' :: rest) = .ok (.closed rest) :=
        nextItem_closed blank_nil true rest
      simp [readItems, insideBrackets, closed]
  | cons item items =>
      obtain ⟨fuel, rfl⟩ := Nat.exists_eq_add_one_of_ne_zero
        (Nat.ne_zero_of_lt enough)
      obtain ⟨takes, others⟩ := List.forall_mem_cons.mp each
      obtain ⟨first, written, begins, opens⟩ := takes.opens style (depth + 1)
      have step : nextItem true
          (insideBrackets ']' ((item :: items).map writer) style depth rest) =
          .ok (.item (writer item style (depth + 1) ++
            behindItem ']' (items.map writer) style depth rest)) := by
        rw [List.map_cons, insideBrackets, begins]
        exact nextItem_first opens (style.lineBreak_blank _) _
      have ends : EndsNumber
          (behindItem ']' (items.map writer) style depth rest) :=
        behindItem_endsNumber (by decide) _ _ _ _
      rw [readItems_item takes step ends, readItems_behindItem others style
        depth rest (Nat.le_of_succ_le_succ enough)]
      rfl

theorem readList_takes {items : List Item}
    (each : ∀ item ∈ items, reader.Takes (writer item) (value item)) :
    Reader.Takes (readList reader) (writeList (items.map writer))
      (items.map value) where
  opens _ _ := ⟨'[', _, writeItems_opens _ _ _ _ _, rfl⟩
  reads style depth space rest blank _ := by
    rw [writeList, writeItems_append, readList, skipSpace_append blank,
      skipSpace_cons rfl]
    apply readItems_insideBrackets each
    have shorter := length_le_insideBrackets ']' (items.map writer) style depth
      rest
    rw [List.length_map] at shorter
    exact shorter

end Lists

/-! ## Objects -/

theorem nextKey_closed {space : List Char} (blank : Blank space)
    (first : Bool) (rest : List Char) :
    nextKey first (space ++ '\x7d' :: rest) = .ok (.closed rest) := by
  have unspaced : skipSpace ('\x7d' :: rest) = '\x7d' :: rest :=
    skipSpace_cons rfl _
  simp [nextKey, skipSpace_append blank, unspaced]

theorem nextKey_first {space : List Char} (blank : Blank space)
    (rest : List Char) :
    nextKey true (space ++ '"' :: rest) = .ok (.key rest) := by
  have unspaced : skipSpace ('"' :: rest) = '"' :: rest := skipSpace_cons rfl _
  simp [nextKey, skipSpace_append blank, unspaced]

theorem nextKey_next {space : List Char} (blank : Blank space)
    (rest : List Char) :
    nextKey false (',' :: (space ++ '"' :: rest)) = .ok (.key rest) := by
  have comma : skipSpace (',' :: (space ++ '"' :: rest)) =
      ',' :: (space ++ '"' :: rest) :=
    skipSpace_cons rfl _
  have unspaced : skipSpace ('"' :: rest) = '"' :: rest := skipSpace_cons rfl _
  simp [nextKey, comma, skipSpace_append blank, unspaced]

/-- In either style and at any depth, the reader takes a colon and what the
writer writes, and returns the value. -/
def Reader.TakesMember {Value : Type u} (reader : Reader Value)
    (writer : Writer) (value : Value) : Prop :=
  ∀ style depth rest, EndsNumber rest →
    reader (style.colon ++ (writer style depth ++ rest)) = .ok (value, rest)

theorem Reader.Takes.readValue {Value : Type u} {reader : Reader Value}
    {writer : Writer} {value : Value} (takes : reader.Takes writer value) :
    Reader.TakesMember (Wire.readValue reader) writer value := by
  intro style depth rest ends
  obtain ⟨space, written, blank⟩ := style.colon_eq
  have read := takes.reads style depth space rest blank ends
  rw [written, Wire.readValue, List.cons_append, skipSpace_cons rfl]
  exact read

section Objects

variable {State : Type u} {readMember : State → String → Reader State}

/-- Reading the members one after another leads from the first state to the
last. -/
inductive ReadsMembers (readMember : State → String → Reader State) :
    State → List (String × Writer) → State → Prop where
  | nil (state : State) : ReadsMembers readMember state [] state
  | cons {state next last : State} {key : String} {writer : Writer}
      {members : List (String × Writer)}
      (takes : Reader.TakesMember (readMember state key) writer next)
      (others : ReadsMembers readMember next members last) :
      ReadsMembers readMember state ((key, writer) :: members) last

def memberWriters (members : List (String × Writer)) : List Writer :=
  members.map (fun (key, value) => writeMember key value)

theorem writeMember_append (key : String) (writer : Writer) (style : Style)
    (depth : Nat) (rest : List Char) :
    writeMember key writer style depth ++ rest =
      '"' :: (key.toList.flatMap escape ++ '"' ::
        (style.colon ++ (writer style depth ++ rest))) := by
  simp [writeMember, quote]

theorem readMembers_member {state next : State} {key : String}
    {writer : Writer}
    (takes : Reader.TakesMember (readMember state key) writer next)
    {first : Bool} {style : Style} {depth : Nat} {text behind : List Char}
    (step : nextKey first text = .ok (.key (key.toList.flatMap escape ++ '"' ::
      (style.colon ++ (writer style depth ++ behind)))))
    (ends : EndsNumber behind) (fuel : Nat) :
    readMembers readMember (fuel + 1) first state text =
      readMembers readMember fuel false next behind := by
  rw [readMembers, step]
  simp only [readRestOfString_quoted, takes style depth behind ends]

theorem readMembers_behindItem {state last : State}
    {members : List (String × Writer)}
    (reads : ReadsMembers readMember state members last) (style : Style)
    (depth : Nat) (rest : List Char) {fuel : Nat}
    (enough : members.length ≤ fuel) :
    readMembers readMember (fuel + 1) false state
        (behindItem '\x7d' (memberWriters members) style depth rest) =
      .ok (last, rest) := by
  induction reads generalizing fuel with
  | nil state =>
      have closed := nextKey_closed (style.lineBreak_blank depth) false rest
      simp [readMembers, memberWriters, behindItem, closed]
  | @cons state next last key writer members takes others inductionHypothesis =>
      obtain ⟨fuel, rfl⟩ := Nat.exists_eq_add_one_of_ne_zero
        (Nat.ne_zero_of_lt enough)
      have step : nextKey false (behindItem '\x7d'
          (memberWriters ((key, writer) :: members)) style depth rest) =
          .ok (.key (key.toList.flatMap escape ++ '"' :: (style.colon ++
            (writer style (depth + 1) ++ behindItem '\x7d'
              (memberWriters members) style depth rest)))) := by
        rw [memberWriters, List.map_cons, behindItem_cons, writeMember_append]
        exact nextKey_next (style.lineBreak_blank _) _
      have ends : EndsNumber
          (behindItem '\x7d' (memberWriters members) style depth rest) :=
        behindItem_endsNumber (by decide) _ _ _ _
      rw [readMembers_member takes step ends]
      exact inductionHypothesis (Nat.le_of_succ_le_succ enough)

theorem readMembers_insideBrackets {initial last : State}
    {members : List (String × Writer)}
    (reads : ReadsMembers readMember initial members last) (style : Style)
    (depth : Nat) (rest : List Char) {fuel : Nat}
    (enough : members.length ≤ fuel) :
    readMembers readMember (fuel + 1) true initial
        (insideBrackets '\x7d' (memberWriters members) style depth rest) =
      .ok (last, rest) := by
  cases reads with
  | nil =>
      have closed : nextKey true ('\x7d' :: rest) = .ok (.closed rest) :=
        nextKey_closed blank_nil true rest
      simp [readMembers, memberWriters, insideBrackets, closed]
  | @cons _ next _ key writer members takes others =>
      obtain ⟨fuel, rfl⟩ := Nat.exists_eq_add_one_of_ne_zero
        (Nat.ne_zero_of_lt enough)
      have step : nextKey true (insideBrackets '\x7d'
          (memberWriters ((key, writer) :: members)) style depth rest) =
          .ok (.key (key.toList.flatMap escape ++ '"' :: (style.colon ++
            (writer style (depth + 1) ++ behindItem '\x7d'
              (memberWriters members) style depth rest)))) := by
        rw [memberWriters, List.map_cons, insideBrackets, writeMember_append]
        exact nextKey_first (style.lineBreak_blank _) _
      have ends : EndsNumber
          (behindItem '\x7d' (memberWriters members) style depth rest) :=
        behindItem_endsNumber (by decide) _ _ _ _
      rw [readMembers_member takes step ends]
      exact readMembers_behindItem others style depth rest
        (Nat.le_of_succ_le_succ enough)

theorem readObject_insideBrackets {initial last : State}
    {members : List (String × Writer)}
    (reads : ReadsMembers readMember initial members last) (style : Style)
    (depth : Nat) (rest : List Char) :
    readObject readMember initial
        (insideBrackets '\x7d' (memberWriters members) style depth rest) =
      .ok (last, rest) := by
  unfold readObject
  apply readMembers_insideBrackets reads
  have shorter := length_le_insideBrackets '\x7d' (memberWriters members) style
    depth rest
  rw [memberWriters, List.length_map] at shorter
  exact shorter

theorem writeObject_append (members : List (String × Writer)) (style : Style)
    (depth : Nat) (rest : List Char) :
    writeObject members style depth ++ rest =
      '\x7b' :: insideBrackets '\x7d' (memberWriters members) style depth rest :=
  writeItems_append _ _ _ _ _ _

end Objects

end WarmStandby.Wire
