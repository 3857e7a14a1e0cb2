import Mathlib.Data.List.Induction
import WarmStandby.Proofs.ReplicaNames

/-!
# The grammar of replica names

A name of a replica is a base, a dash and a numeral.  The numeral may have
leading zeros but no sign, and has to denote a number of 32 bits.  The base of a
buddy container is any text but the empty one; that of a standby task is the
reserved mark and any text.  The readers accept just these texts.  Since a
numeral holds no dash, a text has at most one reading, whatever dashes, digits
and marks its base holds.
-/

set_option autoImplicit false

namespace WarmStandby

/-! ## What a numeral denotes -/

namespace Decimal

inductive Denotes : List Char → Nat → Prop
  | digit {character : Char} (isDigit : character.isDigit = true) :
      Denotes [character] (character.toNat - '0'.toNat)
  | append {numeral : List Char} {number : Nat} {character : Char}
      (front : Denotes numeral number) (isDigit : character.isDigit = true) :
      Denotes (numeral ++ [character])
        (10 * number + (character.toNat - '0'.toNat))

theorem value_append_digit (numeral : List Char) (character : Char) :
    value (numeral ++ [character]) =
      10 * value numeral + (character.toNat - '0'.toNat) := by
  simp [value, Nat.ofDigitChars_append, Nat.ofDigitChars_cons]

theorem Denotes.isNumeral {numeral : List Char} {number : Nat}
    (denotes : Denotes numeral number) : IsNumeral numeral := by
  induction denotes with
  | digit isDigit => exact ⟨List.cons_ne_nil _ _, by simpa using isDigit⟩
  | append _ isDigit inductionHypothesis =>
      obtain ⟨_, frontDigits⟩ := inductionHypothesis
      refine ⟨by simp, ?_⟩
      intro other member
      rcases List.mem_append.mp member with inFront | isLast
      · exact frontDigits other inFront
      · rw [List.mem_singleton.mp isLast]
        exact isDigit

theorem Denotes.value_eq {numeral : List Char} {number : Nat}
    (denotes : Denotes numeral number) : value numeral = number := by
  induction denotes with
  | digit _ => simp [value, Nat.ofDigitChars_cons]
  | append _ _ inductionHypothesis =>
      rw [value_append_digit, inductionHypothesis]

theorem denotes_value {numeral : List Char} (isNumeral : IsNumeral numeral) :
    Denotes numeral (value numeral) := by
  obtain ⟨notEmpty, allDigits⟩ := isNumeral
  induction numeral using List.reverseRecOn with
  | nil => contradiction
  | append_singleton front last inductionHypothesis =>
      obtain ⟨frontDigits, lastDigit⟩ := List.forall_mem_append.mp allDigits
      have isDigit := lastDigit last (List.mem_singleton_self last)
      rw [value_append_digit]
      by_cases alone : front = []
      · subst alone
        simpa [value] using Denotes.digit isDigit
      · apply Denotes.append
        · exact inductionHypothesis alone frontDigits
        · exact isDigit

theorem denotes_iff {numeral : List Char} {number : Nat} :
    Denotes numeral number ↔ IsNumeral numeral ∧ value numeral = number := by
  constructor
  · intro denotes
    exact ⟨denotes.isNumeral, denotes.value_eq⟩
  · intro reads
    obtain ⟨isNumeral, rfl⟩ := reads
    exact denotes_value isNumeral

/-- The first digit is no zero, unless it is the only one. -/
def Canonical (numeral : List Char) : Prop :=
  numeral = ['0'] ∨ numeral.head? ≠ some '0'

theorem canonical_digits (number : Nat) : Canonical (digits number) := by
  by_cases zero : number = 0
  · subst zero
    exact .inl rfl
  · obtain ⟨first, rest, written, notZero⟩ :=
      exists_digits_eq_cons_of_pos (Nat.pos_of_ne_zero zero)
    rw [written]
    exact .inr (by simpa using notZero)

theorem digitChar_of_isDigit {character : Char}
    (isDigit : character.isDigit = true) :
    character.toNat - '0'.toNat < 10 ∧
      Nat.digitChar (character.toNat - '0'.toNat) = character := by
  have bounds : 48 ≤ character.toNat ∧ character.toNat ≤ 57 := by
    simpa [Char.isDigit, UInt32.le_iff_toNat_le] using isDigit
  have zero : '0'.toNat = 48 := rfl
  have small : character.toNat - '0'.toNat < 10 := by omega
  refine ⟨small, Char.toNat_inj.mp ?_⟩
  rw [Nat.toNat_digitChar_of_lt_ten small]
  omega

theorem Denotes.eq_digits_iff {numeral : List Char} {number : Nat}
    (denotes : Denotes numeral number) :
    numeral = digits number ↔ Canonical numeral := by
  constructor
  · intro same
    rw [same]
    exact canonical_digits number
  · intro canonical
    induction denotes with
    | digit isDigit =>
        obtain ⟨small, shown⟩ := digitChar_of_isDigit isDigit
        rw [digits, Nat.toDigits_of_lt_base small, shown]
    | @append front value last frontDenotes isDigit inductionHypothesis =>
        obtain ⟨small, shown⟩ := digitChar_of_isDigit isDigit
        obtain ⟨first, rest, rfl⟩ :=
          List.exists_cons_of_ne_nil frontDenotes.isNumeral.1
        have notZero : first ≠ '0' := by
          simpa [Canonical] using canonical
        have frontExact := inductionHypothesis (.inr (by simpa using notZero))
        have positive : 0 < value := by
          rcases Nat.eq_zero_or_pos value with rfl | positive
          · have isZero : first = '0' := (List.cons.inj frontExact).1
            contradiction
          · exact positive
        generalize last.toNat - '0'.toNat = digit at small shown ⊢
        have quotient : (10 * value + digit) / 10 = value := by omega
        have remainder : (10 * value + digit) % 10 = digit := by omega
        calc first :: rest ++ [last]
            = digits value ++ [Nat.digitChar digit] := by
              rw [frontExact, shown]
          _ = digits (10 * value + digit) := by
              unfold digits
              rw [Nat.toDigits_of_base_le (by decide)
                (show 10 ≤ 10 * value + digit by omega), quotient, remainder]

theorem natural?_eq_some_iff {numeral : List Char} {number : Nat} :
    natural? numeral = some number ↔ Denotes numeral number := by
  rw [denotes_iff, natural?]
  by_cases isNumeral : IsNumeral numeral
  · simp only [isNumeral, if_true, true_and, Option.some.injEq]
  · simp only [isNumeral, if_false, false_and, reduceCtorEq]

theorem word?_eq_some_iff {numeral : List Char} {word : UInt32} :
    word? numeral = some word ↔ Denotes numeral word.toNat := by
  rw [← natural?_eq_some_iff, word?]
  cases natural? numeral with
  | none => simp
  | some number =>
      rw [Option.some.injEq]
      by_cases inRange : number < UInt32.size
      · simp only [inRange, if_true, Option.some.injEq]
        rw [← UInt32.toNat_inj, UInt32.toNat_ofNat_of_lt' inRange]
      · simp only [inRange, if_false, reduceCtorEq, false_iff]
        have wordInRange : word.toNat < UInt32.size := word.toNat_lt_size
        omega

end Decimal

/-! ## What a text spells -/

namespace ReplicaText

theorem dash_not_mem_of_splitAtLastDash?_eq_none {text : List Char}
    (unsplit : splitAtLastDash? text = none) : '-' ∉ text := by
  induction text with
  | nil => exact List.not_mem_nil
  | cons character rest inductionHypothesis =>
      rw [splitAtLastDash?] at unsplit
      cases later : splitAtLastDash? rest with
      | some parts => simp [later] at unsplit
      | none =>
          have notDash : character ≠ '-' := by
            intro isDash
            simp [later, isDash] at unsplit
          intro member
          rcases List.mem_cons.mp member with isFirst | inRest
          · exact notDash isFirst.symm
          · exact inductionHypothesis later inRest

theorem eq_append_of_splitAtLastDash?_eq_some {text base suffix : List Char}
    (split : splitAtLastDash? text = some (base, suffix)) :
    text = base ++ '-' :: suffix ∧ '-' ∉ suffix := by
  induction text generalizing base with
  | nil => contradiction
  | cons character rest inductionHypothesis =>
      rw [splitAtLastDash?] at split
      cases later : splitAtLastDash? rest with
      | some parts =>
          simp only [later, Option.some.injEq, Prod.mk.injEq] at split
          obtain ⟨rfl, rfl⟩ := split
          obtain ⟨same, noDash⟩ := inductionHypothesis later
          exact ⟨congrArg (List.cons character) same, noDash⟩
      | none =>
          simp only [later] at split
          by_cases isDash : character = '-'
          · simp only [if_pos isDash, Option.some.injEq, Prod.mk.injEq] at split
            obtain ⟨rfl, rfl⟩ := split
            rw [isDash]
            exact ⟨rfl, dash_not_mem_of_splitAtLastDash?_eq_none later⟩
          · simp [isDash] at split

/-- A text is read if a numeral of a word stands behind its last dash, and then
its base is all that stands before that dash. -/
theorem read?_eq_some_iff {text : List Char} {base : String}
    {replica : UInt32} :
    read? text = some (base, replica) ↔
      ∃ numeral, text = base.toList ++ '-' :: numeral ∧
        Decimal.Denotes numeral replica.toNat := by
  constructor
  · intro success
    rw [read?] at success
    cases split : splitAtLastDash? text with
    | none => simp [split] at success
    | some parts =>
        obtain ⟨front, suffix⟩ := parts
        cases word : Decimal.word? suffix with
        | none => simp [split, word] at success
        | some read =>
            simp only [split, word, Option.some.injEq, Prod.mk.injEq] at success
            obtain ⟨rfl, rfl⟩ := success
            obtain ⟨composed, _⟩ := eq_append_of_splitAtLastDash?_eq_some split
            refine ⟨suffix, ?_, Decimal.word?_eq_some_iff.mp word⟩
            rw [String.toList_ofList]
            exact composed
  · intro composed
    obtain ⟨numeral, rfl, denotes⟩ := composed
    have noDash := Decimal.dash_not_mem_of_isNumeral denotes.isNumeral
    have word := Decimal.word?_eq_some_iff.mpr denotes
    rw [read?, splitAtLastDash?_append noDash]
    simp [word]

/-- The text is the base, a dash and a numeral of a number of 32 bits. -/
structure Spells (text base numeral : String) (number : Nat) : Prop where
  composed : text = base ++ "-" ++ numeral
  denotes : Decimal.Denotes numeral.toList number
  inRange : number ≤ 4294967295

theorem Spells.toList_eq {text base numeral : String} {number : Nat}
    (spells : Spells text base numeral number) :
    text.toList = base.toList ++ '-' :: numeral.toList := by
  simp [spells.composed]

theorem Spells.unique {text : String}
    {leftBase leftNumeral rightBase rightNumeral : String}
    {leftNumber rightNumber : Nat}
    (left : Spells text leftBase leftNumeral leftNumber)
    (right : Spells text rightBase rightNumeral rightNumber) :
    leftBase = rightBase ∧ leftNumeral = rightNumeral ∧
      leftNumber = rightNumber := by
  have leftSplit := splitAtLastDash?_append
    (Decimal.dash_not_mem_of_isNumeral left.denotes.isNumeral)
    leftBase.toList
  have rightSplit := splitAtLastDash?_append
    (Decimal.dash_not_mem_of_isNumeral right.denotes.isNumeral)
    rightBase.toList
  rw [← left.toList_eq] at leftSplit
  rw [← right.toList_eq, leftSplit] at rightSplit
  simp only [Option.some.injEq, Prod.mk.injEq, String.toList_inj] at rightSplit
  obtain ⟨sameBase, sameNumeral⟩ := rightSplit
  refine ⟨sameBase, sameNumeral, ?_⟩
  rw [← left.denotes.value_eq, ← right.denotes.value_eq, sameNumeral]

theorem spells_render (base : String) (replica : UInt32) :
    Spells (render base replica) base (Decimal.text replica.toNat)
      replica.toNat where
  composed := rfl
  denotes := by
    rw [Decimal.toList_text, Decimal.denotes_iff]
    exact ⟨Decimal.isNumeral_digits _, Decimal.value_digits _⟩
  inRange := by
    have inRange := replica.toNat_lt_size
    have size : UInt32.size = 4294967296 := rfl
    omega

theorem Spells.render_eq_iff {text base numeral : String} {replica : UInt32}
    (spells : Spells text base numeral replica.toNat) :
    render base replica = text ↔ Decimal.Canonical numeral.toList := by
  rw [← spells.denotes.eq_digits_iff, ← Decimal.toList_text, String.toList_inj]
  constructor
  · intro same
    have rendered := spells_render base replica
    rw [same] at rendered
    exact (spells.unique rendered).2.1
  · intro same
    rw [spells.composed, same]
    rfl

theorem read?_toList_iff {text base : String} {number : Nat} :
    (∃ replica : UInt32, replica.toNat = number ∧
        read? text.toList = some (base, replica)) ↔
      ∃ numeral, Spells text base numeral number := by
  have size : UInt32.size = 4294967296 := rfl
  constructor
  · intro success
    obtain ⟨replica, rfl, read⟩ := success
    obtain ⟨numeral, composed, denotes⟩ := read?_eq_some_iff.mp read
    refine ⟨String.ofList numeral, ?_, ?_, ?_⟩
    · apply String.toList_inj.mp
      simp [composed]
    · rw [String.toList_ofList]
      exact denotes
    · have inRange := replica.toNat_lt_size
      omega
  · intro spelled
    obtain ⟨numeral, spells⟩ := spelled
    have inRange : number < UInt32.size := by
      have atMost := spells.inRange
      omega
    have denoted : (UInt32.ofNat number).toNat = number :=
      UInt32.toNat_ofNat_of_lt' inRange
    refine ⟨UInt32.ofNat number, denoted, ?_⟩
    apply read?_eq_some_iff.mpr
    refine ⟨numeral.toList, spells.toList_eq, ?_⟩
    rw [denoted]
    exact spells.denotes

end ReplicaText

/-! ## The readers -/

namespace BuddyId

theorem parse?_eq_some_iff {text : ContainerId} {buddy : BuddyId} :
    parse? text = some buddy ↔
      buddy.active ≠ "" ∧
        ReplicaText.read? text.toList = some (buddy.active, buddy.replica) := by
  rw [parse?]
  cases read : ReplicaText.read? text.toList with
  | none => simp
  | some parts =>
      obtain ⟨base, replica⟩ := parts
      simp only [String.isEmpty_iff, Option.some.injEq, Prod.mk.injEq]
      constructor
      · intro success
        split at success
        · contradiction
        · rename_i named
          simp only [Option.some.injEq] at success
          subst success
          exact ⟨named, rfl, rfl⟩
      · intro reads
        obtain ⟨named, rfl, rfl⟩ := reads
        rw [if_neg named]

theorem parse?_iff_spells {text active : ContainerId} {number : Nat} :
    (∃ replica : UInt32, replica.toNat = number ∧
        parse? text = some ⟨active, replica⟩) ↔
      active ≠ "" ∧
        ∃ numeral, ReplicaText.Spells text active numeral number := by
  rw [← ReplicaText.read?_toList_iff]
  simp only [parse?_eq_some_iff]
  tauto

/-- What is read is read again from its own text, which is the text that was
read if the index was written canonically. -/
theorem spells_of_parse? {text : ContainerId} {buddy : BuddyId}
    (success : parse? text = some buddy) :
    parse? buddy.text = some buddy ∧
      ∃ numeral,
        ReplicaText.Spells text buddy.active numeral buddy.replica.toNat ∧
          (buddy.text = text ↔ Decimal.Canonical numeral.toList) := by
  obtain ⟨named, numeral, spells⟩ :=
    parse?_iff_spells.mp ⟨buddy.replica, rfl, success⟩
  exact ⟨parse?_text named, numeral, spells, spells.render_eq_iff⟩

end BuddyId

namespace StandbyName

theorem parse?_eq_some_iff {text : TaskName} {name : StandbyName} :
    parse? text = some name ↔
      ∃ rest : String, text = standbyMark ++ rest ∧
        ReplicaText.read? rest.toList = some (name.active, name.replica) := by
  constructor
  · intro success
    rw [parse?] at success
    split at success
    · rename_i reserved
      obtain ⟨rest, rfl⟩ := isReserved_iff.mp reserved
      refine ⟨rest, rfl, ?_⟩
      rw [String.toList_append, ← String.length_toList, List.drop_left]
        at success
      cases read : ReplicaText.read? rest.toList with
      | none => simp [read] at success
      | some parts =>
          simp only [read, Option.some.injEq] at success
          rw [← success]
    · contradiction
  · intro marked
    obtain ⟨rest, rfl, read⟩ := marked
    have reserved := isReserved_iff.mpr ⟨rest, rfl⟩
    rw [parse?, if_pos reserved, String.toList_append, ← String.length_toList,
      List.drop_left, read]

theorem parse?_iff_spells {text active : TaskName} {number : Nat} :
    (∃ replica : UInt32, replica.toNat = number ∧
        parse? text = some ⟨active, replica⟩) ↔
      ∃ numeral,
        ReplicaText.Spells text (standbyMark ++ active) numeral number := by
  simp only [parse?_eq_some_iff]
  constructor
  · intro success
    obtain ⟨replica, denoted, rest, rfl, read⟩ := success
    obtain ⟨numeral, spells⟩ :=
      ReplicaText.read?_toList_iff.mp ⟨replica, denoted, read⟩
    refine ⟨numeral, ?_, spells.denotes, spells.inRange⟩
    rw [spells.composed]
    simp only [String.append_assoc]
  · intro spelled
    obtain ⟨numeral, spells⟩ := spelled
    have restSpells :
        ReplicaText.Spells (active ++ "-" ++ numeral) active numeral number :=
      ⟨rfl, spells.denotes, spells.inRange⟩
    obtain ⟨replica, denoted, read⟩ :=
      ReplicaText.read?_toList_iff.mpr ⟨numeral, restSpells⟩
    refine ⟨replica, denoted, _, ?_, read⟩
    rw [spells.composed]
    simp only [String.append_assoc]

theorem spells_of_parse? {text : TaskName} {name : StandbyName}
    (success : parse? text = some name) :
    ∃ numeral,
      ReplicaText.Spells text (standbyMark ++ name.active) numeral
          name.replica.toNat ∧
        (name.text = text ↔ Decimal.Canonical numeral.toList) := by
  obtain ⟨numeral, spells⟩ :=
    parse?_iff_spells.mp ⟨name.replica, rfl, success⟩
  have rendered : name.text =
      ReplicaText.render (standbyMark ++ name.active) name.replica := by
    simp only [StandbyName.text, ReplicaText.render, String.append_assoc]
  rw [rendered]
  exact ⟨numeral, spells, spells.render_eq_iff⟩

end StandbyName

/-- Both readers accept just what is spelled, and read it in the only way that
there is.  Rendering what was read gives the text back if the index was written
canonically, and else another text that is read the same. -/
theorem replica_names_read_exactly :
    (∀ (text active : ContainerId) (number : Nat),
      (∃ replica : UInt32, replica.toNat = number ∧
          BuddyId.parse? text = some ⟨active, replica⟩) ↔
        active ≠ "" ∧
          ∃ numeral, ReplicaText.Spells text active numeral number) ∧
    (∀ (text active : TaskName) (number : Nat),
      (∃ replica : UInt32, replica.toNat = number ∧
          StandbyName.parse? text = some ⟨active, replica⟩) ↔
        ∃ numeral,
          ReplicaText.Spells text ("Standby " ++ active) numeral number) ∧
    (∀ text leftBase leftNumeral leftNumber rightBase rightNumeral rightNumber,
      ReplicaText.Spells text leftBase leftNumeral leftNumber →
      ReplicaText.Spells text rightBase rightNumeral rightNumber →
        leftBase = rightBase ∧ leftNumeral = rightNumeral ∧
          leftNumber = rightNumber) ∧
    (∀ text buddy, BuddyId.parse? text = some buddy →
      BuddyId.parse? buddy.text = some buddy ∧
        ∃ numeral,
          ReplicaText.Spells text buddy.active numeral buddy.replica.toNat ∧
            (buddy.text = text ↔ Decimal.Canonical numeral.toList)) ∧
    (∀ text name, StandbyName.parse? text = some name →
      StandbyName.parse? name.text = some name ∧
        ∃ numeral,
          ReplicaText.Spells text ("Standby " ++ name.active) numeral
              name.replica.toNat ∧
            (name.text = text ↔ Decimal.Canonical numeral.toList)) ∧
    ∀ (active : TaskName) (replica : UInt32),
      StandbyName.parse? (StandbyName.text ⟨active, replica⟩) =
        some ⟨active, replica⟩ := by
  refine ⟨?_, ?_, ?_, ?_, ?_, ?_⟩
  · intro text active number
    exact BuddyId.parse?_iff_spells
  · intro text active number
    exact StandbyName.parse?_iff_spells
  · intro text leftBase leftNumeral leftNumber rightBase rightNumeral
      rightNumber left right
    exact left.unique right
  · intro text buddy success
    exact BuddyId.spells_of_parse? success
  · intro text name success
    exact ⟨name.parse?_text, StandbyName.spells_of_parse? success⟩
  · intro active replica
    exact StandbyName.parse?_text ⟨active, replica⟩

namespace Sample

theorem replica_names_read_exactly_zeros :
    BuddyId.parse? "7-5-007" = some ⟨"7-5", 7⟩ ∧
      BuddyId.parse? (BuddyId.text ⟨"7-5", 7⟩) = some ⟨"7-5", 7⟩ ∧
      StandbyName.parse? "Standby Standby a-1-4294967295" =
        some ⟨"Standby a-1", 4294967295⟩ := by
  obtain ⟨container, standby, _, again, _, _⟩ := replica_names_read_exactly
  have seven : Decimal.Denotes "007".toList 7 :=
    Decimal.denotes_iff.mpr
      ⟨⟨by decide, List.all_eq_true.mp (by decide +kernel)⟩, by decide +kernel⟩
  have spells : ReplicaText.Spells "7-5-007" "7-5" "007" 7 :=
    ⟨by decide +kernel, seven, by decide⟩
  obtain ⟨replica, denoted, read⟩ :=
    (container _ _ _).mpr ⟨by decide, _, spells⟩
  have isSeven : replica = 7 := UInt32.toNat_inj.mp denoted
  rw [isSeven] at read
  have greatest : Decimal.Denotes "4294967295".toList 4294967295 :=
    Decimal.denotes_iff.mpr
      ⟨⟨by decide, List.all_eq_true.mp (by decide +kernel)⟩, by decide +kernel⟩
  have standbySpells : ReplicaText.Spells "Standby Standby a-1-4294967295"
      ("Standby " ++ "Standby a-1") "4294967295" 4294967295 :=
    ⟨by decide +kernel, greatest, by decide⟩
  obtain ⟨standbyReplica, standbyDenoted, standbyRead⟩ :=
    (standby _ _ _).mpr ⟨_, standbySpells⟩
  have isGreatest : standbyReplica = 4294967295 :=
    UInt32.toNat_inj.mp standbyDenoted
  rw [isGreatest] at standbyRead
  exact ⟨read, (again _ _ read).1, standbyRead⟩

end Sample

end WarmStandby
