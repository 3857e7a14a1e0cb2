import WarmStandby.Proofs.DecimalNumerals
import WarmStandby.Wire.Encode
import WarmStandby.Wire.Reader

/-!
# Strings and numbers are read back

A reader takes what was written for a value off the front of a text, behind any
white space, and leaves what follows.  A string ends at its closing quote,
whatever characters it holds.  A number has no mark at its end, so what follows
has to begin with something that cannot go on with it.
-/

set_option autoImplicit false

namespace WarmStandby.Wire

universe u

/-! ## White space -/

def Blank (space : List Char) : Prop :=
  ∀ character ∈ space, isSpace character = true

theorem blank_nil : Blank [] := List.forall_mem_nil _

theorem skipSpace_append {space : List Char} (blank : Blank space)
    (text : List Char) : skipSpace (space ++ text) = skipSpace text := by
  rw [skipSpace, skipSpace, List.dropWhile_append_of_pos blank]

theorem skipSpace_cons {first : Char} (solid : isSpace first = false)
    (rest : List Char) : skipSpace (first :: rest) = first :: rest := by
  simp [skipSpace, solid]

theorem Style.lineBreak_blank (style : Style) (depth : Nat) :
    Blank (style.lineBreak depth) := by
  cases style with
  | compact => exact blank_nil
  | indented =>
      refine List.forall_mem_cons.mpr ⟨rfl, ?_⟩
      intro character member
      rw [List.eq_of_mem_replicate member]
      rfl

theorem Style.colon_eq (style : Style) :
    ∃ space, style.colon = ':' :: space ∧ Blank space := by
  cases style with
  | compact => exact ⟨[], rfl, blank_nil⟩
  | indented => exact ⟨[' '], rfl, List.forall_mem_singleton.mpr rfl⟩

/-! ## Taking what was written -/

/-- Whether a value may begin with the character: it is no space, and no mark
that stands between values. -/
def opensValue (character : Char) : Bool :=
  !isSpace character && character != ']' && character != ','

/-- The text does not go on with a number that stands before it. -/
def EndsNumber (rest : List Char) : Prop :=
  ∀ character ∈ rest.head?, character.isDigit = false ∧
    character ≠ '.' ∧ character ≠ 'e' ∧ character ≠ 'E'

/-- In either style and at any depth, the reader takes what the writer writes
and returns the value.  What is written begins as a value does, which tells a
list that it goes on. -/
structure Reader.Takes {Value : Type u} (reader : Reader Value)
    (writer : Writer) (value : Value) : Prop where
  opens : ∀ style depth, ∃ first rest,
    writer style depth = first :: rest ∧ opensValue first = true
  reads : ∀ style depth space rest, Blank space → EndsNumber rest →
    reader (space ++ (writer style depth ++ rest)) = .ok (value, rest)

theorem endsNumber_cons {first : Char}
    (mark : first ∈ [' ', '\n', '\r', '\t', ',', ']', '\x7d'])
    (rest : List Char) : EndsNumber (first :: rest) := by
  intro character isFirst
  rw [← Option.some.inj isFirst]
  simp only [List.mem_cons, List.not_mem_nil, or_false] at mark
  rcases mark with rfl | rfl | rfl | rfl | rfl | rfl | rfl <;> decide

theorem endsNumber_of_blank {space : List Char} (blank : Blank space) :
    EndsNumber space := by
  cases space with
  | nil =>
      intro character member
      contradiction
  | cons first space =>
      have isSpace := blank first List.mem_cons_self
      simp [Wire.isSpace] at isSpace
      apply endsNumber_cons
      rcases isSpace with ((rfl | rfl) | rfl) | rfl <;> decide

theorem opensValue_iff {character : Char} :
    opensValue character = true ↔
      isSpace character = false ∧ character ≠ ']' ∧ character ≠ ',' := by
  simp [opensValue, and_assoc]

theorem Reader.Takes.readsUnspaced {Value : Type u} {reader : Reader Value}
    {writer : Writer} {value : Value} (takes : reader.Takes writer value)
    (style : Style) (depth : Nat) {rest : List Char} (ends : EndsNumber rest) :
    reader (writer style depth ++ rest) = .ok (value, rest) :=
  takes.reads style depth [] rest blank_nil ends

theorem Reader.Takes.readWhole {Value : Type u} {reader : Reader Value}
    {writer : Writer} {value : Value} (takes : reader.Takes writer value)
    (style : Style) (depth : Nat) {space : List Char} (blank : Blank space) :
    readWhole reader (writer style depth ++ space) = .ok value := by
  have nothingLeft : skipSpace space = [] := by
    rw [← List.append_nil space, skipSpace_append blank]
    rfl
  rw [Wire.readWhole, takes.readsUnspaced style depth
    (endsNumber_of_blank blank)]
  simp only [nothingLeft]

/-! ## Strings -/

theorem hexUnit?_of_control : ∀ unit < 0x20,
    hexUnit? '0' '0' (hexDigit (unit / 16)) (hexDigit (unit % 16)) =
      some unit := by
  decide

/-- A character is written by a short escape, by its code, or as it is. -/
theorem escape_cases (character : Char) :
    (∃ letter, letter ≠ 'u' ∧ shortEscape? letter = some character ∧
      escape character = ['\\', letter]) ∨
    (character.toNat < 0x20 ∧
      escape character = ['\\', 'u', '0', '0',
        hexDigit (character.toNat / 16), hexDigit (character.toNat % 16)]) ∨
    (character ≠ '"' ∧ character ≠ '\\' ∧ ¬ character.toNat < 0x20 ∧
      escape character = [character]) := by
  by_cases short : character ∈ ['"', '\\', '\x08', '\t', '\n', '\x0c', '\r']
  · refine .inl ?_
    simp only [List.mem_cons, List.not_mem_nil, or_false] at short
    rcases short with rfl | rfl | rfl | rfl | rfl | rfl | rfl
    · exact ⟨'"', by decide, rfl, rfl⟩
    · exact ⟨'\\', by decide, rfl, rfl⟩
    · exact ⟨'b', by decide, rfl, rfl⟩
    · exact ⟨'t', by decide, rfl, rfl⟩
    · exact ⟨'n', by decide, rfl, rfl⟩
    · exact ⟨'f', by decide, rfl, rfl⟩
    · exact ⟨'r', by decide, rfl, rfl⟩
  · refine .inr ?_
    simp only [List.mem_cons, List.not_mem_nil, or_false, not_or] at short
    obtain ⟨notQuote, notBackslash, notB, notT, notN, notF, notR⟩ := short
    have notShort : escape character =
        if character.toNat < 0x20 then
          ['\\', 'u', '0', '0', hexDigit (character.toNat / 16),
            hexDigit (character.toNat % 16)]
        else [character] := by
      simp [escape, notQuote, notBackslash, notB, notT, notN, notF, notR]
    by_cases control : character.toNat < 0x20
    · exact .inl ⟨control, notShort.trans (if_pos control)⟩
    · exact .inr ⟨notQuote, notBackslash, control,
        notShort.trans (if_neg control)⟩

theorem readQuoted?_escape (character : Char) (text : List Char) :
    readQuoted? (escape character ++ text) =
      (readQuoted? text).map (fun (read, rest) => (character :: read, rest)) := by
  rcases escape_cases character with
    ⟨letter, notUnit, short, written⟩ | ⟨control, written⟩ |
      ⟨notQuote, notBackslash, visible, written⟩
  · simp [written, readQuoted?, notUnit, short]
  · have notTrailing : isTrailingSurrogate character.toNat = false := by
      simp [isTrailingSurrogate]
      omega
    have notLeading : isLeadingSurrogate character.toNat = false := by
      simp [isLeadingSurrogate]
      omega
    simp [written, readQuoted?, hexUnit?_of_control _ control, notTrailing,
      notLeading]
  · simp [written, readQuoted?, notBackslash, visible]

theorem readQuoted?_escaped (text rest : List Char) :
    readQuoted? (text.flatMap escape ++ '"' :: rest) = some (text, rest) := by
  induction text with
  | nil => simp [readQuoted?]
  | cons character others inductionHypothesis =>
      rw [List.flatMap_cons, List.append_assoc, readQuoted?_escape,
        inductionHypothesis]
      rfl

theorem readRestOfString_quoted (value : String) (rest : List Char) :
    readRestOfString (value.toList.flatMap escape ++ '"' :: rest) =
      .ok (value, rest) := by
  simp [readRestOfString, readQuoted?_escaped]

theorem quote_append (text rest : List Char) :
    quote text ++ rest = '"' :: (text.flatMap escape ++ '"' :: rest) := by
  simp [quote]

theorem readString_takes (value : String) :
    Reader.Takes readString (writeString value) value where
  opens _ _ := ⟨'"', _, rfl, rfl⟩
  reads _ _ space rest blank _ := by
    rw [writeString, quote_append, readString, skipSpace_append blank,
      skipSpace_cons rfl]
    exact readRestOfString_quoted value rest

/-! ## Numbers -/

namespace Numeral

theorem splitDigits_digits (number : Nat) {rest : List Char}
    (ends : EndsNumber rest) :
    splitDigits (Decimal.digits number ++ rest) =
      (Decimal.digits number, rest) := by
  have allDigits := (Decimal.isNumeral_digits number).2
  have noneTaken : rest.takeWhile Char.isDigit = [] ∧
      rest.dropWhile Char.isDigit = rest := by
    cases rest with
    | nil => exact ⟨rfl, rfl⟩
    | cons character rest => simp [(ends character rfl).1]
  rw [splitDigits, List.takeWhile_append_of_pos allDigits,
    List.dropWhile_append_of_pos allDigits, noneTaken.1, noneTaken.2,
    List.append_nil]

theorem splitInteger?_digits (number : Nat) {rest : List Char}
    (ends : EndsNumber rest) :
    splitInteger? (Decimal.digits number ++ rest) =
      some (Decimal.digits number, rest) := by
  rw [splitInteger?, splitDigits_digits number ends]
  rcases Nat.eq_zero_or_pos number with rfl | positive
  · rfl
  · obtain ⟨first, others, written, notZero⟩ :=
      Decimal.exists_digits_eq_cons_of_pos positive
    simp [written, notZero]

theorem split?_digits (number : Nat) {rest : List Char}
    (ends : EndsNumber rest) :
    split? (Decimal.digits number ++ rest) =
      some (⟨false, Decimal.digits number, none, none⟩, rest) := by
  have noFraction : splitFraction? rest = some (none, rest) := by
    cases rest with
    | nil => rfl
    | cons character rest => simp [splitFraction?, (ends character rfl).2.1]
  have noExponent : splitExponent? rest = some (none, rest) := by
    cases rest with
    | nil => rfl
    | cons character rest =>
        obtain ⟨_, _, notSmall, notCapital⟩ := ends character rfl
        simp [splitExponent?, notSmall, notCapital]
  have unsigned : ∀ tail, Decimal.digits number ++ rest = '-' :: tail →
      False := by
    intro tail same
    obtain ⟨first, others, written, isDigit⟩ :=
      Decimal.exists_digits_eq_cons number
    rw [written, List.cons_append] at same
    rw [(List.cons.inj same).1] at isDigit
    contradiction
  rw [split?]
  simp [splitInteger?_digits number ends, noFraction, noExponent]
  exact unsigned

theorem number_digits {number : Nat} (inRange : number < UInt64.size) :
    Numeral.number ⟨false, Decimal.digits number, none, none⟩ =
      .natural number := by
  simp [Numeral.number, inRange]

end Numeral

theorem opensValue_of_isDigit {character : Char}
    (isDigit : character.isDigit = true) : opensValue character = true := by
  have notMark : ∀ mark ∈ [' ', '\n', '\r', '\t', ']', ','],
      character ≠ mark := by
    intro mark listed same
    rw [same] at isDigit
    simp only [List.mem_cons, List.not_mem_nil, or_false] at listed
    rcases listed with rfl | rfl | rfl | rfl | rfl | rfl <;> contradiction
  simpa [opensValue, isSpace, and_assoc] using notMark

theorem digits_open (number : Nat) :
    ∃ first rest, Decimal.digits number = first :: rest ∧
      opensValue first = true := by
  obtain ⟨first, rest, written, isDigit⟩ := Decimal.exists_digits_eq_cons number
  exact ⟨first, rest, written, opensValue_of_isDigit isDigit⟩

theorem readWord_takes (value : UInt32) :
    Reader.Takes readWord (writeNatural value.toNat) value where
  opens _ _ := digits_open value.toNat
  reads _ _ space rest blank ends := by
    obtain ⟨first, others, written, opens⟩ := digits_open value.toNat
    have unspaced : skipSpace (Decimal.digits value.toNat ++ rest) =
        Decimal.digits value.toNat ++ rest := by
      rw [written, List.cons_append]
      exact skipSpace_cons (opensValue_iff.mp opens).1 _
    have inRange : value.toNat < UInt32.size := value.toNat_lt_size
    have inWideRange : value.toNat < UInt64.size :=
      Nat.lt_trans inRange (by decide)
    simp [readWord, writeNatural, skipSpace_append blank, unspaced,
      Numeral.split?_digits _ ends, Numeral.number_digits inWideRange, inRange]

end WarmStandby.Wire
