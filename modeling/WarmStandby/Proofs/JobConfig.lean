import Mathlib.Data.List.TakeWhile
import WarmStandby.Config
import WarmStandby.Proofs.GenerationRun
import WarmStandby.Proofs.NameGrammar

/-!
# What a job configures

The replication factor of a job is the text under one key.  Between blanks it
has to hold a numeral with at most one sign, and the number that this denotes
decides the rest: a factor if it is positive, a refused factor if it is not, and
no value at all if it does not fit into 32 bits.  Leading zeros are no part of
the number, so a long numeral may well fit.
-/

set_option autoImplicit false

namespace WarmStandby

/-! ## Trimmed texts -/

namespace Text

/-- `core` is what the text holds between the blanks at its two ends. -/
structure Trimmed (text core : List Char) : Prop where
  between : ∃ before after, text = before ++ core ++ after ∧
    (∀ character ∈ before, isBlank character = true) ∧
    ∀ character ∈ after, isBlank character = true
  opens : ∀ first ∈ core.head?, isBlank first = false
  closes : ∀ last ∈ core.getLast?, isBlank last = false

theorem dropWhile_isBlank_append {before rest : List Char}
    (blank : ∀ character ∈ before, isBlank character = true)
    (opens : ∀ first ∈ rest.head?, isBlank first = false) :
    (before ++ rest).dropWhile isBlank = rest := by
  rw [List.dropWhile_append_of_pos blank]
  cases rest with
  | nil => rfl
  | cons first tail =>
      have notBlank : isBlank first = false := opens first rfl
      exact List.dropWhile_cons_of_neg (by simp [notBlank])

theorem opens_dropWhile_isBlank (text : List Char) :
    ∀ first ∈ (text.dropWhile isBlank).head?, isBlank first = false := by
  intro first isFirst
  have kept := List.head?_dropWhile_not isBlank text
  rw [Option.mem_def.mp isFirst] at kept
  exact kept

theorem trimmed_trim (text : List Char) : Trimmed text (trim text) := by
  let inner := text.dropWhile isBlank
  let after := (inner.reverse.takeWhile isBlank).reverse
  have split : inner = trim text ++ after := by
    calc inner
        = (inner.reverse.takeWhile isBlank ++
            inner.reverse.dropWhile isBlank).reverse := by
          rw [List.takeWhile_append_dropWhile, List.reverse_reverse]
      _ = trim text ++ after := List.reverse_append
  refine ⟨⟨text.takeWhile isBlank, after, ?_, ?_, ?_⟩, ?_, ?_⟩
  · rw [List.append_assoc, ← split]
    exact List.takeWhile_append_dropWhile.symm
  · intro character member
    exact List.mem_takeWhile_imp member
  · intro character member
    exact List.mem_takeWhile_imp (List.mem_reverse.mp member)
  · intro first isFirst
    apply opens_dropWhile_isBlank text first
    change first ∈ inner.head?
    rw [split, List.head?_append, Option.mem_def.mp isFirst]
    rfl
  · intro last isLast
    apply opens_dropWhile_isBlank inner.reverse last
    rwa [trim, List.getLast?_reverse] at isLast

theorem trim_eq_iff {text core : List Char} :
    trim text = core ↔ Trimmed text core := by
  constructor
  · intro trimmed
    rw [← trimmed]
    exact trimmed_trim text
  · intro trimmed
    obtain ⟨⟨before, after, rfl, beforeBlank, afterBlank⟩, opens, closes⟩ :=
      trimmed
    by_cases nothing : core = []
    · subst nothing
      have allBlank : ∀ character ∈ before ++ [] ++ after,
          isBlank character = true := by
        intro character member
        rw [List.append_nil] at member
        rcases List.mem_append.mp member with inBefore | inAfter
        · exact beforeBlank character inBefore
        · exact afterBlank character inAfter
      rw [trim, List.dropWhile_eq_nil_iff.mpr allBlank]
      rfl
    · have innerOpens : ∀ first ∈ (core ++ after).head?,
          isBlank first = false := by
        rwa [List.head?_append_of_ne_nil _ nothing]
      have reversedOpens : ∀ first ∈ core.reverse.head?,
          isBlank first = false := by
        rwa [List.head?_reverse]
      have reversedBlank : ∀ character ∈ after.reverse,
          isBlank character = true := by
        simpa using afterBlank
      rw [trim, List.append_assoc,
        dropWhile_isBlank_append beforeBlank innerOpens, List.reverse_append,
        dropWhile_isBlank_append reversedBlank reversedOpens,
        List.reverse_reverse]

instance (text core : List Char) : Decidable (Trimmed text core) :=
  decidable_of_iff (trim text = core) trim_eq_iff

end Text

/-! ## Signed numerals -/

namespace Decimal

inductive DenotesSigned : List Char → Int → Prop
  | bare {numeral : List Char} {number : Nat}
      (denotes : Denotes numeral number) : DenotesSigned numeral number
  | plus {numeral : List Char} {number : Nat}
      (denotes : Denotes numeral number) : DenotesSigned ('+' :: numeral) number
  | minus {numeral : List Char} {number : Nat}
      (denotes : Denotes numeral number) :
      DenotesSigned ('-' :: numeral) (-number)

theorem integer?_minus (numeral : List Char) :
    integer? ('-' :: numeral) =
      (natural? numeral).map (fun number : Nat => -(number : Int)) := by
  rw [integer?]
  cases natural? numeral <;> rfl

theorem integer?_plus (numeral : List Char) :
    integer? ('+' :: numeral) =
      (natural? numeral).map (fun number : Nat => (number : Int)) := by
  rw [integer?]
  cases natural? numeral <;> rfl

theorem integer?_bare {numeral : List Char}
    (noMinus : ∀ rest, numeral ≠ '-' :: rest)
    (noPlus : ∀ rest, numeral ≠ '+' :: rest) :
    integer? numeral =
      (natural? numeral).map (fun number : Nat => (number : Int)) := by
  rw [integer?]
  · cases natural? numeral <;> rfl
  · exact noMinus
  · exact noPlus

theorem integer?_eq_some_iff {numeral : List Char} {number : Int} :
    integer? numeral = some number ↔ DenotesSigned numeral number := by
  constructor
  · intro success
    by_cases isMinus : ∃ rest, numeral = '-' :: rest
    · obtain ⟨rest, rfl⟩ := isMinus
      rw [integer?_minus] at success
      obtain ⟨magnitude, read, rfl⟩ := Option.map_eq_some_iff.mp success
      exact .minus (natural?_eq_some_iff.mp read)
    · by_cases isPlus : ∃ rest, numeral = '+' :: rest
      · obtain ⟨rest, rfl⟩ := isPlus
        rw [integer?_plus] at success
        obtain ⟨magnitude, read, rfl⟩ := Option.map_eq_some_iff.mp success
        exact .plus (natural?_eq_some_iff.mp read)
      · rw [integer?_bare (not_exists.mp isMinus) (not_exists.mp isPlus)]
          at success
        obtain ⟨magnitude, read, rfl⟩ := Option.map_eq_some_iff.mp success
        exact .bare (natural?_eq_some_iff.mp read)
  · intro denotes
    cases denotes with
    | bare denotes =>
        obtain ⟨_, allDigits⟩ := denotes.isNumeral
        have noSign : ∀ sign, sign.isDigit = false →
            ∀ rest, numeral ≠ sign :: rest := by
          intro sign notDigit rest opens
          have isDigit := allDigits sign (by simp [opens])
          rw [notDigit] at isDigit
          contradiction
        rw [integer?_bare (noSign '-' rfl) (noSign '+' rfl),
          natural?_eq_some_iff.mpr denotes]
        rfl
    | plus denotes =>
        rw [integer?_plus, natural?_eq_some_iff.mpr denotes]
        rfl
    | minus denotes =>
        rw [integer?_minus, natural?_eq_some_iff.mpr denotes]
        rfl

instance (numeral : List Char) (number : Int) :
    Decidable (DenotesSigned numeral number) :=
  decidable_of_iff (integer? numeral = some number) integer?_eq_some_iff

theorem int32?_eq_some_iff {numeral : List Char} {number : Int} :
    int32? numeral = some number ↔
      DenotesSigned numeral number ∧ IsInt32 number := by
  rw [int32?, Option.filter_eq_some_iff, integer?_eq_some_iff,
    decide_eq_true_iff]

end Decimal

namespace Config

/-! ## The value of a job -/

def Denotes (value : String) (factor : Int) : Prop :=
  ∃ numeral, Text.Trimmed value.toList numeral ∧
    Decimal.DenotesSigned numeral factor

theorem denotes_iff {value : String} {factor : Int} :
    Denotes value factor ↔
      Decimal.DenotesSigned (Text.trim value.toList) factor := by
  simp only [Denotes, ← Text.trim_eq_iff, exists_eq_left']

instance (value : String) (factor : Int) : Decidable (Denotes value factor) :=
  decidable_of_iff _ denotes_iff.symm

theorem Denotes.unique {value : String} {left right : Int}
    (leftDenotes : Denotes value left) (rightDenotes : Denotes value right) :
    left = right := by
  have leftRead := Decimal.integer?_eq_some_iff.mpr (denotes_iff.mp leftDenotes)
  have rightRead :=
    Decimal.integer?_eq_some_iff.mpr (denotes_iff.mp rightDenotes)
  rw [leftRead] at rightRead
  exact Option.some.inj rightRead

theorem ofFactor_eq_ok {factor : Int} (word : Decimal.IsInt32 factor)
    (positive : 1 ≤ factor) : ofFactor factor = .ok ⟨factor⟩ := by
  obtain ⟨accepted, isFactor, _⟩ :=
    ReplicationFactor.ofInt?_of_in_range word positive
  simp only [ofFactor, validate, isFactor]

theorem ofFactor_eq_error {factor : Int} (notPositive : factor < 1) :
    ofFactor factor = .error (.invalidFactor factor) := by
  have refused : ReplicationFactor.ofInt? factor = none :=
    ReplicationFactor.ofInt?_eq_none_iff.mpr (by omega)
  simp only [ofFactor, validate, refused]

section ValueIsSet

variable {settings : Entries String} {value : String}
variable (isSet : settings.get? jobKey = some (jobKey, value))

include isSet

theorem ofJob_of_denotes {factor : Int} (denotes : Denotes value factor)
    (word : Decimal.IsInt32 factor) : ofJob settings = ofFactor factor := by
  have read : Decimal.int32? (Text.trim value.toList) = some factor :=
    Decimal.int32?_eq_some_iff.mpr ⟨denotes_iff.mp denotes, word⟩
  simp only [ofJob, isSet, read]

/-- A text that denotes no number of 32 bits is refused as it was given, blanks
included. -/
theorem ofJob_of_not_denotes
    (unread : ¬ ∃ factor, Denotes value factor ∧ Decimal.IsInt32 factor) :
    ofJob settings = .error (.invalidValue jobKey value) := by
  have noNumber : Decimal.int32? (Text.trim value.toList) = none := by
    apply Option.eq_none_iff_forall_ne_some.mpr
    intro factor read
    obtain ⟨denotes, word⟩ := Decimal.int32?_eq_some_iff.mp read
    exact unread ⟨factor, denotes_iff.mpr denotes, word⟩
  simp only [ofJob, isSet, noNumber]

/-- A value that is set leads to a configuration, to a refused factor or to a
refused value, and each of these tells what the value denotes. -/
theorem ofJob_cases :
    (∃ factor, Denotes value factor ∧ 1 ≤ factor ∧ factor ≤ 2147483647 ∧
      ofJob settings = .ok ⟨factor⟩) ∨
    (∃ factor, Denotes value factor ∧ -2147483648 ≤ factor ∧ factor ≤ 0 ∧
      ofJob settings = .error (.invalidFactor factor)) ∨
    (¬ ∃ factor, Denotes value factor ∧ Decimal.IsInt32 factor) ∧
      ofJob settings = .error (.invalidValue jobKey value) := by
  by_cases read : ∃ factor, Denotes value factor ∧ Decimal.IsInt32 factor
  · obtain ⟨factor, denotes, word⟩ := read
    obtain ⟨least, greatest⟩ := word
    rw [ofJob_of_denotes isSet denotes ⟨least, greatest⟩]
    by_cases positive : 1 ≤ factor
    · exact .inl ⟨factor, denotes, positive, greatest,
        ofFactor_eq_ok ⟨least, greatest⟩ positive⟩
    · exact .inr (.inl ⟨factor, denotes, least, by omega,
        ofFactor_eq_error (by omega)⟩)
  · exact .inr (.inr ⟨read, ofJob_of_not_denotes isSet read⟩)

theorem ofJob_eq_ok_iff {factor : Int} :
    ofJob settings = .ok ⟨factor⟩ ↔
      Denotes value factor ∧ 1 ≤ factor ∧ factor ≤ 2147483647 := by
  constructor
  · intro taken
    rcases ofJob_cases isSet with ⟨read, denotes, positive, greatest, made⟩ |
      ⟨_, _, _, _, made⟩ | ⟨_, made⟩
    · rw [made] at taken
      cases taken
      exact ⟨denotes, positive, greatest⟩
    · rw [made] at taken
      contradiction
    · rw [made] at taken
      contradiction
  · intro denoted
    obtain ⟨denotes, positive, greatest⟩ := denoted
    have word : Decimal.IsInt32 factor := ⟨by omega, greatest⟩
    rw [ofJob_of_denotes isSet denotes word, ofFactor_eq_ok word positive]

theorem ofJob_eq_invalidFactor_iff {factor : Int} :
    ofJob settings = .error (.invalidFactor factor) ↔
      Denotes value factor ∧ -2147483648 ≤ factor ∧ factor ≤ 0 := by
  constructor
  · intro refused
    rcases ofJob_cases isSet with ⟨_, _, _, _, made⟩ |
      ⟨read, denotes, least, notPositive, made⟩ | ⟨_, made⟩
    · rw [made] at refused
      contradiction
    · rw [made] at refused
      cases refused
      exact ⟨denotes, least, notPositive⟩
    · rw [made] at refused
      cases refused
  · intro denoted
    obtain ⟨denotes, least, notPositive⟩ := denoted
    have word : Decimal.IsInt32 factor := ⟨least, by omega⟩
    rw [ofJob_of_denotes isSet denotes word, ofFactor_eq_error (by omega)]

theorem ofJob_eq_invalidValue_iff :
    ofJob settings = .error (.invalidValue jobKey value) ↔
      ¬ ∃ factor, Denotes value factor ∧ Decimal.IsInt32 factor := by
  constructor
  · intro refused
    rcases ofJob_cases isSet with ⟨_, _, _, _, made⟩ | ⟨_, _, _, _, made⟩ |
      ⟨unread, _⟩
    · rw [made] at refused
      contradiction
    · rw [made] at refused
      cases refused
    · exact unread
  · exact ofJob_of_not_denotes isSet

end ValueIsSet

end Config

/-- A job has the factor that its value denotes, blanks around it apart.  A
number that is no factor is reported as the number that it is, and any other
value as the text that it is.  Other settings of the job do not matter. -/
theorem job_factor_read_exactly {settings : Entries String} {value : String}
    (isSet : settings.get? Config.jobKey = some (Config.jobKey, value)) :
    (∀ factor, Config.ofJob settings = .ok ⟨factor⟩ ↔
      Config.Denotes value factor ∧ 1 ≤ factor ∧ factor ≤ 2147483647) ∧
    (∀ factor, Config.ofJob settings = .error (.invalidFactor factor) ↔
      Config.Denotes value factor ∧ -2147483648 ≤ factor ∧ factor ≤ 0) ∧
    (Config.ofJob settings = .error (.invalidValue Config.jobKey value) ↔
      ¬ ∃ factor, Config.Denotes value factor ∧
        -2147483648 ≤ factor ∧ factor ≤ 2147483647) ∧
    ∀ other : Entries String,
      other.get? Config.jobKey = some (Config.jobKey, value) →
        Config.ofJob other = Config.ofJob settings := by
  refine ⟨?_, ?_, ?_, ?_⟩
  · intro factor
    exact Config.ofJob_eq_ok_iff isSet
  · intro factor
    exact Config.ofJob_eq_invalidFactor_iff isSet
  · exact Config.ofJob_eq_invalidValue_iff isSet
  · intro other otherSet
    rw [Config.ofJob, Config.ofJob, isSet, otherSet]

namespace Sample

def jobSettings (value : String) : Entries String :=
  .ofList [("job.name", "7"), (Config.jobKey, value)]

theorem get?_jobSettings (value : String) :
    (jobSettings value).get? Config.jobKey = some (Config.jobKey, value) :=
  Roster.get?_insert.trans (if_pos rfl)

/-- Leading zeros and blanks beyond ASCII, the least number of 32 bits, and the
first that is too great for them. -/
theorem job_factor_read_exactly_padded :
    Config.ofJob (jobSettings "\u00a0+00000000003\u3000\n") = .ok ⟨3⟩ ∧
      Config.ofJob (jobSettings " -2147483648") =
        .error (.invalidFactor (-2147483648)) ∧
      Config.ofJob (jobSettings "2147483648 ") =
        .error (.invalidValue Config.jobKey "2147483648 ") := by
  obtain ⟨taken, _⟩ := job_factor_read_exactly
    (get?_jobSettings "\u00a0+00000000003\u3000\n")
  obtain ⟨_, refused, _⟩ := job_factor_read_exactly
    (get?_jobSettings " -2147483648")
  obtain ⟨_, _, unread, _⟩ := job_factor_read_exactly
    (get?_jobSettings "2147483648 ")
  refine ⟨(taken 3).mpr (by decide +kernel),
    (refused (-2147483648)).mpr (by decide +kernel), unread.mpr ?_⟩
  intro inRange
  obtain ⟨factor, denotes, _, greatest⟩ := inRange
  have tooGreat : Config.Denotes "2147483648 " 2147483648 := by decide +kernel
  have isTooGreat : factor = 2147483648 := denotes.unique tooGreat
  omega

end Sample

end WarmStandby
