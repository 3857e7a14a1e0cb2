import WarmStandby.Proofs.WireRoundTrip

/-!
# Reading what is stored

A text is first read into the maps that are stored, with the keys that it gives,
and only then are the keys checked.  What passes the check is what the text was
read into, be it the text of a container, of a layout, or one of several
containers of a layout.
-/

set_option autoImplicit false

namespace WarmStandby

universe u

namespace Wire

/-! ## Readers that mirror others -/

/-- Whatever the reader takes, its mirror takes as well, and returns it as it is
viewed. -/
def Reader.Mirrors {Value Image : Type u} (mirror : Reader Image)
    (view : Value → Image) (reader : Reader Value) : Prop :=
  ∀ text value rest, reader text = .ok (value, rest) →
    mirror text = .ok (view value, rest)

theorem readMembers_mirrors {State Image : Type u}
    {readMember : State → String → Reader State}
    {mirrorMember : Image → String → Reader Image} {view : State → Image}
    (each : ∀ state key,
      (mirrorMember (view state) key).Mirrors view (readMember state key))
    (fuel : Nat) (first : Bool) (state : State) :
    Reader.Mirrors (readMembers mirrorMember fuel first (view state)) view
      (readMembers readMember fuel first state) := by
  induction fuel generalizing first state with
  | zero =>
      intro text last rest read
      contradiction
  | succ fuel inductionHypothesis =>
      intro text last rest read
      unfold readMembers at read ⊢
      cases step : nextKey first text with
      | error fault =>
          rw [step] at read
          contradiction
      | ok stepped =>
          rw [step] at read
          cases stepped with
          | closed rest =>
              cases Except.ok.inj read
              rfl
          | key text =>
              dsimp only at read ⊢
              cases named : readRestOfString text with
              | error fault =>
                  rw [named] at read
                  contradiction
              | ok found =>
                  obtain ⟨key, text⟩ := found
                  rw [named] at read
                  dsimp only at read ⊢
                  cases member : readMember state key text with
                  | error fault =>
                      rw [member] at read
                      contradiction
                  | ok result =>
                      obtain ⟨next, text⟩ := result
                      rw [member] at read
                      rw [each state key _ next text member]
                      exact inductionHypothesis false next _ _ _ read

namespace Reader.Mirrors

variable {Value Image : Type} {mirror : Reader Image} {reader : Reader Value}
  {view : Value → Image} (mirrors : mirror.Mirrors view reader)

include mirrors

theorem readValue : (readValue mirror).Mirrors view (readValue reader) := by
  intro text value rest read
  unfold Wire.readValue at read ⊢
  split at read
  · exact mirrors _ _ _ read
  · contradiction

theorem readEntry (entries : Entries Value) (key : String) :
    Reader.Mirrors (readEntry mirror (entries.mapRecords view) key)
      (fun entries => entries.mapRecords view)
      (readEntry reader entries key) := by
  intro text next rest read
  unfold Wire.readEntry at read ⊢
  cases member : Wire.readValue reader text with
  | error fault =>
      rw [member] at read
      contradiction
  | ok found =>
      obtain ⟨value, after⟩ := found
      rw [member] at read
      cases Except.ok.inj read
      rw [mirrors.readValue _ _ _ member]
      simp only [Entries.mapRecords_insert]
      rfl

theorem readEntries :
    (readEntries mirror).Mirrors (fun entries => entries.mapRecords view)
      (readEntries reader) := by
  intro text entries rest read
  unfold Wire.readEntries at read ⊢
  split at read
  · exact readMembers_mirrors (fun entries key => mirrors.readEntry entries key)
      _ true .empty _ _ _ read
  · contradiction

theorem readWhole {text : List Char} {value : Value}
    (read : readWhole reader text = .ok value) :
    Wire.readWhole mirror text = .ok (view value) := by
  unfold Wire.readWhole at read ⊢
  cases front : reader text with
  | error fault =>
      rw [front] at read
      contradiction
  | ok found =>
      obtain ⟨first, rest⟩ := found
      rw [front] at read
      rw [mirrors _ _ _ front]
      dsimp only at read ⊢
      split at read
      · cases Except.ok.inj read
        rfl
      · contradiction

end Reader.Mirrors

/-! ## Containers and layouts -/

/-- Reads a container, and leaves its tasks under the keys that they have in the
text. -/
def readStoredContainer : Reader StoredContainer :=
  readRecord
    (fun text => do
      let (fields, text) ← readObject ContainerFields.readMember .none text
      let id ← required "id" fields.id
      return (⟨id, fields.tasks.getD .empty⟩, text))
    (fun text => do
      let (id, text) ← readItemAt readString 0 text
      let (entries, text) ← readLastItem (readEntries readTask) .empty text
      return (⟨id, entries⟩, text))

def readStoredLayout : Reader StoredLayout := readEntries readStoredContainer

/-- What a reader returns that checks what another one reads. -/
theorem read_and_check {Raw Value : Type} {reader : Reader Raw}
    {check : Raw → Except ModelFault Value} {text rest : List Char}
    {value : Value}
    (success : (do
      let (raw, text) ← reader text
      let value ← (check raw).mapError Fault.inconsistent
      return (value, text)) = Except.ok (value, rest)) :
    ∃ raw, reader text = .ok (raw, rest) ∧ check raw = .ok value := by
  cases read : reader text with
  | error fault =>
      rw [read] at success
      contradiction
  | ok found =>
      obtain ⟨raw, after⟩ := found
      rw [read] at success
      cases checked : check raw with
      | error fault =>
          simp [checked, bind, Except.bind, Except.mapError] at success
      | ok made =>
          simp only [bind, Except.bind, checked, Except.mapError, pure,
            Except.pure, Except.ok.injEq, Prod.mk.injEq] at success
          obtain ⟨rfl, rfl⟩ := success
          exact ⟨raw, rfl, checked⟩

theorem readContainer_eq (text : List Char) :
    readContainer text = do
      let (stored, text) ← readStoredContainer text
      let container ← stored.check.mapError .inconsistent
      return (container, text) := by
  unfold readContainer readStoredContainer readRecord StoredContainer.check
  split
  · simp only [ContainerFields.toContainer, bind_assoc, pure_bind]
  · simp only [bind_assoc, pure_bind]
  · rfl

theorem readStoredContainer_mirrors :
    readStoredContainer.Mirrors Container.stored readContainer := by
  intro text container rest read
  rw [readContainer_eq] at read
  obtain ⟨stored, readStored, made⟩ := read_and_check read
  rw [readStored, Container.stored_of_ofEntries made]

theorem readStoredLayout_mirrors :
    readStoredLayout.Mirrors Layout.stored readLayout := by
  intro text layout rest read
  obtain ⟨entries, readEntries, made⟩ := read_and_check read
  rw [Layout.stored_of_ofEntries made]
  exact readStoredContainer_mirrors.readEntries _ _ _ readEntries

def decodeStoredContainer (text : String) : Except Fault StoredContainer :=
  readWhole readStoredContainer text.toList

def decodeStoredLayout (text : String) : Except Fault StoredLayout :=
  readWhole readStoredLayout text.toList

theorem decodeStored_of_decodeContainer {text : String} {container : Container}
    (decoded : decodeContainer text = .ok container) :
    decodeStoredContainer text = .ok container.stored :=
  readStoredContainer_mirrors.readWhole decoded

theorem decodeStored_of_decodeLayout {text : String} {layout : Layout}
    (decoded : decodeLayout text = .ok layout) :
    decodeStoredLayout text = .ok layout.stored :=
  readStoredLayout_mirrors.readWhole decoded

end Wire

namespace Layout

def decodeStoredTexts (texts : List (String × String)) :
    Except Wire.Fault (List (String × StoredContainer)) :=
  texts.mapM (fun (key, text) => do
    let stored ← Wire.decodeStoredContainer text
    return (key, stored))

theorem decodeStored_of_decodeSerialized {texts : List (String × String)}
    {containers : List (String × Container)}
    (decoded : decodeSerialized texts = .ok containers) :
    decodeStoredTexts texts =
      .ok (containers.map (fun entry => (entry.1, entry.2.stored))) := by
  induction texts generalizing containers with
  | nil =>
      cases Except.ok.inj decoded
      rfl
  | cons first rest inductionHypothesis =>
      obtain ⟨key, text⟩ := first
      unfold decodeSerialized at decoded
      cases front : Wire.decodeContainer text with
      | error fault =>
          rw [front] at decoded
          contradiction
      | ok container =>
          rw [front] at decoded
          dsimp only at decoded
          cases others : decodeSerialized rest with
          | error fault =>
              rw [others] at decoded
              contradiction
          | ok found =>
              rw [others] at decoded
              cases Except.ok.inj decoded
              have frontStored := Wire.decodeStored_of_decodeContainer front
              have othersStored := inductionHypothesis others
              unfold decodeStoredTexts at othersStored ⊢
              rw [List.mapM_cons, othersStored]
              simp only [frontStored]
              rfl

theorem decodeStored_of_ofSerialized {texts : Entries String} {layout : Layout}
    (made : ofSerialized texts = .ok layout) :
    ∃ containers, decodeStoredTexts texts.toList = .ok containers ∧
      layout.stored = .ofList containers := by
  unfold ofSerialized at made
  cases decoded : decodeSerialized texts.toList with
  | error fault =>
      rw [decoded] at made
      contradiction
  | ok containers =>
      rw [decoded] at made
      refine ⟨_, decodeStored_of_decodeSerialized decoded, ?_⟩
      dsimp only at made
      cases checked : ofEntries (.ofList containers) with
      | error fault =>
          rw [checked] at made
          contradiction
      | ok found =>
          rw [checked] at made
          cases Except.ok.inj made
          rw [stored_of_ofEntries checked]
          exact Roster.image_ofList _ containers

end Layout

end WarmStandby
