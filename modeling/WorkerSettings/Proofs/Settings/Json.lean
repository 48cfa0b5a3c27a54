import WorkerSettings.Identity.Json
import WorkerSettings.Settings.Render
import WorkerSettings.Proofs.Json.Accepted
import WorkerSettings.Proofs.Json.Rearranged
import WorkerSettings.Proofs.Json.Writing
import WorkerSettings.Proofs.Settings.Validation

/-!
# Settings and identities as JSON

The two records of the worker are instances of what holds of every record: what is written
is read back, and an object is read exactly if its members describe a record. For settings
the description is spelled out key by key in `Settings.Describes`.
-/

namespace WorkerSettings

open Json

theorem Settings.readable : Readable Settings.record.fields where
  distinct := by decide
  narrow := by decide

theorem Identity.readable : Readable Identity.record.fields where
  distinct := by decide
  narrow := by decide

/-- The values of settings make the settings again. -/
theorem Settings.ofTuple_toTuple (settings : Settings) :
    record.ofTuple (record.toTuple settings) = settings.validated := by
  obtain ⟨name, version, queue, failureQueue, threads, size, time⟩ := settings
  cases size <;> cases time <;> rfl

theorem Identity.ofTuple_toTuple (identity : Identity) :
    record.ofTuple (record.toTuple identity) = .ok identity :=
  ofTexts_name_version identity

/-- Valid settings are read back from JSON in every layout of blanks, and blanks may follow. -/
theorem Settings.ofJson_toJson_append {settings : Settings} (valid : settings.validate = .ok ())
    {layout : Layout} (blank : layout.Blank) {gap : String} (blankGap : IsBlanks gap.toList) :
    ofJson (settings.toJson layout ++ gap) = .ok settings := by
  rw [ofJson, toJson, String.toList_append, String.toList_ofList]
  refine Shape.read_write readable blank blankGap ?_
  rw [ofTuple_toTuple, validated_eq_ok_iff]
  exact ⟨valid, rfl⟩

theorem Settings.ofJson_toJson {settings : Settings} (valid : settings.validate = .ok ())
    {layout : Layout} (blank : layout.Blank) : ofJson (settings.toJson layout) = .ok settings := by
  rw [← String.append_empty (s := settings.toJson layout)]
  exact ofJson_toJson_append valid blank .nil

/-- Settings that are not valid are refused when they are read back, with the fault that they
have. -/
theorem Settings.ofJson_toJson_refused {settings : Settings} {fault : Fault}
    (first : FirstFault settings fault) {layout : Layout} (blank : layout.Blank) :
    ofJson (settings.toJson layout) = .error (.mismatch (.refused fault)) := by
  rw [ofJson, toJson, String.toList_ofList]
  refine Shape.read_write_refused readable blank ?_
  rw [ofTuple_toTuple, validated_eq_error_iff]
  exact first

theorem Identity.ofJson_toJson (identity : Identity) {layout : Layout} (blank : layout.Blank) :
    ofJson (identity.toJson layout) = .ok identity := by
  rw [ofJson, toJson, String.toList_ofList, ← List.append_nil (record.write layout identity)]
  exact Shape.read_write readable blank .nil identity.ofTuple_toTuple

/-- No valid settings and no identity are changed by writing and reading them. -/
theorem json_round_trip :
    (∀ settings : Settings, settings.validate = .ok () →
      Settings.ofJson (settings.toJson .compact) = .ok settings ∧
        Settings.ofJson (settings.render .json) = .ok settings) ∧
      ∀ identity : Identity, Identity.ofJson (identity.toJson .compact) = .ok identity := by
  constructor
  · intro settings valid
    exact ⟨settings.ofJson_toJson valid .compact, settings.ofJson_toJson valid .pretty⟩
  · intro identity
    exact identity.ofJson_toJson .compact

def Settings.escaped : Settings where
  workerName := "\" and \\ and \x00"
  workerVersion := "é\n"
  outputQueue := " "
  failureQueue := some ""
  threads := 20
  maxBatchSize := some 0
  maxBatchTime := none

theorem json_round_trip_escaped :
    Settings.escaped.validate = .ok () ∧
      Settings.ofJson (Settings.escaped.toJson .compact) = .ok Settings.escaped ∧
      Settings.ofJson (Settings.escaped.render .json) = .ok Settings.escaped :=
  ⟨by rfl, json_round_trip.1 Settings.escaped (by rfl)⟩

/-- The members give the key one text, and it is of a kind. -/
def Gives (members : List Member) (key : String) (kind : List Char → Prop) : Prop :=
  ∃ text, valuesOf members key = [text] ∧ kind text

/-- As `Gives`, for a value that may be left out: with no value the members give the key no
text, or `null` alone. -/
def MayGive {α : Type} (members : List Member) (key : String) (kind : α → List Char → Prop) :
    Option α → Prop
  | none => valuesOf members key = [] ∨ valuesOf members key = ["null".toList]
  | some value => Gives members key (kind value)

def IsText (value : String) (text : List Char) : Prop :=
  SpellsString text value

/-- The text is digits alone, and their value is the number. -/
def IsCount (n : Nat) (text : List Char) : Prop :=
  IsDigits text ∧ Numeral.value text = n

theorem mayGive_map_iff {α β : Type} {members : List Member} {key : String}
    {kind : β → List Char → Prop} {f : α → β} {value : Option α} :
    MayGive members key kind (value.map f) ↔ MayGive members key (kind ∘ f) value := by
  cases value <;> rfl

theorem holds_required_iff {key : String} {form : Form} {members : List Member}
    {v : form.Value} :
    (Field.required key form).Holds (valuesOf members key) v ↔
      Gives members key (form.Spells · v) := by
  simp [Field.Holds, Field.absent?, Field.Spells, Gives]

theorem holds_optional_iff {key : String} {form : Form} {members : List Member}
    {v : Option form.Value} :
    (Field.optional key form).Holds (valuesOf members key) v ↔
      MayGive members key (fun v text => form.Spells text v) v := by
  cases v <;> simp [Field.Holds, Field.absent?, Field.Spells, MayGive, Gives]

namespace Settings

/-- The members of an object describe valid settings: each known key occurs once at most,
those that must occur do, and every value is of its kind. -/
structure Describes (members : List Member) (settings : Settings) : Prop where
  workerName : Gives members "workerName" (IsText settings.workerName)
  workerVersion : Gives members "workerVersion" (IsText settings.workerVersion)
  outputQueue : Gives members "outputQueue" (IsText settings.outputQueue)
  failureQueue : MayGive members "failureQueue" IsText settings.failureQueue
  threads : Gives members "threads" (IsCount settings.threads.toNat)
  maxBatchSize : MayGive members "maxBatchSize" (IsCount ·.toNat) settings.maxBatchSize
  maxBatchTime : MayGive members "maxBatchTime" (IsCount ·.toNat) settings.maxBatchTime
  valid : settings.validate = .ok ()

/-- Settings are made of the values that the members hold exactly if the members describe
them. -/
theorem describes_iff {members : List Member} {settings : Settings} :
    (∃ values, Holds record.fields members values ∧ record.ofTuple values = .ok settings) ↔
      Describes members settings := by
  constructor
  · rintro ⟨⟨name, version, queue, failureQueue, threads, size, time, ⟨⟩⟩, holds, made⟩
    obtain ⟨valid, rfl⟩ := validated_eq_ok_iff.mp made
    obtain ⟨holdsName, holdsVersion, holdsQueue, holdsFailure, holdsThreads, holdsSize, holdsTime,
      _⟩ := holds
    refine
      { workerName := holds_required_iff.mp holdsName
        workerVersion := holds_required_iff.mp holdsVersion
        outputQueue := holds_required_iff.mp holdsQueue
        failureQueue := holds_optional_iff.mp holdsFailure
        threads := holds_required_iff.mp holdsThreads
        maxBatchSize := mayGive_map_iff.mpr (holds_optional_iff.mp holdsSize)
        maxBatchTime := mayGive_map_iff.mpr (holds_optional_iff.mp holdsTime)
        valid }
  · intro describes
    refine ⟨record.toTuple settings, ⟨?_, ?_, ?_, ?_, ?_, ?_, ?_, trivial⟩, ?_⟩
    · exact holds_required_iff.mpr describes.workerName
    · exact holds_required_iff.mpr describes.workerVersion
    · exact holds_required_iff.mpr describes.outputQueue
    · exact holds_optional_iff.mpr describes.failureQueue
    · exact holds_required_iff.mpr describes.threads
    · exact holds_optional_iff.mpr (mayGive_map_iff.mpr describes.maxBatchSize)
    · exact holds_optional_iff.mpr (mayGive_map_iff.mpr describes.maxBatchTime)
    · rw [ofTuple_toTuple, validated_eq_ok_iff]
      exact ⟨describes.valid, rfl⟩

theorem ofJson_iff_describes {text : String} {members : List Member}
    (object : SpellsObject text.toList members) {settings : Settings} :
    ofJson text = .ok settings ↔ Describes members settings := by
  rw [ofJson, Shape.read_object_iff readable object]
  exact describes_iff

/-- Settings are read from an object exactly if its members describe them, so a known key is
read alike in every place, every spelling and every company of other keys. A text that starts
like an object and is read is an object. -/
theorem ofJson_object (text : String) :
    (∀ members, SpellsObject text.toList members →
      ∀ settings, ofJson text = .ok settings ↔ Describes members settings) ∧
    (∀ members text' members', SpellsObject text.toList members →
      SpellsObject text'.toList members' →
      Rearranged (record.fields.map Field.key) members members' →
      ∀ settings, ofJson text = .ok settings ↔ ofJson text' = .ok settings) ∧
    ∀ rest settings, dropBlanks text.toList = '\x7b' :: rest → ofJson text = .ok settings →
      ∃ members, SpellsObject text.toList members := by
  refine ⟨?_, ?_, ?_⟩
  · intro members object settings
    exact ofJson_iff_describes object
  · intro members text' members' object object' rearranged settings
    rw [ofJson_iff_describes object, ofJson_iff_describes object', ← describes_iff,
      ← describes_iff]
    simp only [holds_iff_of_rearranged rearranged]
  · intro rest settings start read
    exact Shape.exists_object read start

def shuffledSettings : Settings where
  workerName := "c"
  workerVersion := "a"
  outputQueue := "b"
  failureQueue := none
  threads := 4
  maxBatchSize := none
  maxBatchTime := none

/-- The members of those settings, one of them written with an escape, and an unknown one. -/
def shuffledMembers : List Member :=
  [("threads", ['4']), ("workerVersion", "\"\\u0061\"".toList), ("x", "[\x7b\x7d]".toList),
    ("outputQueue", quote "b"), ("workerName", quote "c")]

def shuffledText : String :=
  " \x7b\"threads\": 4,\"workerVersion\":\"\\u0061\",\"x\":[\x7b\x7d],\"outputQueue\":\"b\"," ++
    "\"workerName\":\"c\"\x7d\n"

theorem spellsUnit_a : SpellsUnit ['0', '0', '6', '1'] 'a'.toNat :=
  codeUnit?_eq_some_iff.mp rfl

theorem shuffledText_spells : SpellsObject shuffledText.toList shuffledMembers := by
  have space : IsBlanks [' '] := by decide
  have threads : SpellsMember "\"threads\": 4".toList ("threads", ['4']) :=
    .mk .nil (spellsString_quote "threads") .nil space (Form.derives_write (.count 32) 4) .nil
  have version : SpellsMember "\"workerVersion\":\"\\u0061\"".toList
      ("workerVersion", "\"\\u0061\"".toList) :=
    .mk .nil (spellsString_quote "workerVersion") .nil .nil (.string (.unit spellsUnit_a .nil)) .nil
  have unknown : SpellsMember "\"x\":[\x7b\x7d]".toList ("x", "[\x7b\x7d]".toList) :=
    .mk .nil (spellsString_quote "x") .nil .nil (.list (.lastElement .nil (.emptyObject .nil) .nil))
      .nil
  have queue : SpellsMember "\"outputQueue\":\"b\"".toList ("outputQueue", quote "b") :=
    .mk .nil (spellsString_quote "outputQueue") .nil .nil (Form.derives_write .text "b") .nil
  have name : SpellsMember "\"workerName\":\"c\"".toList ("workerName", quote "c") :=
    .mk .nil (spellsString_quote "workerName") .nil .nil (Form.derives_write .text "c") .nil
  have members := SpellsMembers.cons threads <| .cons version <| .cons unknown <| .cons queue <|
    .last name
  exact ⟨[' '], _, ['\n'], space, .members members, by decide, rfl⟩

theorem ofJson_object_shuffled :
    ofJson shuffledText = .ok shuffledSettings ∧ Describes shuffledMembers shuffledSettings := by
  have escaped : SpellsString "\"\\u0061\"".toList "a" :=
    ⟨_, _, rfl, .unit spellsUnit_a .nil, .unit (by decide) .nil⟩
  have rearranged : Rearranged (record.fields.map Field.key) shuffledMembers
      (members record.fields (record.toTuple shuffledSettings)) := by
    refine ⟨[("workerName", quote "c"), ("workerVersion", "\"\\u0061\"".toList),
      ("outputQueue", quote "b"), ("threads", ['4'])], by decide, ?_⟩
    exact .cons ⟨rfl, .refl _⟩ <| .cons ⟨rfl, .spelling escaped (spellsString_quote "a")⟩ <|
      .cons ⟨rfl, .refl _⟩ <| .cons ⟨rfl, .refl _⟩ .nil
  have written : SpellsObject (shuffledSettings.toJson .compact).toList
      (members record.fields (record.toTuple shuffledSettings)) := by
    rw [toJson, String.toList_ofList]
    exact record.spells_write .compact shuffledSettings
  have read : ofJson shuffledText = .ok shuffledSettings :=
    ((ofJson_object shuffledText).2.1 _ _ _ shuffledText_spells written rearranged _).mpr
      (ofJson_toJson rfl .compact)
  exact ⟨read, ((ofJson_object shuffledText).1 _ shuffledText_spells _).mp read⟩

end Settings

end WorkerSettings
