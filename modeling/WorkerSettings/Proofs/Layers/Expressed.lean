import WorkerSettings.Proofs.Layers.Resolution

/-!
# Settings as an environment

Valid settings can be written into an environment and are read back from it as they were. Five
variables carry them: the queues as they are, the counts in decimal, an absent value as nothing.
What else the environment holds is of no account, and neither is how a count is written: with
zeros before it, after a plus sign, between blanks. A failure queue of the empty name is the
one valid setting that cannot be written so, since an empty variable counts as not set.
-/

namespace WorkerSettings

open Snapshot (text? value? count?)

namespace Settings

variable {σ : Type} [Snapshot σ]

/-- The variable holds a text of the value, or nothing if there is no value: it is not set, or
empty. -/
def Carries {α : Type} (env : σ) (name : String) (isText : String → α → Prop) : Option α → Prop
  | some value => ∃ text, text? env name = some text ∧ isText text value
  | none => (text? env name).getD "" = ""

structure ExpressedBy (settings : Settings) (env : σ) : Prop where
  outputQueue : text? env Variables.outputQueue = some settings.outputQueue
  failureQueue : Carries env Variables.failureQueue (fun text queue => text = queue)
    settings.failureQueue
  threads : Carries env Variables.threads
    (fun text threads => Numeral.IsDecimal text.toList threads.toNat) (some settings.threads)
  maxBatchSize : Carries env Variables.maxBatchSize
    (fun text size => Numeral.IsDecimal text.toList size.toNat) settings.maxBatchSize
  maxBatchTime : Carries env Variables.maxBatchTime
    (fun text millis => Numeral.IsDecimal text.toList millis.toNat) settings.maxBatchTime

theorem Carries.value?_eq {env : σ} {name : String} {queue : Option String}
    (carries : Carries env name (fun text queue => text = queue) queue) (named : queue ≠ some "") :
    value? env name = queue := by
  cases queue with
  | none =>
    have empty : (text? env name).getD "" = "" := carries
    rw [Snapshot.value?_eq, if_pos empty]
  | some queue =>
    obtain ⟨text, found, rfl⟩ := carries
    exact Snapshot.value?_eq_some_iff.mpr ⟨found, fun empty => named (empty ▸ rfl)⟩

theorem Carries.count?_eq {α : Type} {width : Nat} (toBits : α → BitVec width) {env : σ}
    {name : String} {count : Option α}
    (carries : Carries env name
      (fun text count => Numeral.IsDecimal text.toList (toBits count).toNat) count) :
    count? width env name = .ok (count.map toBits) := by
  cases count with
  | none =>
    have empty : (text? env name).getD "" = "" := carries
    rw [Option.map_none, Snapshot.count?_eq_none_iff, Snapshot.value?_eq, if_pos empty]
  | some count =>
    obtain ⟨text, found, decimal⟩ := carries
    have spells := decimal.spells
    rw [Option.map_some, Snapshot.count?_eq_some_iff]
    refine ⟨text, Snapshot.value?_eq_some_iff.mpr ⟨found, ?_⟩, spells⟩
    rintro rfl
    exact spells.ne_nil rfl

theorem resolve_of_expressedBy {settings : Settings} (valid : settings.Valid)
    (named : settings.failureQueue ≠ some "") {env : σ} (expressed : settings.ExpressedBy env)
    {identity : Identity} (name : identity.name = settings.workerName)
    (version : identity.version = settings.workerVersion) :
    resolve identity env = .ok settings := by
  have queue : value? env Variables.outputQueue = some settings.outputQueue :=
    Snapshot.value?_eq_some_iff.mpr ⟨expressed.outputQueue, valid.queue⟩
  have failureQueue := expressed.failureQueue.value?_eq named
  have threads := expressed.threads.count?_eq UInt32.toBitVec
  have size := expressed.maxBatchSize.count?_eq UInt32.toBitVec
  have time := expressed.maxBatchTime.count?_eq UInt64.toBitVec
  rw [resolve, Layers.withEnvironment_eq, threads, size, time, queue, failureQueue]
  refine Layers.build_eq_ok_iff.mpr ⟨?_, ?_, ?_⟩
  · exact fun empty => valid.queue (Option.some.inj empty)
  · intro n written
    cases written
    exact valid.threads
  · simp [Layers.settings, Layers.resolvedQueue, Layers.ofIdentity, name, version,
      Function.comp_def]

/-- The environment with the settings written into it: counts in decimal, absent values empty.
What it holds of other names stays. -/
def express (settings : Settings) (env : Std.HashMap String String) : Std.HashMap String String :=
  ((((env.insert Variables.outputQueue settings.outputQueue).insert Variables.failureQueue
    (settings.failureQueue.getD "")).insert Variables.threads
    (Nat.repr settings.threads.toNat)).insert Variables.maxBatchSize
    ((settings.maxBatchSize.map fun size => Nat.repr size.toNat).getD "")).insert
    Variables.maxBatchTime ((settings.maxBatchTime.map fun millis => Nat.repr millis.toNat).getD "")

/-- A variable that holds the text of a value, or the empty text for none, carries it. -/
theorem carries_of_getD {α : Type} {env : σ} {name : String} {isText : String → α → Prop}
    (text : α → String) (isText_text : ∀ value, isText (text value) value) {value : Option α}
    (found : text? env name = some ((value.map text).getD "")) : Carries env name isText value := by
  cases value with
  | none =>
    rw [Carries, found]
    rfl
  | some value => exact ⟨text value, found, isText_text value⟩

theorem expressedBy_express (settings : Settings) (env : Std.HashMap String String) :
    settings.ExpressedBy (settings.express env) := by
  have lookup (name : String) : text? (settings.express env) name =
      if Variables.maxBatchTime == name then
        some ((settings.maxBatchTime.map fun millis => Nat.repr millis.toNat).getD "")
      else if Variables.maxBatchSize == name then
        some ((settings.maxBatchSize.map fun size => Nat.repr size.toNat).getD "")
      else if Variables.threads == name then some (Nat.repr settings.threads.toNat)
      else if Variables.failureQueue == name then some (settings.failureQueue.getD "")
      else if Variables.outputQueue == name then some settings.outputQueue else env[name]? := by
    simp only [express, text?, Std.HashMap.getElem?_insert]
  constructor
  · rw [lookup]
    rfl
  · refine carries_of_getD id (fun _ => rfl) ?_
    rw [lookup, Option.map_id_fun]
    rfl
  · refine carries_of_getD (fun threads : UInt32 => Nat.repr threads.toNat)
      (fun threads => Numeral.isDecimal_repr threads.toNat) ?_
    rw [lookup]
    rfl
  · refine carries_of_getD _ (fun size => Numeral.isDecimal_repr size.toNat) ?_
    rw [lookup]
    rfl
  · refine carries_of_getD _ (fun millis => Numeral.isDecimal_repr millis.toNat) ?_
    rw [lookup]
    rfl

/-- No environment gives a failure queue without a name. -/
theorem failureQueue_of_resolve {identity : Identity} {env : σ} {settings : Settings}
    (resolved : resolve identity env = .ok settings) : settings.failureQueue ≠ some "" := by
  obtain ⟨spelled, _⟩ := exists_resolve_iff.mp ⟨settings, resolved⟩
  obtain ⟨added, ok, _, holds⟩ := Layers.exists_ofEnvironment identity spelled
  have built : added.build = .ok settings := by
    rw [← resolved, resolve, ok]
    rfl
  obtain ⟨_, _, rfl⟩ := Layers.build_eq_ok_iff.mp built
  intro unnamed
  obtain ⟨text, found, rfl⟩ := (holds .failureQueue "").mp unnamed
  exact (Snapshot.value?_eq_some_iff.mp found).2 rfl

/-- Valid settings whose failure queue has a name, if there is one, are resolved from their own
name and version in every environment that holds them, whatever else it holds, and there is such
an environment over each other one. A failure queue without a name comes from no environment. -/
theorem resolve_expressed :
    (∀ settings : Settings, settings.validate = .ok () → settings.failureQueue ≠ some "" →
      ∃ identity, Identity.ofTexts settings.workerName settings.workerVersion = .ok identity ∧
        (∀ {σ : Type} [Snapshot σ] (env : σ), settings.ExpressedBy env →
          resolve identity env = .ok settings) ∧
        ∀ others : Std.HashMap String String, settings.ExpressedBy (settings.express others)) ∧
    ∀ {σ : Type} [Snapshot σ] (identity : Identity) (env : σ) (settings : Settings),
      settings.failureQueue = some "" → resolve identity env ≠ .ok settings := by
  constructor
  · intro settings validated named
    have valid := validate_eq_ok_iff.mp validated
    refine ⟨_, Identity.ofTexts_of_filled valid.name valid.version, ?_, ?_⟩
    · intro σ _ env expressed
      exact resolve_of_expressedBy valid named expressed rfl rfl
    · exact fun others => expressedBy_express settings others
  · intro σ _ identity env settings unnamed resolved
    exact failureQueue_of_resolve resolved unnamed

def blankQueues : Settings where
  workerName := " w "
  workerVersion := "1"
  outputQueue := " "
  failureQueue := some "\t"
  threads := 20
  maxBatchSize := none
  maxBatchTime := some 18446744073709551615

/-- Those settings with blanks, signs and zeros, among values that make no difference. -/
def paddedProcess : Environment where
  entries := [(Variables.baseQueueName, "base".toUTF8), (Variables.outputQueue, " ".toUTF8),
    (Variables.failureQueue, "\t".toUTF8), (Variables.threads, "\u00A0+0020\n".toUTF8),
    (Variables.maxBatchSize, "".toUTF8), (Variables.workerName, ⟨#[0xFF]⟩),
    (Variables.maxBatchTime, "018446744073709551615\u2003".toUTF8), ("PATH", "-1".toUTF8)]

theorem resolve_expressed_padded :
    blankQueues.validate = .ok () ∧
      ((Identity.ofTexts blankQueues.workerName blankQueues.workerVersion).bind fun identity =>
        resolve identity paddedProcess) = .ok blankQueues := by
  have valid : blankQueues.validate = .ok () := by decide +kernel
  have nothing : ∀ c ∈ ([] : List Char), Text.isBlank c = true := List.forall_mem_nil _
  have space : ∀ c ∈ ['\u00A0'], Text.isBlank c = true := List.forall_mem_singleton.mpr (by decide)
  have line : ∀ c ∈ ['\n'], Text.isBlank c = true := List.forall_mem_singleton.mpr (by decide)
  have wide : ∀ c ∈ ['\u2003'], Text.isBlank c = true := List.forall_mem_singleton.mpr (by decide)
  have threads : Numeral.IsDecimal "\u00A0+0020\n".toList 20 := .mk 20 2 space (.inr rfl) line
  have time : Numeral.IsDecimal "018446744073709551615\u2003".toList 18446744073709551615 :=
    .mk 18446744073709551615 1 nothing (.inl rfl) wide
  have noSize : (text? paddedProcess Variables.maxBatchSize).getD "" = "" := by decide +kernel
  have expressed : blankQueues.ExpressedBy paddedProcess :=
    ⟨by decide +kernel, ⟨"\t", by decide +kernel, rfl⟩, ⟨_, by decide +kernel, threads⟩, noSize,
      ⟨_, by decide +kernel, time⟩⟩
  obtain ⟨identity, settled, resolved, _⟩ := resolve_expressed.1 blankQueues valid (by decide)
  refine ⟨valid, ?_⟩
  rw [settled]
  exact resolved paddedProcess expressed

end Settings

end WorkerSettings
