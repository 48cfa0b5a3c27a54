import WorkerSettings.Proofs.Layers.Runs
import WorkerSettings.Proofs.Settings.Json

/-!
# The places where settings are checked

Settings are checked as they stand, when layers are built over an identity, and when they are
read from JSON. The identity is checked before there are any layers and a read record only
after all of it is there, and still the three agree: the same settings pass, and of several
faults the same one is reported.
-/

namespace WorkerSettings.Settings

open Layers (Layer Step)

variable {σ : Type} {settings : Settings}

/-- The layer sets a field that the settings have to what they have. -/
inductive Sets (settings : Settings) : Layer σ → Prop
  | outputQueue : Sets settings (.outputQueue settings.outputQueue)
  | failureQueue {queue : String} (present : settings.failureQueue = some queue) :
      Sets settings (.failureQueue queue)
  | threads : Sets settings (.threads settings.threads)
  | maxBatchSize {size : UInt32} (present : settings.maxBatchSize = some size) :
      Sets settings (.maxBatchSize size)
  | maxBatchTime {millis : UInt64} (present : settings.maxBatchTime = some millis) :
      Sets settings (.maxBatchTime millis)

def setters (settings : Settings) : List (Layer σ) :=
  [.outputQueue settings.outputQueue, .threads settings.threads] ++
    settings.failureQueue.toList.map .failureQueue ++
    settings.maxBatchSize.toList.map .maxBatchSize ++
    settings.maxBatchTime.toList.map .maxBatchTime

theorem mem_setters_iff {layer : Layer σ} : layer ∈ settings.setters ↔ settings.Sets layer := by
  simp only [setters, List.mem_append, List.mem_cons, List.not_mem_nil, or_false, List.mem_map,
    Option.mem_toList]
  constructor
  · rintro ((((rfl | rfl) | ⟨_, present, rfl⟩) | ⟨_, present, rfl⟩) | ⟨_, present, rfl⟩)
    · exact .outputQueue
    · exact .threads
    · exact .failureQueue present
    · exact .maxBatchSize present
    · exact .maxBatchTime present
  · intro sets
    cases sets with
    | outputQueue => simp
    | failureQueue present | threads | maxBatchSize present | maxBatchTime present => simp [*]

variable [Snapshot σ]

def stepsOf (layers : List (Layer σ)) : List Step :=
  layers.map fun layer => ⟨layer⟩

/-- Build the layers over an identity of the two texts. -/
def assemble (name version : String) (layers : List (Layer σ)) : Except Fault Settings := do
  let identity ← Identity.ofTexts name version
  ((Layers.ofIdentity identity).run (stepsOf layers)).build

/-- What the settings have for each slot. A base for the queue is not part of them. -/
def given (settings : Settings) : (slot : Layers.Slot) → Option slot.Value
  | .outputQueue => some settings.outputQueue
  | .baseName => none
  | .deploymentName => none
  | .failureQueue => settings.failureQueue
  | .threads => some settings.threads
  | .maxBatchSize => settings.maxBatchSize
  | .maxBatchTime => settings.maxBatchTime

theorem Sets.given_eq {layer : Layer σ} (sets : settings.Sets layer) {slot : Layers.Slot}
    {value : slot.Value} (writes : layer.Writes slot value) :
    settings.given slot = some value := by
  cases sets with
  | outputQueue | threads =>
    cases writes
    rfl
  | failureQueue present | maxBatchSize present | maxBatchTime present =>
    cases writes
    exact present

theorem exists_sets {slot : Layers.Slot} {value : slot.Value}
    (present : settings.given slot = some value) :
    ∃ layer : Layer σ, settings.Sets layer ∧ layer.Writes slot value := by
  cases slot with
  | outputQueue =>
    cases present
    exact ⟨_, .outputQueue, .outputQueue _⟩
  | baseName | deploymentName => cases present
  | failureQueue => exact ⟨_, .failureQueue present, .failureQueue value⟩
  | threads =>
    cases present
    exact ⟨_, .threads, .threads _⟩
  | maxBatchSize => exact ⟨_, .maxBatchSize present, .maxBatchSize value⟩
  | maxBatchTime => exact ⟨_, .maxBatchTime present, .maxBatchTime value⟩

theorem mem_stepsOf_iff {layers : List (Layer σ)} {step : Step} :
    step ∈ stepsOf layers ↔ ∃ layer ∈ layers, ⟨layer⟩ = step :=
  List.mem_map

/-- Once all fields are set, every slot holds what the settings have for it. -/
theorem get_run_of_sets {layers : List (Layer σ)}
    (sets : ∀ layer, layer ∈ layers ↔ settings.Sets layer) (identity : Identity)
    (slot : Layers.Slot) :
    ((Layers.ofIdentity identity).run (stepsOf layers)).get slot = settings.given slot := by
  have last := Layers.lastWrites_run identity (stepsOf layers) slot
  cases held : ((Layers.ofIdentity identity).run (stepsOf layers)).get slot with
  | some value =>
    rw [held] at last
    obtain ⟨before, writer, after, split, writes, _⟩ := last
    have ran : writer ∈ stepsOf layers := by simp [split]
    obtain ⟨layer, member, rfl⟩ := mem_stepsOf_iff.mp ran
    exact (((sets layer).mp member).given_eq writes).symm
  | none =>
    rw [held] at last
    cases wanted : settings.given slot with
    | none => rfl
    | some value =>
      have setters : ∃ layer : Layer σ, settings.Sets layer ∧ layer.Writes slot value :=
        exists_sets wanted
      obtain ⟨layer, setter, writes⟩ := setters
      have ran := mem_stepsOf_iff.mpr ⟨layer, (sets layer).mpr setter, rfl⟩
      exact (last _ ran value writes).elim

theorem settingsOf_given {identity : Identity} (name : identity.name = settings.workerName)
    (version : identity.version = settings.workerVersion) :
    Layers.settingsOf identity settings.given = settings := by
  obtain ⟨workerName, workerVersion, queue, failureQueue, threads, size, time⟩ := settings
  obtain rfl : identity.name = workerName := name
  obtain rfl : identity.version = workerVersion := version
  rfl

/-- Layers that set every field are built as the settings are checked. -/
theorem assemble_eq {layers : List (Layer σ)}
    (sets : ∀ layer, layer ∈ layers ↔ settings.Sets layer) :
    assemble settings.workerName settings.workerVersion layers = settings.validated := by
  by_cases name : Identity.Filled settings.workerName
  · by_cases version : Identity.Filled settings.workerVersion
    · rw [assemble, Identity.ofTexts_of_filled name version]
      simp only [bind, Except.bind]
      rw [Layers.build, Layers.settings_eq, Layers.run_identity,
        funext (get_run_of_sets sets _), settingsOf_given rfl rfl]
    · rw [assemble, Identity.ofTexts_of_not_version name version,
        validated_eq_error_iff.mpr (.version name version)]
      rfl
  · rw [assemble, Identity.ofTexts_of_not_name name, validated_eq_error_iff.mpr (.name name)]
    rfl

/-- Settings are valid exactly if their checks are met, and else have the fault of the first
check that is not. Setting every field over an identity of their texts and building, and
reading back what is written of them, both give the settings if they are valid and the same
fault if they are not. -/
theorem checked_alike (settings : Settings) :
    (settings.validate = .ok () ↔ Valid settings) ∧
    (∀ fault, settings.validate = .error fault ↔ FirstFault settings fault) ∧
    (settings.validate = .ok () →
      (∀ {σ : Type} [Snapshot σ] (layers : List (Layer σ)),
        (∀ layer, layer ∈ layers ↔ settings.Sets layer) →
        assemble settings.workerName settings.workerVersion layers = .ok settings) ∧
      ofJson (settings.toJson .compact) = .ok settings) ∧
    ∀ fault, settings.validate = .error fault →
      (∀ {σ : Type} [Snapshot σ] (layers : List (Layer σ)),
        (∀ layer, layer ∈ layers ↔ settings.Sets layer) →
        assemble settings.workerName settings.workerVersion layers = .error fault) ∧
      ∃ cause, ofJson (settings.toJson .compact) = .error (.mismatch cause) ∧
        cause.message = fault.message := by
  refine ⟨validate_eq_ok_iff, fun fault => validate_eq_error_iff, ?_, ?_⟩
  · intro valid
    refine ⟨fun layers sets => ?_, settings.ofJson_toJson valid .compact⟩
    rw [assemble_eq sets, validated_eq_ok_iff]
    exact ⟨valid, rfl⟩
  · intro fault failed
    have first := validate_eq_error_iff.mp failed
    refine ⟨fun layers sets => ?_, _, ofJson_toJson_refused first .compact, rfl⟩
    rw [assemble_eq sets, validated_eq_error_iff]
    exact first

/-- Settings with an empty queue, a dollar sign before a brace and no limit on the size of a
batch. -/
def emptyQueue : Settings where
  workerName := "conveyor \""
  workerVersion := "$\n\x7b"
  outputQueue := ""
  failureQueue := some ""
  threads := 20
  maxBatchSize := none
  maxBatchTime := some 0

def blankQueue : Settings :=
  { emptyQueue with outputQueue := " " }

def unsubstituted : Settings :=
  { emptyQueue with workerVersion := "\"$\x7bversion\x7d", threads := 21 }

theorem checked_alike_unsubstituted :
    assemble blankQueue.workerName blankQueue.workerVersion
        (blankQueue.setters : List (Layer Environment)) = .ok blankQueue ∧
    ofJson (blankQueue.toJson .compact) = .ok blankQueue ∧
    assemble emptyQueue.workerName emptyQueue.workerVersion
        (emptyQueue.setters : List (Layer Environment)) = .error .emptyOutputQueue ∧
    assemble unsubstituted.workerName unsubstituted.workerVersion
        (unsubstituted.setters.reverse : List (Layer Environment)) =
      .error (.missingDefault .version) ∧
    ∃ cause, ofJson (unsubstituted.toJson .compact) = .error (.mismatch cause) ∧
      cause.message = (Fault.missingDefault .version).message := by
  obtain ⟨_, _, accepted, _⟩ := checked_alike blankQueue
  obtain ⟨_, _, _, refusedQueue⟩ := checked_alike emptyQueue
  obtain ⟨_, _, _, refusedVersion⟩ := checked_alike unsubstituted
  obtain ⟨built, read⟩ := accepted (by decide)
  obtain ⟨unbuilt, _⟩ := refusedQueue .emptyOutputQueue (by decide)
  obtain ⟨unbuilt', unread⟩ := refusedVersion (.missingDefault .version) (by decide)
  refine ⟨built _ fun layer => mem_setters_iff, read, unbuilt _ fun layer => mem_setters_iff,
    unbuilt' _ fun layer => ?_, unread⟩
  rw [List.mem_reverse]
  exact mem_setters_iff

end WorkerSettings.Settings
