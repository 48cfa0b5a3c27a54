import WorkerSettings.Proofs.Layers.Environment
import WorkerSettings.Proofs.Settings.Validation

/-!
# Building layers

The identity of layers was checked when it was made, and a queue that is derived from a base
name is never empty. What is left to go wrong when layers are built is an output queue that
was written empty, and after that a number of threads that was written out of range.
-/

namespace WorkerSettings

theorem Identity.filled_name (identity : Identity) : Filled identity.name :=
  isFilled_iff.mp identity.name_filled

theorem Identity.filled_version (identity : Identity) : Filled identity.version :=
  isFilled_iff.mp identity.version_filled

namespace Layers

open Settings (ThreadsInRange FirstFault)

/-- The output queue: the one that was written, else one derived from the base name, else from
the name of the deployment, else from the default. -/
def queueOf : (queue base deployment : Option String) → String
  | some queue, _, _ => queue
  | none, some base, _ => base ++ "-out"
  | none, none, some deployment => deployment ++ "-out"
  | none, none, none => "worker-out"

theorem resolvedQueue_eq (layers : Layers) :
    layers.resolvedQueue = queueOf layers.outputQueue layers.baseName layers.deploymentName := by
  rw [resolvedQueue]
  cases layers.outputQueue with
  | some queue => rfl
  | none =>
    cases layers.baseName with
    | some base => rfl
    | none => cases layers.deploymentName <;> rfl

def settingsOf (identity : Identity) (written : (slot : Slot) → Option slot.Value) :
    Settings where
  workerName := identity.name
  workerVersion := identity.version
  outputQueue :=
    queueOf (written .outputQueue) (written .baseName) (written .deploymentName)
  failureQueue := written .failureQueue
  threads := (written .threads).getD 1
  maxBatchSize := written .maxBatchSize
  maxBatchTime := written .maxBatchTime

theorem settings_eq (layers : Layers) :
    layers.settings = settingsOf layers.identity layers.get := by
  rw [settings, resolvedQueue_eq]
  rfl

/-- A derived queue is not empty. -/
theorem resolvedQueue_eq_empty_iff {layers : Layers} :
    layers.resolvedQueue = "" ↔ layers.outputQueue = some "" := by
  rw [resolvedQueue]
  cases layers.outputQueue with
  | some queue => simp
  | none => simp [Defaults.queueSuffix]

/-- The default number of threads is in range. -/
theorem not_inRange_iff {threads : Option UInt32} {n : UInt32} :
    threads.getD Defaults.threads = n ∧ ¬ ThreadsInRange n ↔
      threads = some n ∧ ¬ ThreadsInRange n := by
  cases threads with
  | some threads => simp
  | none =>
    constructor
    · rintro ⟨rfl, outside⟩
      exact (outside (by decide)).elim
    · rintro ⟨none, _⟩
      cases none

theorem build_eq_error_iff {layers : Layers} {fault : Fault} :
    layers.build = .error fault ↔
      (layers.outputQueue = some "" ∧ fault = .emptyOutputQueue) ∨
      (layers.outputQueue ≠ some "" ∧
        ∃ n, layers.threads = some n ∧ ¬ ThreadsInRange n ∧ fault = .invalidThreads n) := by
  rw [build, Settings.validated_eq_error_iff]
  constructor
  · intro first
    cases first with
    | name unfilled => exact (unfilled layers.identity.filled_name).elim
    | version _ unfilled => exact (unfilled layers.identity.filled_version).elim
    | queue _ _ empty => exact .inl ⟨resolvedQueue_eq_empty_iff.mp empty, rfl⟩
    | threads _ _ queue outside =>
      obtain ⟨written, outside⟩ := not_inRange_iff.mp ⟨rfl, outside⟩
      exact .inr ⟨resolvedQueue_eq_empty_iff.not.mp queue, _, written, outside, rfl⟩
  · rintro (⟨empty, rfl⟩ | ⟨queue, n, written, outside, rfl⟩)
    · exact .queue layers.identity.filled_name layers.identity.filled_version
        (resolvedQueue_eq_empty_iff.mpr empty)
    · obtain ⟨rfl, outside⟩ := not_inRange_iff.mpr ⟨written, outside⟩
      exact .threads layers.identity.filled_name layers.identity.filled_version
        (resolvedQueue_eq_empty_iff.not.mpr queue) outside

theorem build_eq_ok_iff {layers : Layers} {settings : Settings} :
    layers.build = .ok settings ↔
      layers.outputQueue ≠ some "" ∧ (∀ n, layers.threads = some n → ThreadsInRange n) ∧
        settings = layers.settings := by
  rw [build, Settings.validated_eq_ok_iff, Settings.validate_eq_ok_iff]
  constructor
  · rintro ⟨valid, rfl⟩
    refine ⟨resolvedQueue_eq_empty_iff.not.mp valid.queue, fun n written => ?_, rfl⟩
    by_contra outside
    obtain ⟨same, _⟩ := not_inRange_iff.mpr ⟨written, outside⟩
    exact outside (same ▸ valid.threads)
  · rintro ⟨queue, inRange, rfl⟩
    refine ⟨⟨layers.identity.filled_name, layers.identity.filled_version,
      resolvedQueue_eq_empty_iff.not.mpr queue, ?_⟩, rfl⟩
    by_contra outside
    obtain ⟨written, _⟩ := not_inRange_iff.mp ⟨rfl, outside⟩
    exact outside (inRange _ written)

end Layers

end WorkerSettings
