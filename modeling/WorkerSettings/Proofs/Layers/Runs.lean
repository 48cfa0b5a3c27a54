import Mathlib.Data.List.Induction
import WorkerSettings.Proofs.LastEntry
import WorkerSettings.Proofs.Layers.Building

/-!
# Runs of layers

Layers are put one over the other in any number and order, and an environment that fails
leaves what was there. After a run every slot holds what the last layer that wrote it has
written: that is kept by one more layer, since it either writes the slot or leaves it alone.
The settings of a run follow from its slots, so of the three slots that an output queue comes
from it only matters which were written, and not when.
-/

namespace WorkerSettings.Layers

open Settings (ThreadsInRange)

/-- A layer writes a value to a slot. An environment does so only if its counts are numerals. -/
inductive Layer.Writes {σ : Type} [Snapshot σ] : Layer σ → (slot : Slot) → slot.Value → Prop
  | defaultThreads : Writes .defaults .threads 1
  | defaultOutputQueue : Writes .defaults .outputQueue "output-queue"
  | defaultMaxBatchSize : Writes .defaults .maxBatchSize 1
  | defaultMaxBatchTime : Writes .defaults .maxBatchTime 1
  | outputQueue (queue : String) : Writes (.outputQueue queue) .outputQueue queue
  | baseName (base : String) : Writes (.baseName base) .baseName base
  | failureQueue (queue : String) : Writes (.failureQueue queue) .failureQueue queue
  | threads (threads : UInt32) : Writes (.threads threads) .threads threads
  | maxBatchSize (size : UInt32) : Writes (.maxBatchSize size) .maxBatchSize size
  | maxBatchTime (millis : UInt64) : Writes (.maxBatchTime millis) .maxBatchTime millis
  | environment {env : σ} {slot : Slot} {value : slot.Value}
      (spelled : Snapshot.CountsSpelled env) (gives : slot.Gives env value) :
      Writes (.environment env) slot value

theorem Layer.Writes.unique {σ : Type} [Snapshot σ] {layer : Layer σ} {slot : Slot}
    {value other : slot.Value} (first : layer.Writes slot value)
    (second : layer.Writes slot other) : value = other := by
  cases first with
  | environment _ gives =>
    cases second with
    | environment _ gives' => exact gives.unique gives'
  | _ =>
    cases second
    rfl

/-- A layer of a run. The environments of a run may be snapshots of different kinds. -/
structure Step : Type 1 where
  {Source : Type}
  [snapshot : Snapshot Source]
  layer : Layer Source

attribute [instance] Step.snapshot

/-- Put one more layer over the others, unless it fails. -/
def step (layers : Layers) (step : Step) : Layers :=
  match layers.add step.layer with
  | .ok added => added
  | .error _ => layers

def run (layers : Layers) (steps : List Step) : Layers :=
  steps.foldl step layers

/-- The last step that writes the slot writes the value, or no step writes it and there is
none. -/
def LastWrites (steps : List Step) (slot : Slot) : Option slot.Value → Prop
  | some value =>
    ∃ before last after, steps = before ++ last :: after ∧ last.layer.Writes slot value ∧
      ∀ later ∈ after, ∀ other, ¬ later.layer.Writes slot other
  | none => ∀ step ∈ steps, ∀ value, ¬ step.layer.Writes slot value

/-- One more layer either writes a slot or leaves it alone. -/
theorem overwrites_step (layers : Layers) (step : Step) (slot : Slot) :
    Overwrites (step.layer.Writes slot) (layers.get slot) ((layers.step step).get slot) := by
  obtain ⟨layer⟩ := step
  cases layer with
  | defaults =>
    cases slot with
    | threads => exact .inl ⟨_, .defaultThreads, rfl⟩
    | outputQueue => exact .inl ⟨_, .defaultOutputQueue, rfl⟩
    | maxBatchSize => exact .inl ⟨_, .defaultMaxBatchSize, rfl⟩
    | maxBatchTime => exact .inl ⟨_, .defaultMaxBatchTime, rfl⟩
    | _ => exact .inr ⟨by rintro _ ⟨⟩, rfl⟩
  | outputQueue queue =>
    cases slot with
    | outputQueue => exact .inl ⟨_, .outputQueue queue, rfl⟩
    | _ => exact .inr ⟨by rintro _ ⟨⟩, rfl⟩
  | baseName base =>
    cases slot with
    | baseName => exact .inl ⟨_, .baseName base, rfl⟩
    | _ => exact .inr ⟨by rintro _ ⟨⟩, rfl⟩
  | failureQueue queue =>
    cases slot with
    | failureQueue => exact .inl ⟨_, .failureQueue queue, rfl⟩
    | _ => exact .inr ⟨by rintro _ ⟨⟩, rfl⟩
  | threads threads =>
    cases slot with
    | threads => exact .inl ⟨_, .threads threads, rfl⟩
    | _ => exact .inr ⟨by rintro _ ⟨⟩, rfl⟩
  | maxBatchSize size =>
    cases slot with
    | maxBatchSize => exact .inl ⟨_, .maxBatchSize size, rfl⟩
    | _ => exact .inr ⟨by rintro _ ⟨⟩, rfl⟩
  | maxBatchTime millis =>
    cases slot with
    | maxBatchTime => exact .inl ⟨_, .maxBatchTime millis, rfl⟩
    | _ => exact .inr ⟨by rintro _ ⟨⟩, rfl⟩
  | environment env =>
    rcases Snapshot.countsSpelled_or_firstMisspelled env with spelled | ⟨name, value, first⟩
    · obtain ⟨added, ok, _, overwrites⟩ := layers.exists_withEnvironment spelled
      simp only [Layers.step, add, ok]
      rcases overwrites slot with ⟨value, gives, same⟩ | ⟨none, same⟩
      · exact .inl ⟨value, .environment spelled gives, same⟩
      · refine .inr ⟨?_, same⟩
        rintro value ⟨⟩
        rename_i gives
        exact none value gives
    · simp only [Layers.step, add, layers.withEnvironment_of_firstMisspelled first]
      refine .inr ⟨?_, rfl⟩
      rintro value ⟨⟩
      rename_i spelled _
      exact spelled.not_firstMisspelled first

theorem step_identity (layers : Layers) (step : Step) :
    (layers.step step).identity = layers.identity := by
  obtain ⟨layer⟩ := step
  cases layer with
  | environment env =>
    rcases Snapshot.countsSpelled_or_firstMisspelled env with spelled | ⟨name, value, first⟩
    · obtain ⟨added, ok, same, _⟩ := layers.exists_withEnvironment spelled
      simp only [Layers.step, add, ok, same]
    · simp only [Layers.step, add, layers.withEnvironment_of_firstMisspelled first]
  | _ => rfl

theorem LastWrites.concat {steps : List Step} {step : Step} {slot : Slot}
    {before after : Option slot.Value} (last : LastWrites steps slot before)
    (overwrites : Overwrites (step.layer.Writes slot) before after) :
    LastWrites (steps ++ [step]) slot after := by
  rcases overwrites with ⟨value, writes, rfl⟩ | ⟨none, rfl⟩
  · exact exists_last_concat_iff.mpr (.inl writes)
  · cases after with
    | none =>
      intro other member
      rcases List.mem_append.mp member with member | member
      · exact last other member
      · cases List.mem_singleton.mp member
        exact none
    | some value => exact exists_last_concat_iff.mpr (.inr ⟨none, last⟩)

/-- The last step decides, or it does not matter. -/
theorem LastWrites.of_concat {steps : List Step} {step : Step} {slot : Slot}
    {after : Option slot.Value} (last : LastWrites (steps ++ [step]) slot after) :
    (∃ value, step.layer.Writes slot value ∧ after = some value) ∨
      (∀ value, ¬ step.layer.Writes slot value) ∧ LastWrites steps slot after := by
  cases after with
  | none =>
    refine .inr ⟨last step (by simp), fun other member => last other ?_⟩
    exact List.mem_append_left _ member
  | some value =>
    rcases exists_last_concat_iff.mp last with writes | ⟨none, last⟩
    · exact .inl ⟨value, writes, rfl⟩
    · exact .inr ⟨none, last⟩

theorem LastWrites.unique {steps : List Step} {slot : Slot} {value other : Option slot.Value}
    (first : LastWrites steps slot value) (second : LastWrites steps slot other) :
    value = other := by
  induction steps using List.reverseRecOn with
  | nil =>
    cases value with
    | none =>
      cases other with
      | none => rfl
      | some other =>
        obtain ⟨_, _, _, split, _⟩ := second
        simp at split
    | some value =>
      obtain ⟨_, _, _, split, _⟩ := first
      simp at split
  | append_singleton steps step ih =>
    rcases first.of_concat with ⟨value, writes, rfl⟩ | ⟨none, first⟩
    · rcases second.of_concat with ⟨other, writes', rfl⟩ | ⟨none, _⟩
      · rw [writes.unique writes']
      · exact (none value writes).elim
    · rcases second.of_concat with ⟨other, writes, _⟩ | ⟨_, second⟩
      · exact (none other writes).elim
      · exact ih first second

/-- After a run from nothing every slot holds what was last written to it. -/
theorem lastWrites_run (identity : Identity) (steps : List Step) (slot : Slot) :
    LastWrites steps slot (((ofIdentity identity).run steps).get slot) := by
  induction steps using List.reverseRecOn with
  | nil =>
    rw [run, List.foldl_nil, get_ofIdentity]
    intro step member
    cases member
  | append_singleton steps step ih =>
    rw [run, List.foldl_concat]
    exact ih.concat (overwrites_step _ step slot)

theorem run_identity (layers : Layers) (steps : List Step) :
    (layers.run steps).identity = layers.identity := by
  induction steps using List.reverseRecOn with
  | nil => rfl
  | append_singleton steps step ih =>
    rw [run, List.foldl_concat, step_identity]
    exact ih

/-- After any run every slot holds what was last written to it. Building then takes the output
queue that was written, else one from the base name, else from the name of the deployment, and
fails exactly if an output queue was written empty, or else if the number of threads was written
out of range. -/
theorem run_build (identity : Identity) (steps : List Step) :
    let layers := (ofIdentity identity).run steps
    (∀ slot value, layers.get slot = value ↔ LastWrites steps slot value) ∧
    (∀ settings, layers.build = .ok settings ↔
      layers.get .outputQueue ≠ some "" ∧
      (∀ threads, layers.get .threads = some threads → ThreadsInRange threads) ∧
      settings = settingsOf identity layers.get) ∧
    (layers.build = .error .emptyOutputQueue ↔ layers.get .outputQueue = some "") ∧
    (∀ threads, layers.build = .error (.invalidThreads threads) ↔
      layers.get .outputQueue ≠ some "" ∧ layers.get .threads = some threads ∧
        ¬ ThreadsInRange threads) ∧
    ∀ fault, layers.build = .error fault →
      fault = .emptyOutputQueue ∨ ∃ threads, fault = .invalidThreads threads := by
  intro layers
  refine ⟨?_, ?_, ?_, ?_, ?_⟩
  · intro slot value
    have last := lastWrites_run identity steps slot
    exact ⟨fun same => same ▸ last, last.unique⟩
  · intro settings
    rw [build_eq_ok_iff, settings_eq, run_identity]
    rfl
  · simp [build_eq_error_iff, get]
  · simp [build_eq_error_iff, get]
  · intro fault failed
    rcases build_eq_error_iff.mp failed with ⟨_, same⟩ | ⟨_, threads, _, _, same⟩
    · exact .inl same
    · exact .inr ⟨threads, same⟩

end WorkerSettings.Layers
