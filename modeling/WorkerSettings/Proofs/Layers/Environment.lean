import WorkerSettings.Layers
import WorkerSettings.Proofs.Snapshot

/-!
# What an environment writes

Layers are seven slots, and each slot has a variable that an environment writes it by. An
environment in which every count is a numeral of its width writes exactly the slots whose
variables have a value, each with what the value denotes. Any other environment fails, with
the first of the counts that is none.
-/

namespace WorkerSettings

namespace Snapshot

variable {σ : Type} [Snapshot σ]

structure CountsSpelled (env : σ) : Prop where
  threads : WellSpelled 32 env Variables.threads
  maxBatchSize : WellSpelled 32 env Variables.maxBatchSize
  maxBatchTime : WellSpelled 64 env Variables.maxBatchTime

/-- The variable is the first, in the order threads, batch size, batch time, whose value is no
count of its width, and this is the value. -/
inductive FirstMisspelled (env : σ) : String → String → Prop
  | threads {value : String} (wrong : Misspells 32 env Variables.threads value) :
      FirstMisspelled env Variables.threads value
  | maxBatchSize {value : String} (threads : WellSpelled 32 env Variables.threads)
      (wrong : Misspells 32 env Variables.maxBatchSize value) :
      FirstMisspelled env Variables.maxBatchSize value
  | maxBatchTime {value : String} (threads : WellSpelled 32 env Variables.threads)
      (maxBatchSize : WellSpelled 32 env Variables.maxBatchSize)
      (wrong : Misspells 64 env Variables.maxBatchTime value) :
      FirstMisspelled env Variables.maxBatchTime value

theorem countsSpelled_or_firstMisspelled (env : σ) :
    CountsSpelled env ∨ ∃ name value, FirstMisspelled env name value := by
  rcases wellSpelled_or_misspells 32 env Variables.threads with threads | ⟨value, wrong⟩
  · rcases wellSpelled_or_misspells 32 env Variables.maxBatchSize with size | ⟨value, wrong⟩
    · rcases wellSpelled_or_misspells 64 env Variables.maxBatchTime with time | ⟨value, wrong⟩
      · exact .inl ⟨threads, size, time⟩
      · exact .inr ⟨_, value, .maxBatchTime threads size wrong⟩
    · exact .inr ⟨_, value, .maxBatchSize threads wrong⟩
  · exact .inr ⟨_, value, .threads wrong⟩

theorem CountsSpelled.not_firstMisspelled {env : σ} (spelled : CountsSpelled env)
    {name value : String} : ¬ FirstMisspelled env name value := by
  intro first
  cases first with
  | threads wrong => exact spelled.threads.not_misspells wrong
  | maxBatchSize _ wrong => exact spelled.maxBatchSize.not_misspells wrong
  | maxBatchTime _ _ wrong => exact spelled.maxBatchTime.not_misspells wrong

end Snapshot

namespace Layers

open Snapshot (value? count? CountsSpelled FirstMisspelled)

inductive Slot
  | outputQueue
  | baseName
  | deploymentName
  | failureQueue
  | threads
  | maxBatchSize
  | maxBatchTime

namespace Slot

abbrev Value : Slot → Type
  | .outputQueue | .baseName | .deploymentName | .failureQueue => String
  | .threads | .maxBatchSize => UInt32
  | .maxBatchTime => UInt64

def variableName : Slot → String
  | .outputQueue => Variables.outputQueue
  | .baseName => Variables.baseQueueName
  | .deploymentName => Variables.workerName
  | .failureQueue => Variables.failureQueue
  | .threads => Variables.threads
  | .maxBatchSize => Variables.maxBatchSize
  | .maxBatchTime => Variables.maxBatchTime

/-- What the value of the variable stands for: a queue or a name as it is, a count by a
numeral. -/
def Denotes : (slot : Slot) → String → slot.Value → Prop
  | .outputQueue, text, value => value = text
  | .baseName, text, value => value = text
  | .deploymentName, text, value => value = text
  | .failureQueue, text, value => value = text
  | .threads, text, value => Numeral.Spells text.toList value.toNat
  | .maxBatchSize, text, value => Numeral.Spells text.toList value.toNat
  | .maxBatchTime, text, value => Numeral.Spells text.toList value.toNat

/-- The variable of the slot has a value in the environment, and this is what it stands for. -/
def Gives {σ : Type} [Snapshot σ] (env : σ) (slot : Slot) (value : slot.Value) : Prop :=
  ∃ text, value? env slot.variableName = some text ∧ slot.Denotes text value

theorem Denotes.unique {slot : Slot} {text : String} {value other : slot.Value}
    (first : slot.Denotes text value) (second : slot.Denotes text other) : value = other := by
  cases slot with
  | threads => exact UInt32.toNat_inj.mp (Numeral.Spells.unique first second)
  | maxBatchSize => exact UInt32.toNat_inj.mp (Numeral.Spells.unique first second)
  | maxBatchTime => exact UInt64.toNat_inj.mp (Numeral.Spells.unique first second)
  | _ => exact Eq.trans first (Eq.symm second)

theorem Gives.unique {σ : Type} [Snapshot σ] {env : σ} {slot : Slot} {value other : slot.Value}
    (first : slot.Gives env value) (second : slot.Gives env other) : value = other := by
  obtain ⟨text, found, denotes⟩ := first
  obtain ⟨text', found', denotes'⟩ := second
  cases found.symm.trans found'
  exact denotes.unique denotes'

end Slot

def get (layers : Layers) : (slot : Slot) → Option slot.Value
  | .outputQueue => layers.outputQueue
  | .baseName => layers.baseName
  | .deploymentName => layers.deploymentName
  | .failureQueue => layers.failureQueue
  | .threads => layers.threads
  | .maxBatchSize => layers.maxBatchSize
  | .maxBatchTime => layers.maxBatchTime

theorem get_ofIdentity (identity : Identity) (slot : Slot) :
    (ofIdentity identity).get slot = none := by
  cases slot <;> rfl

/-- After a write there is a value that is written, or none is and what was before stays. -/
def Overwrites {α : Type} (writes : α → Prop) (before after : Option α) : Prop :=
  (∃ value, writes value ∧ after = some value) ∨ (∀ value, ¬ writes value) ∧ after = before

variable {σ : Type} [Snapshot σ] {layers : Layers} {env : σ}

theorem overwrites_text (env : σ) (name : String) (before : Option String) :
    Overwrites (fun value => ∃ text, value? env name = some text ∧ value = text) before
      ((value? env name).or before) := by
  cases found : value? env name with
  | none => exact .inr ⟨by simp, rfl⟩
  | some text => exact .inl ⟨text, ⟨text, rfl, rfl⟩, rfl⟩

theorem overwrites_count {α : Type} {width : Nat} {name : String} {count : Option (BitVec width)}
    (counted : count? width env name = .ok count) (ofBits : BitVec width → α) (toNat : α → Nat)
    (toNat_ofBits : ∀ bits, toNat (ofBits bits) = bits.toNat) (before : Option α) :
    Overwrites
      (fun value => ∃ text, value? env name = some text ∧ Numeral.Spells text.toList (toNat value))
      before ((count.map ofBits).or before) := by
  cases count with
  | none =>
    have missing := Snapshot.count?_eq_none_iff.mp counted
    exact .inr ⟨by simp [missing], rfl⟩
  | some bits =>
    obtain ⟨text, found, spelled⟩ := Snapshot.count?_eq_some_iff.mp counted
    exact .inl ⟨ofBits bits, ⟨text, found, (toNat_ofBits bits).symm ▸ spelled⟩, rfl⟩

theorem withEnvironment_eq (layers : Layers) (env : σ) :
    layers.withEnvironment env =
      match count? 32 env Variables.threads with
      | .error fault => .error fault
      | .ok threads =>
        match count? 32 env Variables.maxBatchSize with
        | .error fault => .error fault
        | .ok size =>
          match count? 64 env Variables.maxBatchTime with
          | .error fault => .error fault
          | .ok time =>
            .ok { layers with
              outputQueue := (value? env Variables.outputQueue).or layers.outputQueue
              baseName := (value? env Variables.baseQueueName).or layers.baseName
              deploymentName := (value? env Variables.workerName).or layers.deploymentName
              failureQueue := (value? env Variables.failureQueue).or layers.failureQueue
              threads := (threads.map UInt32.ofBitVec).or layers.threads
              maxBatchSize := (size.map UInt32.ofBitVec).or layers.maxBatchSize
              maxBatchTime := (time.map UInt64.ofBitVec).or layers.maxBatchTime } := by
  rw [withEnvironment]
  cases count? 32 env Variables.threads with
  | error fault => rfl
  | ok threads =>
    cases count? 32 env Variables.maxBatchSize with
    | error fault => rfl
    | ok size => cases count? 64 env Variables.maxBatchTime <;> rfl

/-- An environment whose counts are numerals writes the slots that it gives a value. -/
theorem exists_withEnvironment (layers : Layers) (spelled : CountsSpelled env) :
    ∃ added, layers.withEnvironment env = .ok added ∧ added.identity = layers.identity ∧
      ∀ slot, Overwrites (slot.Gives env) (layers.get slot) (added.get slot) := by
  obtain ⟨threads, countedThreads⟩ := spelled.threads.exists_count
  obtain ⟨size, countedSize⟩ := spelled.maxBatchSize.exists_count
  obtain ⟨time, countedTime⟩ := spelled.maxBatchTime.exists_count
  rw [withEnvironment_eq, countedThreads, countedSize, countedTime]
  refine ⟨_, rfl, rfl, fun slot => ?_⟩
  cases slot with
  | outputQueue => exact overwrites_text env Variables.outputQueue layers.outputQueue
  | baseName => exact overwrites_text env Variables.baseQueueName layers.baseName
  | deploymentName => exact overwrites_text env Variables.workerName layers.deploymentName
  | failureQueue => exact overwrites_text env Variables.failureQueue layers.failureQueue
  | threads =>
    exact overwrites_count countedThreads UInt32.ofBitVec UInt32.toNat (fun _ => rfl)
      layers.threads
  | maxBatchSize =>
    exact overwrites_count countedSize UInt32.ofBitVec UInt32.toNat (fun _ => rfl)
      layers.maxBatchSize
  | maxBatchTime =>
    exact overwrites_count countedTime UInt64.ofBitVec UInt64.toNat (fun _ => rfl)
      layers.maxBatchTime

/-- The first count that is none fails an environment. -/
theorem withEnvironment_of_firstMisspelled (layers : Layers) {name value : String}
    (first : FirstMisspelled env name value) :
    layers.withEnvironment env = .error (.invalidNumber name value) := by
  rw [withEnvironment_eq]
  cases first with
  | threads wrong => rw [wrong.count?_eq]
  | maxBatchSize threads wrong =>
    obtain ⟨count, counted⟩ := threads.exists_count
    rw [counted, wrong.count?_eq]
  | maxBatchTime threads size wrong =>
    obtain ⟨count, counted⟩ := threads.exists_count
    obtain ⟨count', counted'⟩ := size.exists_count
    rw [counted, counted', wrong.count?_eq]

end Layers

end WorkerSettings
