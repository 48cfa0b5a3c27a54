import WorkerSettings.Proofs.Layers.Environment

/-!
# Environments over one another

An environment that is put over another as a layer of its own is no different from one
environment in which it covers the other: a name has the value of the upper environment if that
has one, and else what it has in the lower. A variable that is empty above does not erase what is
below. The lower environment holds counts where it holds any, since it made a layer, so the first
count that is none is found in the upper one either way.
-/

namespace WorkerSettings

variable {σ τ ρ : Type} [Snapshot σ] [Snapshot τ] [Snapshot ρ]

namespace Snapshot

/-- The environment has every variable that settings depend on from the upper environment, where
that gives it a value, and else as it is in the lower one. -/
def Covers (upper : τ) (lower : σ) (env : ρ) : Prop :=
  ∀ name ∈ Variables.all, text? env name = (value? upper name).or (text? lower name)

variable {upper : τ} {lower : σ} {env : ρ}

/-- An environment that covers itself is itself. -/
theorem Covers.self (env : σ) : Covers env env env := by
  intro name _
  cases given : value? env name with
  | none => rw [Option.none_or]
  | some value => rw [Option.some_or, (value?_eq_some_iff.mp given).1]

theorem Covers.value?_eq (covers : Covers upper lower env) {name : String}
    (member : name ∈ Variables.all) :
    value? env name = (value? upper name).or (value? lower name) := by
  have text := covers name member
  cases above : value? upper name with
  | none => rw [value?, text, above, Option.none_or, Option.none_or, value?]
  | some value =>
    rw [above, Option.some_or] at text
    rw [Option.some_or]
    exact value?_eq_some_iff.mpr ⟨text, (value?_eq_some_iff.mp above).2⟩

/-- Where a variable holds a count below, if it has a value, only a value above can be wrong. -/
theorem Covers.count?_eq (covers : Covers upper lower env) {width : Nat} {name : String}
    (member : name ∈ Variables.all) {below : Option (BitVec width)}
    (counted : count? width lower name = .ok below) :
    count? width env name = (count? width upper name).map (·.or below) := by
  have value := covers.value?_eq member
  cases above : value? upper name with
  | none =>
    rw [above, Option.none_or] at value
    rw [count?_congr value, counted, count?_eq_none_iff.mpr above]
    rfl
  | some text =>
    rw [above, Option.some_or, ← above] at value
    rw [count?_congr value]
    cases found : count? width upper name with
    | error fault => rfl
    | ok count =>
      cases count with
      | none => cases above.symm.trans (count?_eq_none_iff.mp found)
      | some count => rfl

end Snapshot

namespace Layers

open Snapshot (Covers value? count?)

variable {upper : τ} {lower : σ} {env : ρ} {layers added : Layers}

/-- The layer of an environment is there only if its counts were read, and then this is it. -/
theorem exists_counts (ok : layers.withEnvironment lower = .ok added) :
    ∃ threads size time, count? 32 lower Variables.threads = .ok threads ∧
      count? 32 lower Variables.maxBatchSize = .ok size ∧
      count? 64 lower Variables.maxBatchTime = .ok time ∧
      added = { layers with
        outputQueue := (value? lower Variables.outputQueue).or layers.outputQueue
        baseName := (value? lower Variables.baseQueueName).or layers.baseName
        deploymentName := (value? lower Variables.workerName).or layers.deploymentName
        failureQueue := (value? lower Variables.failureQueue).or layers.failureQueue
        threads := (threads.map UInt32.ofBitVec).or layers.threads
        maxBatchSize := (size.map UInt32.ofBitVec).or layers.maxBatchSize
        maxBatchTime := (time.map UInt64.ofBitVec).or layers.maxBatchTime } := by
  rw [withEnvironment_eq] at ok
  split at ok
  · cases ok
  · rename_i threads countedThreads
    split at ok
    · cases ok
    · rename_i size countedSize
      split at ok
      · cases ok
      · rename_i time countedTime
        cases ok
        exact ⟨threads, size, time, countedThreads, countedSize, countedTime, rfl⟩

/-- Putting one environment over layers and another over that is putting the environment in which
the second covers the first over the layers. -/
theorem withEnvironment_withEnvironment (first : layers.withEnvironment lower = .ok added)
    (covers : Covers upper lower env) :
    added.withEnvironment upper = layers.withEnvironment env := by
  obtain ⟨_, _, _, threads, size, time, rfl⟩ := exists_counts first
  rw [withEnvironment_eq, withEnvironment_eq layers env, covers.count?_eq (by decide) threads,
    covers.count?_eq (by decide) size, covers.count?_eq (by decide) time,
    covers.value?_eq (by decide), covers.value?_eq (by decide), covers.value?_eq (by decide),
    covers.value?_eq (by decide)]
  cases count? 32 upper Variables.threads with
  | error fault => rfl
  | ok threads =>
    cases count? 32 upper Variables.maxBatchSize with
    | error fault => rfl
    | ok size =>
      cases count? 64 upper Variables.maxBatchTime with
      | error fault => rfl
      | ok time => simp only [Except.map, Option.map_or, Option.or_assoc]

/-- Two environments that are put over layers one after the other do what the one does in which
the second covers the first, in success and in failure. So the same environment once more changes
nothing. -/
theorem withEnvironment_covers (first : layers.withEnvironment lower = .ok added)
    (covers : Covers upper lower env) :
    added.withEnvironment upper = layers.withEnvironment env ∧
      added.withEnvironment lower = .ok added :=
  ⟨withEnvironment_withEnvironment first covers,
    (withEnvironment_withEnvironment first (Covers.self lower)).trans first⟩

def baseLayers : Layers :=
  ((ofIdentity { name := "sorter", version := "2", name_filled := rfl, version_filled := rfl
    }).withBaseName "base").withMaxBatchTime 5

def lowerProcess : Environment where
  entries := [(Variables.threads, " 7".toUTF8), (Variables.outputQueue, "low".toUTF8)]

/-- No number of threads, another queue and a limit that is no count. -/
def upperTree : Std.TreeMap String String :=
  (((∅ : Std.TreeMap String String).insert Variables.threads "").insert Variables.outputQueue
    "high").insert Variables.maxBatchSize "-1"

def coveredProcess : Environment where
  entries := [(Variables.maxBatchSize, "-1".toUTF8), (Variables.threads, " 7".toUTF8),
    (Variables.outputQueue, "high".toUTF8)]

theorem withEnvironment_covers_failing :
    ∃ added, baseLayers.withEnvironment lowerProcess = .ok added ∧ added.threads = some 7 ∧
      added.withEnvironment upperTree = .error (.invalidNumber Variables.maxBatchSize "-1") ∧
      added.withEnvironment lowerProcess = .ok added := by
  have first : baseLayers.withEnvironment lowerProcess =
      .ok ((baseLayers.withThreads 7).withOutputQueue "low") := by rfl
  have covers : Covers upperTree lowerProcess coveredProcess := by
    rw [Covers]
    decide +kernel
  obtain ⟨same, again⟩ := withEnvironment_covers first covers
  exact ⟨_, first, rfl, same.trans (by rfl), again⟩

end Layers

end WorkerSettings
