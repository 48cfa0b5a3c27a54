import WorkerSettings.Proofs.Layers.Building

/-!
# Settings from an environment alone

Settings that come from an identity and an environment fail for two reasons only. The first
count that is no numeral fails them, and where every count is one, a number of threads that is
out of range. An empty variable counts as not set, so no queue that is written is empty. Nothing
is looked at but seven variables: where environments agree on those, the settings are the same.
-/

namespace WorkerSettings

open Snapshot (text? value? CountsSpelled FirstMisspelled HoldsCount)
open Settings (ThreadsInRange)

variable {σ τ : Type} [Snapshot σ] [Snapshot τ] {env : σ} {env' : τ}

namespace Snapshot

/-- The snapshots give every variable that settings depend on the same text, where a variable
that is not set counts as empty. -/
def Agree (env : σ) (env' : τ) : Prop :=
  ∀ name ∈ Variables.all, (text? env name).getD "" = (text? env' name).getD ""

end Snapshot

theorem Layers.withEnvironment_congr (layers : Layers) (agree : Snapshot.Agree env env') :
    layers.withEnvironment env = layers.withEnvironment env' := by
  have same : ∀ name ∈ Variables.all, value? env name = value? env' name :=
    fun name member => Snapshot.value?_congr (agree name member)
  have threads := Snapshot.count?_congr (same Variables.threads (by decide)) 32
  have size := Snapshot.count?_congr (same Variables.maxBatchSize (by decide)) 32
  have time := Snapshot.count?_congr (same Variables.maxBatchTime (by decide)) 64
  rw [withEnvironment_eq, withEnvironment_eq, threads, size, time,
    same Variables.outputQueue (by decide), same Variables.baseQueueName (by decide),
    same Variables.workerName (by decide), same Variables.failureQueue (by decide)]

theorem Settings.resolve_congr (identity : Identity) (agree : Snapshot.Agree env env') :
    Settings.resolve identity env = Settings.resolve identity env' := by
  rw [resolve, resolve, Layers.withEnvironment_congr _ agree]

/-- The names of variables that settings depend on hold no equals sign. -/
theorem Variables.plain_of_mem_all {name : String} (member : name ∈ all) :
    '=' ∉ name.toList := by
  revert name
  decide

namespace Layers

/-- Where there was nothing before, what there is afterwards was written. -/
theorem Overwrites.eq_some_iff {α : Type} {writes : α → Prop} {after : Option α} {value : α}
    (overwrites : Overwrites writes none after)
    (unique : ∀ value other, writes value → writes other → value = other) :
    after = some value ↔ writes value := by
  rcases overwrites with ⟨written, writes, rfl⟩ | ⟨none, rfl⟩
  · constructor
    · rintro ⟨⟩
      exact writes
    · intro writes'
      rw [unique _ _ writes writes']
  · constructor
    · rintro ⟨⟩
    · exact fun writes => (none value writes).elim

/-- The layers of an environment alone hold what the environment gives. -/
theorem exists_ofEnvironment (identity : Identity) (spelled : CountsSpelled env) :
    ∃ added, (ofIdentity identity).withEnvironment env = .ok added ∧
      added.identity = identity ∧
      ∀ slot value, added.get slot = some value ↔ slot.Gives env value := by
  obtain ⟨added, ok, same, overwrites⟩ := (ofIdentity identity).exists_withEnvironment spelled
  refine ⟨added, ok, same, fun slot value => ?_⟩
  have fromNothing := overwrites slot
  rw [get_ofIdentity] at fromNothing
  exact fromNothing.eq_some_iff fun _ _ => Slot.Gives.unique

/-- No environment gives an empty queue. -/
theorem not_gives_empty : ¬ Slot.Gives env .outputQueue "" := by
  rintro ⟨text, found, rfl⟩
  exact (Snapshot.value?_eq_some_iff.mp found).2 rfl

end Layers

namespace Settings

theorem resolve_of_spelled (identity : Identity) (spelled : CountsSpelled env) :
    ∃ added : Layers, resolve identity env = added.build ∧ added.outputQueue ≠ some "" ∧
      ∀ threads, added.threads = some threads ↔
        HoldsCount env Variables.threads threads.toNat := by
  obtain ⟨added, ok, _, holds⟩ := Layers.exists_ofEnvironment identity spelled
  refine ⟨added, ?_, ?_, holds .threads⟩
  · rw [resolve, ok]
    rfl
  · exact fun empty => Layers.not_gives_empty ((holds .outputQueue "").mp empty)

theorem resolve_of_misspelled (identity : Identity) {name value : String}
    (first : FirstMisspelled env name value) :
    resolve identity env = .error (.invalidNumber name value) := by
  rw [resolve, Layers.withEnvironment_of_firstMisspelled _ first]
  rfl

theorem resolve_eq_error_iff {identity : Identity} {fault : Fault} :
    resolve identity env = .error fault ↔
      (∃ name value, FirstMisspelled env name value ∧ fault = .invalidNumber name value) ∨
      (CountsSpelled env ∧ ∃ threads : UInt32,
        HoldsCount env Variables.threads threads.toNat ∧ ¬ ThreadsInRange threads ∧
          fault = .invalidThreads threads) := by
  rcases Snapshot.countsSpelled_or_firstMisspelled env with spelled | ⟨name, value, first⟩
  · obtain ⟨added, built, queue, holds⟩ := resolve_of_spelled identity spelled
    rw [built, Layers.build_eq_error_iff]
    simp only [queue, ne_eq, not_false_eq_true, false_and, true_and, false_or, holds, spelled]
    constructor
    · exact .inr
    · rintro (⟨_, _, first, _⟩ | outside)
      · exact (spelled.not_firstMisspelled first).elim
      · exact outside
  · rw [resolve_of_misspelled identity first]
    constructor
    · rintro ⟨⟩
      exact .inl ⟨name, value, first, rfl⟩
    · rintro (⟨name', value', first', rfl⟩ | ⟨spelled, _⟩)
      · have same := resolve_of_misspelled identity first'
        rwa [resolve_of_misspelled identity first] at same
      · exact (spelled.not_firstMisspelled first).elim

theorem exists_resolve_iff {identity : Identity} :
    (∃ settings, resolve identity env = .ok settings) ↔
      CountsSpelled env ∧ ∀ threads : UInt32,
        HoldsCount env Variables.threads threads.toNat → ThreadsInRange threads := by
  constructor
  · rintro ⟨settings, resolved⟩
    rcases Snapshot.countsSpelled_or_firstMisspelled env with spelled | ⟨name, value, first⟩
    · obtain ⟨added, built, queue, holds⟩ := resolve_of_spelled identity spelled
      rw [built, Layers.build_eq_ok_iff] at resolved
      exact ⟨spelled, fun threads held => resolved.2.1 threads ((holds threads).mpr held)⟩
    · cases resolved.symm.trans (resolve_of_misspelled identity first)
  · rintro ⟨spelled, inRange⟩
    obtain ⟨added, built, queue, holds⟩ := resolve_of_spelled identity spelled
    refine ⟨added.settings, ?_⟩
    rw [built, Layers.build_eq_ok_iff]
    exact ⟨queue, fun threads held => inRange threads ((holds threads).mp held), rfl⟩

/-- Settings are resolved unless a count is misspelled or the number of threads is out of
range; the first misspelled count is reported, and no other fault is. They depend on seven
variables only, also where one environment is a map or is borrowed and the other is that of a
process. -/
theorem resolve_outcome (identity : Identity) :
    (∀ {σ : Type} [Snapshot σ] (env : σ),
      (∀ name value, resolve identity env = .error (.invalidNumber name value) ↔
        FirstMisspelled env name value) ∧
      (∀ threads, resolve identity env = .error (.invalidThreads threads) ↔
        CountsSpelled env ∧ HoldsCount env Variables.threads threads.toNat ∧
          ¬ ThreadsInRange threads) ∧
      ((∃ settings, resolve identity env = .ok settings) ↔
        CountsSpelled env ∧ ∀ threads : UInt32,
          HoldsCount env Variables.threads threads.toNat → ThreadsInRange threads) ∧
      ∀ fault, resolve identity env = .error fault →
        (∃ name value, fault = .invalidNumber name value) ∨
          ∃ threads, fault = .invalidThreads threads) ∧
    (∀ {σ τ : Type} [Snapshot σ] [Snapshot τ] (env : σ) (env' : τ),
      (∀ name ∈ Variables.all, (text? env name).getD "" = (text? env' name).getD "") →
        resolve identity env = resolve identity env') ∧
    ∀ (hash : Std.HashMap String String) (tree : Std.TreeMap String String)
      (process : Environment),
      (∀ name ∈ Variables.all, hash[name]?.getD "" = tree[name]?.getD "" ∧
        tree[name]?.getD "" = ((process.value? name).bind String.fromUTF8?).getD "") →
      resolve identity hash = resolve identity tree ∧
      resolve identity tree = resolve identity (Snapshot.Borrowed.mk tree) ∧
      resolve identity (Snapshot.Borrowed.mk tree) = resolve identity process := by
  refine ⟨fun env => ⟨?_, ?_, exists_resolve_iff, ?_⟩, ?_, ?_⟩
  · intro name value
    simp [resolve_eq_error_iff]
  · intro threads
    simp [resolve_eq_error_iff]
  · intro fault failed
    rcases resolve_eq_error_iff.mp failed with ⟨name, value, _, rfl⟩ | ⟨_, threads, _, _, rfl⟩
    · exact .inl ⟨name, value, rfl⟩
    · exact .inr ⟨threads, rfl⟩
  · exact fun env env' agree => resolve_congr identity agree
  · intro hash tree process agree
    refine ⟨resolve_congr identity fun name member => (agree name member).1,
      resolve_congr identity fun name member => rfl, resolve_congr identity fun name member => ?_⟩
    refine (agree name member).2.trans ?_
    rw [← Environment.text?_eq process (Variables.plain_of_mem_all member)]
    rfl

def plainIdentity : Identity where
  name := "worker"
  version := "0"
  name_filled := rfl
  version_filled := rfl

/-- Too many threads, and an empty name. -/
def manyHash : Std.HashMap String String :=
  ((∅ : Std.HashMap String String).insert Variables.threads "21").insert Variables.workerName ""

def manyTree : Std.TreeMap String String :=
  (∅ : Std.TreeMap String String).insert Variables.threads "21"

/-- Too many threads, and a name that is no text. -/
def manyProcess : Environment where
  entries := [(Variables.threads, "21".toUTF8), (Variables.workerName, ⟨#[0xFF]⟩)]

def misspelledProcess : Environment where
  entries := [(Variables.threads, " +21\n".toUTF8), (Variables.maxBatchTime, "x".toUTF8),
    (Variables.maxBatchSize, " -0".toUTF8)]

theorem resolve_outcome_manifold :
    resolve plainIdentity manyHash = .error (.invalidThreads 21) ∧
      resolve plainIdentity manyTree = .error (.invalidThreads 21) ∧
      HoldsCount manyProcess Variables.threads 21 ∧
      FirstMisspelled misspelledProcess Variables.maxBatchSize " -0" ∧
      ¬ CountsSpelled misspelledProcess := by
  obtain ⟨outcome, _, agreed⟩ := resolve_outcome plainIdentity
  have agree : ∀ name ∈ Variables.all, manyHash[name]?.getD "" = manyTree[name]?.getD "" ∧
      manyTree[name]?.getD "" = ((manyProcess.value? name).bind String.fromUTF8?).getD "" := by
    simp only [manyHash, manyTree, Std.HashMap.getElem?_insert, Std.TreeMap.getElem?_insert,
      Std.HashMap.getElem?_empty, Std.TreeMap.getElem?_emptyc, Std.compare_eq_iff_eq, beq_iff_eq]
    decide +kernel
  obtain ⟨hash, borrowed, process⟩ := agreed manyHash manyTree manyProcess agree
  have many : resolve plainIdentity manyProcess = .error (.invalidThreads 21) := by decide +kernel
  have misspelled : resolve plainIdentity misspelledProcess =
      .error (.invalidNumber Variables.maxBatchSize " -0") := by decide +kernel
  have first := ((outcome misspelledProcess).1 _ _).mp misspelled
  refine ⟨?_, ?_, (((outcome manyProcess).2.1 21).mp many).2.1, first, ?_⟩
  · rw [hash, borrowed, process, many]
  · rw [borrowed, process, many]
  · exact fun spelled => spelled.not_firstMisspelled first

end Settings

end WorkerSettings
