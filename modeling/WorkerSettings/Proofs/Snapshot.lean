import WorkerSettings.Snapshot
import WorkerSettings.Proofs.Numeral

/-!
# What the variables of a snapshot hold

A variable that is to hold a count is without a value, or its value is a numeral of the
count, or the value is what is wrong. `Snapshot.count?` has one answer for each of the three,
and which of them it is can be said without reading the value.
-/

namespace WorkerSettings.Snapshot

variable {σ τ : Type} [Snapshot σ] [Snapshot τ]

def HoldsCount (env : σ) (name : String) (n : Nat) : Prop :=
  ∃ value, value? env name = some value ∧ Numeral.Spells value.toList n

/-- The value of the variable, if it has one, is a numeral of a count of `width` bits. -/
def WellSpelled (width : Nat) (env : σ) (name : String) : Prop :=
  ∀ value, value? env name = some value →
    ∃ count : BitVec width, Numeral.Spells value.toList count.toNat

/-- The value of the variable is no numeral of a count of `width` bits. -/
def Misspells (width : Nat) (env : σ) (name value : String) : Prop :=
  value? env name = some value ∧ ∀ count : BitVec width, ¬ Numeral.Spells value.toList count.toNat

theorem value?_eq (env : σ) (name : String) :
    value? env name =
      if (text? env name).getD "" = "" then none else some ((text? env name).getD "") := by
  rw [value?]
  cases text? env name with
  | none => rfl
  | some text => by_cases empty : text = "" <;> simp [empty]

theorem value?_eq_some_iff {env : σ} {name value : String} :
    value? env name = some value ↔ text? env name = some value ∧ value ≠ "" := by
  simp [value?, Option.filter_eq_some_iff]

/-- Where a variable is not set in one snapshot and empty in another, they give it the same
value, that is none. -/
theorem value?_congr {env : σ} {env' : τ} {name : String}
    (same : (text? env name).getD "" = (text? env' name).getD "") :
    value? env name = value? env' name := by
  rw [value?_eq, value?_eq, same]

theorem count?_congr {env : σ} {env' : τ} {name : String}
    (same : value? env name = value? env' name) (width : Nat) :
    count? width env name = count? width env' name := by
  rw [count?, count?, same]

theorem count?_eq_none_iff {width : Nat} {env : σ} {name : String} :
    count? width env name = .ok none ↔ value? env name = none := by
  rw [count?]
  split
  · rename_i missing
    simp [missing]
  · rename_i value found
    rw [found]
    split <;> simp

theorem count?_eq_some_iff {width : Nat} {env : σ} {name : String} {count : BitVec width} :
    count? width env name = .ok (some count) ↔ HoldsCount env name count.toNat := by
  rw [count?, HoldsCount]
  split
  · rename_i missing
    simp [missing]
  · rename_i value found
    simp only [found, Option.some.injEq, exists_eq_left', ← Numeral.ofText?_eq_some_iff]
    split <;> rename_i read <;> simp [read]

theorem count?_eq_error_iff {width : Nat} {env : σ} {name : String} {fault : Fault} :
    count? width env name = .error fault ↔
      ∃ value, Misspells width env name value ∧ fault = .invalidNumber name value := by
  simp only [count?, Misspells, ← Numeral.ofText?_eq_some_iff]
  split
  · rename_i missing
    simp [missing]
  · rename_i value found
    simp only [found, Option.some.injEq, and_assoc, exists_eq_left']
    split <;> rename_i read <;> simp [read, eq_comm]

theorem wellSpelled_or_misspells (width : Nat) (env : σ) (name : String) :
    WellSpelled width env name ∨ ∃ value, Misspells width env name value := by
  by_cases spelled : WellSpelled width env name
  · exact .inl spelled
  · obtain ⟨value, wrong⟩ := Classical.not_forall.mp spelled
    obtain ⟨found, none⟩ := Classical.not_imp.mp wrong
    exact .inr ⟨value, found, not_exists.mp none⟩

theorem WellSpelled.not_misspells {width : Nat} {env : σ} {name value : String}
    (spelled : WellSpelled width env name) : ¬ Misspells width env name value := by
  rintro ⟨found, wrong⟩
  obtain ⟨count, right⟩ := spelled value found
  exact wrong count right

theorem WellSpelled.exists_count {width : Nat} {env : σ} {name : String}
    (spelled : WellSpelled width env name) : ∃ count, count? width env name = .ok count := by
  cases counted : count? width env name with
  | ok count => exact ⟨count, rfl⟩
  | error fault =>
    obtain ⟨value, wrong, _⟩ := count?_eq_error_iff.mp counted
    exact (spelled.not_misspells wrong).elim

theorem Misspells.count?_eq {width : Nat} {env : σ} {name value : String}
    (wrong : Misspells width env name value) :
    count? width env name = .error (.invalidNumber name value) :=
  count?_eq_error_iff.mpr ⟨value, wrong, rfl⟩

end WorkerSettings.Snapshot
