import WorkerSettings.Json.Rejection

/-!
# Readings

A reader takes the characters that are left and gives what it read and the characters
left after it, or the first thing that is wrong. `LeavesBelow` bounds what is left, and it
passes through the ways of putting readers together; loops over a text end because each
turn leaves less of it.
-/

namespace WorkerSettings.Json

/-- What was read and the characters left after it. -/
abbrev Reading (α : Type) : Type :=
  Except Rejection (α × List Char)

namespace Reading

variable {α β : Type}

def map (f : α → β) : Reading α → Reading β
  | .ok (value, rest) => .ok (f value, rest)
  | .error rejection => .error rejection

def andThen (reading : Reading α) (next : α → List Char → Reading β) : Reading β :=
  match reading with
  | .ok (value, rest) => next value rest
  | .error rejection => .error rejection

@[simp] theorem map_ok (f : α → β) (value : α) (rest : List Char) :
    map f (.ok (value, rest)) = .ok (f value, rest) := rfl

@[simp] theorem map_error (f : α → β) (rejection : Rejection) :
    map f (.error rejection) = .error rejection := rfl

@[simp] theorem andThen_ok (value : α) (rest : List Char)
    (next : α → List Char → Reading β) :
    andThen (.ok (value, rest)) next = next value rest := rfl

@[simp] theorem andThen_error (rejection : Rejection) (next : α → List Char → Reading β) :
    andThen (.error rejection) next = .error rejection := rfl

theorem map_eq_ok_iff {f : α → β} {reading : Reading α} {value : β} {rest : List Char} :
    map f reading = .ok (value, rest) ↔ ∃ first, reading = .ok (first, rest) ∧ f first = value := by
  constructor
  · intro read
    match reading, read with
    | .ok (first, _), read =>
      cases read
      exact ⟨first, rfl, rfl⟩
  · rintro ⟨first, rfl, rfl⟩
    rfl

theorem andThen_eq_ok_iff {reading : Reading α} {next : α → List Char → Reading β} {value : β}
    {rest : List Char} :
    andThen reading next = .ok (value, rest) ↔
      ∃ first left, reading = .ok (first, left) ∧ next first left = .ok (value, rest) := by
  constructor
  · intro read
    match reading, read with
    | .ok (first, left), read => exact ⟨first, left, rfl, read⟩
  · rintro ⟨first, left, rfl, read⟩
    exact read

/-- A reading that succeeds leaves fewer than `bound` characters. -/
def LeavesBelow (bound : Nat) (reading : Reading α) : Prop :=
  ∀ ⦃value rest⦄, reading = .ok (value, rest) → rest.length < bound

namespace LeavesBelow

theorem error (bound : Nat) (rejection : Rejection) :
    LeavesBelow bound (.error rejection : Reading α) := by
  intro value rest read
  cases read

theorem ok {bound : Nat} {value : α} {rest : List Char} (less : rest.length < bound) :
    LeavesBelow bound (.ok (value, rest)) := by
  intro _ _ read
  cases read
  exact less

theorem mono {small large : Nat} {reading : Reading α} (less : LeavesBelow small reading)
    (le : small ≤ large) : LeavesBelow large reading :=
  fun _ _ read => Nat.lt_of_lt_of_le (less read) le

theorem map {bound : Nat} {reading : Reading α} (less : LeavesBelow bound reading)
    (f : α → β) :
    LeavesBelow bound (reading.map f) := by
  intro value rest read
  match reading, less, read with
  | .ok (_, _), less, read =>
    cases read
    exact less rfl

theorem andThen {small large : Nat} {reading : Reading α} {next : α → List Char → Reading β}
    (less : LeavesBelow small reading)
    (step : ∀ value rest, rest.length < small → LeavesBelow large (next value rest)) :
    LeavesBelow large (reading.andThen next) := by
  intro value rest read
  match reading, less, read with
  | .ok (first, left), less, read => exact step first left (less rfl) read

end LeavesBelow

end Reading

end WorkerSettings.Json
