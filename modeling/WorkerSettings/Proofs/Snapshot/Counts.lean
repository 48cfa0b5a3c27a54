import Mathlib.Data.List.Induction
import Mathlib.Data.Nat.Digits.Defs
import WorkerSettings.Environment
import WorkerSettings.Proofs.Snapshot

/-!
# Counts in the variables of a snapshot

What a variable gives as a count depends on its text alone. It is none for a variable that is
not set or is empty, and it is a number below the power of two of the width for a text that
writes the number: its digits by their places, after a plus sign or none, between blanks. Any
other text is a fault, which quotes the text with its blanks. The digits are summed by their
places here, while the reader goes through them from the left.
-/

namespace WorkerSettings

namespace Numeral

def digitValue (c : Char) : Nat :=
  c.toNat - '0'.toNat

/-- The text writes the number: blanks, a plus sign or none, ASCII digits with the number as the
sum of their values by places, and blanks. -/
def Writes (text : List Char) (n : Nat) : Prop :=
  ∃ before sign digits after, text = before ++ sign ++ digits ++ after ∧
    (∀ c ∈ before, Text.isBlank c = true) ∧ (sign = [] ∨ sign = ['+']) ∧
    digits ≠ [] ∧ (∀ c ∈ digits, '0' ≤ c ∧ c ≤ '9') ∧
    (∀ c ∈ after, Text.isBlank c = true) ∧
    Nat.ofDigits 10 (digits.reverse.map digitValue) = n

theorem isDigit_iff {c : Char} : c.isDigit = true ↔ '0' ≤ c ∧ c ≤ '9' := by
  rw [Char.isDigit, Bool.and_eq_true, decide_eq_true_eq, decide_eq_true_eq]
  exact Iff.rfl

/-- Going through the digits from the left gives the sum by places: the last digit counts once,
and the digits before it ten times what they count alone. -/
theorem value_eq_ofDigits (ds : List Char) :
    value ds = Nat.ofDigits 10 (ds.reverse.map digitValue) := by
  induction ds using List.reverseRecOn with
  | nil => rfl
  | append_singleton ds c ih =>
    have last : value (ds ++ [c]) = 10 * value ds + digitValue c :=
      Nat.ofDigitChars_append 0
    rw [last, ih, List.reverse_concat, List.map_cons, Nat.ofDigits_cons, Nat.add_comm]

theorem writes_iff_spells {text : List Char} {n : Nat} : Writes text n ↔ Spells text n := by
  constructor
  · rintro ⟨before, sign, digits, after, rfl, blankBefore, isSign, nonempty, isDigits, blankAfter,
      rfl⟩
    rw [← value_eq_ofDigits, List.append_assoc, List.append_assoc, ← List.append_assoc sign]
    exact .mk blankBefore isSign nonempty (fun c member => isDigit_iff.mpr (isDigits c member))
      blankAfter
  · rintro ⟨blankBefore, isSign, nonempty, isDigits, blankAfter⟩
    refine ⟨_, _, _, _, ?_, blankBefore, isSign, nonempty,
      fun c member => isDigit_iff.mp (isDigits c member), blankAfter, (value_eq_ofDigits _).symm⟩
    simp only [List.append_assoc]

end Numeral

namespace Snapshot

variable {σ : Type} [Snapshot σ]

theorem value?_eq_none_iff {env : σ} {name : String} :
    value? env name = none ↔ text? env name = none ∨ text? env name = some "" := by
  rw [value?_eq]
  cases text? env name with
  | none => simp
  | some text => simp

theorem holdsCount_iff {env : σ} {name : String} {n : Nat} :
    HoldsCount env name n ↔ ∃ text, text? env name = some text ∧ Numeral.Writes text.toList n := by
  simp only [Numeral.writes_iff_spells]
  constructor
  · rintro ⟨text, found, spells⟩
    exact ⟨text, (value?_eq_some_iff.mp found).1, spells⟩
  · rintro ⟨text, found, spells⟩
    refine ⟨text, value?_eq_some_iff.mpr ⟨found, ?_⟩, spells⟩
    rintro rfl
    exact spells.ne_nil rfl

theorem misspells_iff {width : Nat} {env : σ} {name text : String} :
    Misspells width env name text ↔ text? env name = some text ∧ text ≠ "" ∧
      ∀ n < 2 ^ width, ¬ Numeral.Writes text.toList n := by
  rw [Misspells, value?_eq_some_iff, and_assoc]
  simp only [Numeral.writes_iff_spells]
  refine and_congr_right fun _ => and_congr_right fun _ => ⟨?_, ?_⟩
  · intro wrong n fits spells
    refine wrong (BitVec.ofNatLT n fits) ?_
    rwa [BitVec.toNat_ofNatLT]
  · intro wrong count
    exact wrong count.toNat count.isLt

/-- A variable gives no count exactly if it is not set or empty, a count exactly if its text
writes a number that fits the width, and else the fault of its name and its text as it stands. -/
theorem count_outcome (width : Nat) (env : σ) (name : String) :
    (count? width env name = .ok none ↔
      text? env name = none ∨ text? env name = some "") ∧
    (∀ n, (∃ count, count? width env name = .ok (some count) ∧ count.toNat = n) ↔
      n < 2 ^ width ∧ ∃ text, text? env name = some text ∧ Numeral.Writes text.toList n) ∧
    ∀ fault, count? width env name = .error fault ↔
      ∃ text, (text? env name = some text ∧ text ≠ "" ∧
        ∀ n < 2 ^ width, ¬ Numeral.Writes text.toList n) ∧ fault = .invalidNumber name text := by
  refine ⟨count?_eq_none_iff.trans value?_eq_none_iff, fun n => ?_, fun fault => ?_⟩
  · simp only [count?_eq_some_iff, ← holdsCount_iff]
    constructor
    · rintro ⟨count, holds, rfl⟩
      exact ⟨count.isLt, holds⟩
    · rintro ⟨fits, holds⟩
      refine ⟨BitVec.ofNatLT n fits, ?_, BitVec.toNat_ofNatLT n fits⟩
      rwa [BitVec.toNat_ofNatLT]
  · simp only [count?_eq_error_iff, misspells_iff]

/-- The greatest number of 32 bits is a count of them, the next one only of more bits. -/
example :
    count? 32 (Environment.mk [("N", "\u2003+04294967295\n".toUTF8)]) "N" =
        .ok (some 4294967295) ∧
      count? 32 (Environment.mk [("N", "4294967296".toUTF8)]) "N" =
        .error (.invalidNumber "N" "4294967296") ∧
      count? 64 (Environment.mk [("N", "4294967296".toUTF8)]) "N" = .ok (some 4294967296) := by
  decide +kernel

end Snapshot

end WorkerSettings
