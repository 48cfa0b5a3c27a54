import WorkerSettings.Numeral

/-!
# The grammar of numerals

Which texts are numerals of which counts, said without trimming and without a reader: blanks,
an optional plus sign, digits, blanks. The grammar puts no bound on the count. A reader of
some number of bits accepts exactly the numerals of the counts that fit the bits.
-/

namespace WorkerSettings

theorem Text.isBlank_of_isDigit {c : Char} (digit : c.isDigit = true) : isBlank c = false := by
  have bounds : 48 ≤ c.toNat ∧ c.toNat ≤ 57 := by
    simpa [Char.isDigit, UInt32.le_iff_toNat_le] using digit
  exact isBlank_eq_false (by omega) (by omega)

namespace Numeral

/-- The text is a numeral of the count: digits of its value after an optional plus sign, between
blanks. -/
inductive Spells : List Char → Nat → Prop
  | mk {before sign digits after : List Char}
      (blankBefore : ∀ c ∈ before, Text.isBlank c = true) (isSign : sign = [] ∨ sign = ['+'])
      (nonempty : digits ≠ []) (isDigits : ∀ c ∈ digits, c.isDigit = true)
      (blankAfter : ∀ c ∈ after, Text.isBlank c = true) :
      Spells (before ++ (sign ++ digits ++ after)) (value digits)

theorem exists_sign (cs : List Char) :
    ∃ sign, (sign = [] ∨ sign = ['+']) ∧ cs = sign ++ dropPlus cs := by
  unfold dropPlus
  split
  · exact ⟨['+'], .inr rfl, rfl⟩
  · exact ⟨[], .inl rfl, rfl⟩

theorem dropPlus_append {sign digits : List Char} (isSign : sign = [] ∨ sign = ['+'])
    (isDigits : ∀ c ∈ digits, c.isDigit = true) : dropPlus (sign ++ digits) = digits := by
  rcases isSign with rfl | rfl
  · rw [List.nil_append]
    unfold dropPlus
    split
    · cases isDigits '+' List.mem_cons_self
    · rfl
  · rfl

theorem parse?_eq_some_iff {width : Nat} {cs : List Char} {count : BitVec width} :
    parse? width cs = some count ↔
      ∃ sign digits, (sign = [] ∨ sign = ['+']) ∧ digits ≠ [] ∧
        (∀ c ∈ digits, c.isDigit = true) ∧ cs = sign ++ digits ∧ value digits = count.toNat := by
  rw [parse?]
  constructor
  · intro parsed
    split at parsed
    · rename_i digits
      obtain ⟨sign, isSign, split⟩ := exists_sign cs
      refine ⟨sign, _, isSign, digits.1, List.all_eq_true.mp digits.2, split, ?_⟩
      exact (fit?_eq_some_iff.mp parsed).symm
    · cases parsed
  · rintro ⟨sign, digits, isSign, nonempty, isDigits, rfl, same⟩
    rw [dropPlus_append isSign isDigits, if_pos ⟨nonempty, List.all_eq_true.mpr isDigits⟩]
    exact fit?_eq_some_iff.mpr same.symm

/-- Only the blanks around a numeral are trimmed. -/
theorem spells_iff {cs : List Char} {n : Nat} :
    Spells cs n ↔ ∃ sign digits, (sign = [] ∨ sign = ['+']) ∧ digits ≠ [] ∧
      (∀ c ∈ digits, c.isDigit = true) ∧ Text.trim cs = sign ++ digits ∧ value digits = n := by
  constructor
  · rintro ⟨blankBefore, isSign, nonempty, isDigits, blankAfter⟩
    refine ⟨_, _, isSign, nonempty, isDigits, ?_, rfl⟩
    refine Text.trim_append blankBefore (List.append_ne_nil_of_right_ne_nil _ nonempty)
      (fun c member => ?_) blankAfter
    rcases List.mem_append.mp member with member | member
    · rcases isSign with rfl | rfl
      · cases member
      · cases List.mem_singleton.mp member
        decide
    · exact Text.isBlank_of_isDigit (isDigits c member)
  · rintro ⟨sign, digits, isSign, nonempty, isDigits, trimmed, rfl⟩
    obtain ⟨before, after, blankBefore, blankAfter, split⟩ := Text.exists_trim cs
    rw [split, trimmed]
    exact .mk blankBefore isSign nonempty isDigits blankAfter

/-- A text is a numeral of one count at most. -/
theorem Spells.unique {cs : List Char} {n m : Nat} (first : Spells cs n) (second : Spells cs m) :
    n = m := by
  obtain ⟨sign, digits, isSign, _, isDigits, trimmed, rfl⟩ := spells_iff.mp first
  obtain ⟨sign', digits', isSign', _, isDigits', trimmed', rfl⟩ := spells_iff.mp second
  rw [← dropPlus_append isSign isDigits, ← dropPlus_append isSign' isDigits', ← trimmed,
    ← trimmed']

/-- A text is read as a count exactly if it is a numeral of it. -/
theorem ofText?_eq_some_iff {width : Nat} {s : String} {count : BitVec width} :
    ofText? width s = some count ↔ Spells s.toList count.toNat := by
  rw [ofText?, parse?_eq_some_iff, spells_iff]

/-- The text is the count in decimal: its digits behind any number of zeros, after a plus sign or
none, between blanks. -/
inductive IsDecimal : List Char → Nat → Prop
  | mk (n zeros : Nat) {before sign after : List Char}
      (blankBefore : ∀ c ∈ before, Text.isBlank c = true) (isSign : sign = [] ∨ sign = ['+'])
      (blankAfter : ∀ c ∈ after, Text.isBlank c = true) :
      IsDecimal (before ++ (sign ++ (List.replicate zeros '0' ++ digits n) ++ after)) n

/-- Zeros before a number do not change it. -/
theorem value_zeros (zeros : Nat) (ds : List Char) :
    value (List.replicate zeros '0' ++ ds) = value ds := by
  induction zeros with
  | zero => rfl
  | succ zeros ih =>
    rw [List.replicate_succ, List.cons_append, value, Nat.ofDigitChars_cons]
    exact ih

theorem IsDecimal.spells {text : List Char} {n : Nat} (decimal : IsDecimal text n) :
    Spells text n := by
  obtain ⟨n, zeros, blankBefore, isSign, blankAfter⟩ := decimal
  have spelled : value (List.replicate zeros '0' ++ digits n) = n := by
    rw [value_zeros, value_digits]
  have isDigits : ∀ c ∈ List.replicate zeros '0' ++ digits n, c.isDigit = true := by
    intro c member
    rcases List.mem_append.mp member with zero | digit
    · rw [List.eq_of_mem_replicate zero]
      rfl
    · exact isDigit_of_mem_digits digit
  have nonempty : List.replicate zeros '0' ++ digits n ≠ [] :=
    List.append_ne_nil_of_right_ne_nil _ Nat.toDigits_ne_nil
  have spells := Spells.mk blankBefore isSign nonempty isDigits blankAfter
  rwa [spelled] at spells

/-- The digits of a count alone are the count in decimal. -/
theorem isDecimal_repr (n : Nat) : IsDecimal (Nat.repr n).toList n := by
  have noBlanks : ∀ c ∈ ([] : List Char), Text.isBlank c = true := List.forall_mem_nil _
  have decimal := IsDecimal.mk n 0 noBlanks (.inl rfl) noBlanks
  rw [Nat.toList_repr]
  simpa [digits] using decimal

theorem Spells.ne_nil {cs : List Char} {n : Nat} (spells : Spells cs n) : cs ≠ [] := by
  obtain ⟨_, _, nonempty, _, _⟩ := spells
  simp [nonempty]

theorem exists_digit_repr (n : Nat) :
    ∃ c tail, (Nat.repr n).toList = c :: tail ∧ c.isDigit = true := by
  rw [Nat.toList_repr]
  obtain ⟨c, tail, digits⟩ := List.exists_cons_of_ne_nil (Nat.toDigits_ne_nil (n := n) (b := 10))
  have member : c ∈ Nat.toDigits 10 n := digits ▸ List.mem_cons_self
  exact ⟨c, tail, digits, isDigit_of_mem_digits member⟩

theorem repr_eq_iff {m n : Nat} : Nat.repr m = Nat.repr n ↔ m = n := by
  constructor
  · intro same
    have digits : digits m = digits n := by
      rw [digits, digits, ← Nat.toList_repr, ← Nat.toList_repr, same]
    rw [← value_digits m, digits, value_digits]
  · rintro rfl
    rfl

end Numeral

end WorkerSettings
