import WorkerSettings.Proofs.Json.Grammar

/-!
# Strings against the grammar

`scan` finds exactly the parts that a spelling has, and `join` exactly the characters that
the parts denote. So reading a string accepts what `SpellsString` allows, passing over one
asks only for the spelling, and a written string is one spelling of what was written.
-/

namespace WorkerSettings.Json

theorem unescape?_eq_some_iff {letter c : Char} :
    unescape? letter = some c ↔ (letter, c) ∈ escapes := by
  constructor
  · intro meaning
    unfold unescape? at meaning
    split at meaning <;> cases meaning <;> decide
  · intro member
    simp only [escapes, List.mem_cons, Prod.mk.injEq, List.not_mem_nil, or_false] at member
    rcases member with ⟨rfl, rfl⟩ | ⟨rfl, rfl⟩ | ⟨rfl, rfl⟩ | ⟨rfl, rfl⟩ | ⟨rfl, rfl⟩ | ⟨rfl, rfl⟩ |
      ⟨rfl, rfl⟩ | ⟨rfl, rfl⟩ <;> rfl

theorem hexValue?_digitChar : ∀ value < 16,
    hexValue? (Nat.digitChar value) = some value ∧
      hexValue? (Nat.digitChar value).toUpper = some value := by
  decide

/-- A character of a block is a digit if every place of the block, counted from the first one,
holds the digit that is due there. -/
theorem isHex_of_block {low high c : Char} {start : Nat} (block : low ≤ c ∧ c ≤ high)
    (digits : ∀ i ≤ high.toNat - low.toNat, IsHex (Char.ofNat (low.toNat + i)) (i + start)) :
    IsHex c (c.toNat - low.toNat + start) := by
  have lower : low.toNat ≤ c.toNat := block.1
  have upper : c.toNat ≤ high.toNat := block.2
  have digit := digits (c.toNat - low.toNat) (by omega)
  rwa [Nat.add_sub_cancel' lower, Char.ofNat_toNat] at digit

theorem hexValue?_eq_some_iff {c : Char} {value : Nat} :
    hexValue? c = some value ↔ IsHex c value := by
  constructor
  · intro found
    unfold hexValue? at found
    split at found
    case isTrue block =>
      cases found
      show IsHex c (c.toNat - '0'.toNat + 0)
      exact isHex_of_block block (by unfold IsHex; decide)
    split at found
    case isTrue block =>
      cases found
      exact isHex_of_block block (by unfold IsHex; decide)
    split at found
    case isTrue block =>
      cases found
      exact isHex_of_block block (by unfold IsHex; decide)
    case isFalse => cases found
  · rintro ⟨small, rfl | rfl⟩
    · exact (hexValue?_digitChar value small).1
    · exact (hexValue?_digitChar value small).2

theorem codeUnit?_eq_some_iff {a b c d : Char} {value : Nat} :
    codeUnit? a b c d = some value ↔ SpellsUnit [a, b, c, d] value := by
  constructor
  · intro found
    simp only [codeUnit?, Option.bind_eq_bind, Option.bind_eq_some_iff,
      hexValue?_eq_some_iff] at found
    obtain ⟨i, first, j, second, k, third, l, fourth, total⟩ := found
    have same : value = i * 0x1000 + j * 0x100 + k * 0x10 + l := by
      cases total
      omega
    exact same ▸ .mk first second third fourth
  · intro spelled
    cases spelled with
    | @mk _ _ _ _ i j k l first second third fourth =>
      have total : ((i * 16 + j) * 16 + k) * 16 + l = i * 0x1000 + j * 0x100 + k * 0x10 + l := by
        omega
      simp [codeUnit?, hexValue?_eq_some_iff.mpr first, hexValue?_eq_some_iff.mpr second,
        hexValue?_eq_some_iff.mpr third, hexValue?_eq_some_iff.mpr fourth, total]

/-- A code unit takes four characters. -/
theorem SpellsUnit.exists_codeUnit {digits : List Char} {value : Nat}
    (spelled : SpellsUnit digits value) :
    ∃ a b c d, digits = [a, b, c, d] ∧ codeUnit? a b c d = some value := by
  cases spelled with
  | mk first second third fourth =>
    exact ⟨_, _, _, _, rfl, codeUnit?_eq_some_iff.mpr (.mk first second third fourth)⟩

theorem isHighSurrogate_iff {value : Nat} :
    isHighSurrogate value = true ↔ 0xD800 ≤ value ∧ value < 0xDC00 := by
  simp only [isHighSurrogate, Bool.and_eq_true, decide_eq_true_eq]
  omega

theorem isLowSurrogate_iff {value : Nat} :
    isLowSurrogate value = true ↔ 0xDC00 ≤ value ∧ value < 0xE000 := by
  simp only [isLowSurrogate, Bool.and_eq_true, decide_eq_true_eq]
  omega

theorem noSurrogate_iff {value : Nat} :
    value < 0xD800 ∨ 0xDFFF < value ↔
      isLowSurrogate value = false ∧ isHighSurrogate value = false := by
  simp only [← Bool.not_eq_true, isLowSurrogate_iff, isHighSurrogate_iff]
  omega

theorem pairedChar_eq (high low : Nat) :
    pairedChar high low =
      Char.ofNat (0x10000 + (high - 0xD800) * 0x400 + (low - 0xDC00)) := by
  rw [pairedChar, Nat.add_comm, Nat.add_assoc]

/-- What is spelled before a quote is scanned up to that quote. -/
theorem scan_append {spelling : List Char} {pieces : List Piece}
    (spelled : SpellsPieces spelling pieces) (rest : List Char) :
    scan (spelling ++ '"' :: rest) = { pieces, ending := .ok rest } := by
  induction spelled with
  | nil => rfl
  | char quote backslash visible _ ih =>
    simp only [List.cons_append]
    rw [scan]
    · rw [if_neg (Nat.not_lt.mpr visible), ih]
      rfl
    all_goals simp_all
  | @escape letter c spelling pieces meaning _ ih =>
    have meaning := unescape?_eq_some_iff.mpr meaning
    simp only [List.cons_append]
    rw [scan]
    · simp only [meaning, ih]
      rfl
    -- A letter that stands for a character is no `u`.
    all_goals
      intros
      subst_vars
      simp_all [unescape?]
  | unit spelled _ ih =>
    obtain ⟨a, b, c, d, rfl, digits⟩ := spelled.exists_codeUnit
    simp only [List.cons_append, List.nil_append]
    rw [scan]
    simp only [digits, ih]
    rfl

/-- A scan that comes to a quote has passed over a spelling of its parts. -/
theorem exists_spelling {cs rest : List Char} (ended : (scan cs).ending = .ok rest) :
    ∃ spelling, cs = spelling ++ '"' :: rest ∧ SpellsPieces spelling (scan cs).pieces := by
  fun_induction scan cs with
  | case1 => cases ended
  | case2 left =>
    cases ended
    exact ⟨[], rfl, .nil⟩
  | case3 => cases ended
  | case4 a b c d left value digits ih =>
    obtain ⟨spelling, rfl, spelled⟩ := ih ended
    exact ⟨_, rfl, .unit (codeUnit?_eq_some_iff.mp digits) spelled⟩
  | case5 => cases ended
  | case6 => cases ended
  | case7 => cases ended
  | case8 letter left _ _ c meaning ih =>
    obtain ⟨spelling, rfl, spelled⟩ := ih ended
    exact ⟨_, rfl, .escape (unescape?_eq_some_iff.mp meaning) spelled⟩
  | case9 => cases ended
  | case10 => cases ended
  | case11 c left quote alone _ _ escape visible ih =>
    have backslash : c ≠ '\\' := by
      intro same
      cases left with
      | nil => exact alone same rfl
      | cons letter left => exact escape letter left same rfl
    obtain ⟨spelling, rfl, spelled⟩ := ih ended
    exact ⟨_, rfl, .char quote backslash (Nat.le_of_not_lt visible) spelled⟩

theorem Denotes.join {pieces : List Piece} {cs : List Char} (denotes : Denotes pieces cs)
    (rest : List Char) : join (.ok rest) pieces = .ok (cs, rest) := by
  induction denotes with
  | nil => rfl
  | char c _ ih => simp [Json.join, ih]
  | unit noSurrogate _ ih =>
    obtain ⟨notLow, notHigh⟩ := noSurrogate_iff.mp noSurrogate
    rw [Json.join.eq_def]
    simp [notLow, notHigh, ih]
  | @pair high low pieces cs isHigh isLow _ ih =>
    have notLow : isLowSurrogate high = false := by
      rw [← Bool.not_eq_true, isLowSurrogate_iff]
      omega
    simp [Json.join, isHighSurrogate_iff.mpr isHigh, isLowSurrogate_iff.mpr isLow, notLow, ih,
      pairedChar_eq]

/-- Joining succeeds where the string has an end, with the characters that its parts denote. -/
theorem join_eq_ok_iff {ending : Except Rejection (List Char)} {pieces : List Piece}
    {cs rest : List Char} :
    join ending pieces = .ok (cs, rest) ↔ ending = .ok rest ∧ Denotes pieces cs := by
  constructor
  · intro joined
    fun_induction join ending pieces generalizing cs with
    | case1 =>
      cases ending with
      | error rejection => cases joined
      | ok left =>
        cases joined
        exact ⟨rfl, .nil⟩
    | case2 c pieces ih =>
      obtain ⟨tail, joinedTail, rfl⟩ := Reading.map_eq_ok_iff.mp joined
      obtain ⟨ended, denotes⟩ := ih joinedTail
      exact ⟨ended, .char c denotes⟩
    | case3 => cases joined
    | case4 value _ isHigh next pieces isLow ih =>
      obtain ⟨tail, joinedTail, rfl⟩ := Reading.map_eq_ok_iff.mp joined
      obtain ⟨ended, denotes⟩ := ih joinedTail
      rw [pairedChar_eq]
      exact ⟨ended,
        .pair (isHighSurrogate_iff.mp isHigh) (isLowSurrogate_iff.mp isLow) denotes⟩
    | case5 => cases joined
    | case6 => cases joined
    | case7 =>
      cases ending with
      | error rejection => cases joined
      | ok left => cases joined
    | case8 value pieces notLow notHigh ih =>
      obtain ⟨tail, joinedTail, rfl⟩ := Reading.map_eq_ok_iff.mp joined
      obtain ⟨ended, denotes⟩ := ih joinedTail
      have noSurrogate := noSurrogate_iff.mpr
        ⟨Bool.not_eq_true _ ▸ notLow, Bool.not_eq_true _ ▸ notHigh⟩
      exact ⟨ended, .unit noSurrogate denotes⟩
  · rintro ⟨rfl, denotes⟩
    exact denotes.join rest

/-- Before a quote, reading a string asks what its parts denote. -/
theorem readString_append_iff {spelling : List Char} {pieces : List Piece}
    (spelled : SpellsPieces spelling pieces) {left rest : List Char} {s : String} :
    readString (spelling ++ '"' :: left) = .ok (s, rest) ↔
      rest = left ∧ Denotes pieces s.toList := by
  rw [readString, scan_append spelled, Reading.map_eq_ok_iff]
  constructor
  · rintro ⟨cs, joined, rfl⟩
    obtain ⟨same, denotes⟩ := join_eq_ok_iff.mp joined
    cases same
    exact ⟨rfl, by simpa using denotes⟩
  · rintro ⟨rfl, denotes⟩
    exact ⟨s.toList, denotes.join rest, String.ofList_toList⟩

theorem skipString_append {spelling : List Char} {pieces : List Piece}
    (spelled : SpellsPieces spelling pieces) (rest : List Char) :
    skipString (spelling ++ '"' :: rest) = .ok rest := by
  rw [skipString, scan_append spelled]

/-- A string that is read has a spelling. -/
theorem exists_string_of_readString {cs rest : List Char} {s : String}
    (read : readString cs = .ok (s, rest)) :
    ∃ spelling pieces, cs = spelling ++ '"' :: rest ∧ SpellsPieces spelling pieces ∧
      Denotes pieces s.toList := by
  obtain ⟨chars, joined, rfl⟩ := Reading.map_eq_ok_iff.mp read
  obtain ⟨ended, denotes⟩ := join_eq_ok_iff.mp joined
  obtain ⟨spelling, split, spelled⟩ := exists_spelling ended
  exact ⟨spelling, _, split, spelled, by simpa using denotes⟩

/-- A control character is written as a code unit of its own value. -/
theorem spellsUnit_control {n : Nat} (control : n < 0x20) :
    SpellsUnit ['0', '0', Nat.digitChar (n / 16), Nat.digitChar (n % 16)] n := by
  have zero : IsHex '0' 0 := ⟨by decide, .inl rfl⟩
  have upper : IsHex (Nat.digitChar (n / 16)) (n / 16) := ⟨by omega, .inl rfl⟩
  have lower : IsHex (Nat.digitChar (n % 16)) (n % 16) := ⟨by omega, .inl rfl⟩
  have total : 0 * 0x1000 + 0 * 0x100 + n / 16 * 0x10 + n % 16 = n := by omega
  have spelled := SpellsUnit.mk zero zero upper lower
  rwa [total] at spelled

/-- A character is written as one part, which denotes it. -/
theorem exists_piece (c : Char) :
    ∃ piece,
      (∀ {spelling pieces}, SpellsPieces spelling pieces →
        SpellsPieces (escapedChar c ++ spelling) (piece :: pieces)) ∧
      ∀ {pieces cs}, Denotes pieces cs → Denotes (piece :: pieces) (c :: cs) := by
  unfold escapedChar
  split
  case h_8 quote backslash _ _ _ _ _ =>
    by_cases control : c.toNat < 0x20
    · have noSurrogate : c.toNat < 0xD800 ∨ 0xDFFF < c.toNat := by omega
      refine ⟨.unit c.toNat, fun spelled => ?_, fun denotes => ?_⟩
      · rw [if_pos control]
        exact .unit (spellsUnit_control control) spelled
      · simpa using Denotes.unit noSurrogate denotes
    · refine ⟨.char c, fun spelled => ?_, fun denotes => .char c denotes⟩
      rw [if_neg control]
      exact .char quote backslash (Nat.le_of_not_lt control) spelled
  all_goals exact ⟨_, fun spelled => .escape (by decide) spelled, fun denotes => .char _ denotes⟩

theorem exists_pieces (cs : List Char) :
    ∃ pieces, SpellsPieces (cs.flatMap escapedChar) pieces ∧ Denotes pieces cs := by
  induction cs with
  | nil => exact ⟨[], .nil, .nil⟩
  | cons c cs ih =>
    obtain ⟨pieces, spelled, denotes⟩ := ih
    obtain ⟨piece, spells, means⟩ := exists_piece c
    exact ⟨piece :: pieces, spells spelled, means denotes⟩

/-- A written string is a spelling of the string. -/
theorem spellsString_quote (s : String) : SpellsString (quote s) s := by
  obtain ⟨pieces, spelled, denotes⟩ := exists_pieces s.toList
  exact ⟨_, pieces, rfl, spelled, denotes⟩

end WorkerSettings.Json
