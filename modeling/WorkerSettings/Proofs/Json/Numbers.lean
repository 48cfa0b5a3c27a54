import WorkerSettings.Json.Field
import WorkerSettings.Proofs.Json.Grammar

/-!
# Numbers against the grammar

A literal is read as the parts that it spells, and it has the value of a count exactly when
it is digits alone and the value of the digits fits 64 bits. A sign, a fraction, an exponent
or a digit too many each make it something else, so `readCount` accepts exactly the digits
of the count that it gives.
-/

namespace WorkerSettings.Json

def NotNext (kind : Char → Bool) (rest : List Char) : Prop :=
  ∀ c, rest.head? = some c → kind c = false

theorem NotNext.cons {kind : Char → Bool} {c : Char} (other : kind c = false)
    (rest : List Char) : NotNext kind (c :: rest) := by
  intro d head
  cases head
  exact other

/-- The characters that would carry a number on. -/
def continuesNumber (c : Char) : Bool :=
  c.isDigit || c == '.' || c == 'e' || c == 'E'

theorem EndsToken.notNext {rest : List Char} (ends : EndsToken rest) :
    NotNext continuesNumber rest := by
  intro c head
  rcases ends c head with blank | rfl | rfl | rfl
  · simp only [blanks, List.mem_cons, List.not_mem_nil, or_false] at blank
    rcases blank with rfl | rfl | rfl | rfl <;> rfl
  all_goals rfl

theorem NotNext.digit {rest : List Char} (next : NotNext continuesNumber rest) :
    NotNext Char.isDigit rest := by
  intro c head
  have other := next c head
  simp only [continuesNumber, Bool.or_eq_false_iff] at other
  exact other.1.1.1

theorem NotNext.point {rest : List Char} (next : NotNext continuesNumber rest) :
    NotNext (· == '.') rest := by
  intro c head
  have other := next c head
  simp only [continuesNumber, Bool.or_eq_false_iff] at other
  exact other.1.1.2

theorem IsDigits.exists_cons {cs : List Char} (digits : IsDigits cs) :
    ∃ c tail, cs = c :: tail ∧ c.isDigit = true := by
  obtain ⟨c, tail, rfl⟩ := List.exists_cons_of_ne_nil digits.1
  exact ⟨c, tail, rfl, digits.2 c List.mem_cons_self⟩

namespace Literal

theorem digits_append {cs rest : List Char} (digit : ∀ c ∈ cs, c.isDigit = true)
    (next : NotNext Char.isDigit rest) : digits (cs ++ rest) = (cs, rest) := by
  have stop : rest.takeWhile Char.isDigit = [] ∧ rest.dropWhile Char.isDigit = rest := by
    cases rest with
    | nil => exact ⟨rfl, rfl⟩
    | cons c tail => simp [next c rfl]
  rw [digits, List.takeWhile_append_of_pos digit, List.dropWhile_append_of_pos digit, stop.1,
    stop.2, List.append_nil]

theorem readDigits_append {cs rest : List Char} (isDigits : IsDigits cs)
    (next : NotNext Char.isDigit rest) : readDigits (cs ++ rest) = .ok (cs, rest) := by
  obtain ⟨c, tail, rfl, digit⟩ := isDigits.exists_cons
  rw [← digits_append isDigits.2 next]
  simp [readDigits, digit]

theorem exists_digits {cs digits rest : List Char} (read : readDigits cs = .ok (digits, rest)) :
    cs = digits ++ rest ∧ IsDigits digits := by
  unfold readDigits at read
  split at read
  · cases read
  · rename_i c tail
    split at read
    · rename_i digit
      cases read
      refine ⟨List.takeWhile_append_dropWhile.symm, ?_, fun d member =>
        List.mem_takeWhile_imp member⟩
      simp [digit]
    · cases read

theorem readWhole_append {whole rest : List Char} (isWhole : IsWhole whole)
    (next : NotNext Char.isDigit rest) : readWhole (whole ++ rest) = .ok (whole, rest) := by
  rw [readWhole, readDigits_append isWhole.1 next, Reading.andThen_ok]
  split
  · have single := isWhole.2 rfl
    cases single
  · rfl

theorem exists_whole {cs whole rest : List Char} (read : readWhole cs = .ok (whole, rest)) :
    cs = whole ++ rest ∧ IsWhole whole := by
  obtain ⟨digits, left, readDigits, rest⟩ := Reading.andThen_eq_ok_iff.mp read
  obtain ⟨split, isDigits⟩ := exists_digits readDigits
  split at rest
  · cases rest
  · rename_i notLeading
    cases rest
    refine ⟨split, isDigits, fun head => ?_⟩
    cases whole with
    | nil => cases head
    | cons c tail =>
      cases head
      cases tail with
      | nil => rfl
      | cons d tail => exact (notLeading d tail rfl).elim

theorem readFraction_append {text rest : List Char} {fraction : Option (List Char)}
    (spelled : SpellsFraction text fraction) (noPoint : NotNext (· == '.') rest)
    (next : NotNext Char.isDigit rest) :
    readFraction (text ++ rest) = .ok (fraction, rest) := by
  cases spelled with
  | absent =>
    rw [List.nil_append]
    unfold readFraction
    split
    · have point := noPoint '.' rfl
      cases point
    · rfl
  | present digits =>
    simp [readFraction, readDigits_append digits next]

theorem exists_fraction {cs rest : List Char} {fraction : Option (List Char)}
    (read : readFraction cs = .ok (fraction, rest)) :
    ∃ text, cs = text ++ rest ∧ SpellsFraction text fraction := by
  unfold readFraction at read
  split at read
  · obtain ⟨digits, readDigits, rfl⟩ := Reading.map_eq_ok_iff.mp read
    obtain ⟨rfl, isDigits⟩ := exists_digits readDigits
    exact ⟨_, rfl, .present isDigits⟩
  · cases read
    exact ⟨[], rfl, .absent⟩

theorem readPower_append {digits rest : List Char} (isDigits : IsDigits digits)
    (next : NotNext Char.isDigit rest) :
    readPower (digits ++ rest) = .ok (Numeral.value digits, rest) := by
  obtain ⟨c, tail, rfl, digit⟩ := isDigits.exists_cons
  unfold readPower
  split
  · rename_i same
    cases same
    cases digit
  · rename_i same
    cases same
    cases digit
  · rw [readDigits_append isDigits next, Reading.map_ok]

theorem readExponent_append {text rest : List Char} {exponent : Option Int}
    (spelled : SpellsExponent text exponent) (next : NotNext continuesNumber rest) :
    readExponent (text ++ rest) = .ok (exponent, rest) := by
  cases spelled with
  | absent =>
    rw [List.nil_append]
    unfold readExponent
    split
    · have letter := next 'e' rfl
      cases letter
    · have letter := next 'E' rfl
      cases letter
    · rfl
  | unsigned mark digits =>
    have power := readPower_append digits next.digit
    rcases mark with rfl | rfl <;> simp [readExponent, power]
  | plus mark digits =>
    rcases mark with rfl | rfl <;>
      simp [readExponent, readPower, readDigits_append digits next.digit]
  | minus mark digits =>
    rcases mark with rfl | rfl <;>
      simp [readExponent, readPower, readDigits_append digits next.digit]

theorem exists_power {cs rest : List Char} {power : Int} {letter : Char}
    (mark : letter = 'e' ∨ letter = 'E') (read : readPower cs = .ok (power, rest)) :
    ∃ text, letter :: cs = text ++ rest ∧ SpellsExponent text (some power) := by
  unfold readPower at read
  split at read
  all_goals
    obtain ⟨digits, readDigits, rfl⟩ := Reading.map_eq_ok_iff.mp read
    obtain ⟨rfl, isDigits⟩ := exists_digits readDigits
  · exact ⟨_, rfl, .minus mark isDigits⟩
  · exact ⟨_, rfl, .plus mark isDigits⟩
  · exact ⟨_, rfl, .unsigned mark isDigits⟩

theorem exists_exponent {cs rest : List Char} {exponent : Option Int}
    (read : readExponent cs = .ok (exponent, rest)) :
    ∃ text, cs = text ++ rest ∧ SpellsExponent text exponent := by
  unfold readExponent at read
  split at read
  · obtain ⟨power, readPower, rfl⟩ := Reading.map_eq_ok_iff.mp read
    exact exists_power (.inl rfl) readPower
  · obtain ⟨power, readPower, rfl⟩ := Reading.map_eq_ok_iff.mp read
    exact exists_power (.inr rfl) readPower
  · cases read
    exact ⟨[], rfl, .absent⟩

theorem readSign_append (negative : Bool) {whole : List Char} (isDigits : IsDigits whole)
    (rest : List Char) :
    readSign (sign negative ++ (whole ++ rest)) = (negative, whole ++ rest) := by
  cases negative with
  | true => rfl
  | false =>
    obtain ⟨c, tail, rfl, digit⟩ := isDigits.exists_cons
    simp only [sign, Bool.false_eq_true, if_false, List.nil_append, List.cons_append]
    unfold readSign
    split
    · rename_i same
      cases same
      cases digit
    · rfl

theorem sign_append_readSign (cs : List Char) :
    sign (readSign cs).1 ++ (readSign cs).2 = cs := by
  unfold readSign
  split <;> rfl

/-- An exponent carries neither digits nor a fraction on. -/
theorem notNext_exponent {text rest : List Char} {exponent : Option Int}
    (spelled : SpellsExponent text exponent) (next : NotNext continuesNumber rest) :
    NotNext Char.isDigit (text ++ rest) ∧ NotNext (· == '.') (text ++ rest) := by
  cases spelled with
  | absent => exact ⟨next.digit, next.point⟩
  | unsigned mark | plus mark | minus mark =>
    rcases mark with rfl | rfl <;> exact ⟨.cons rfl _, .cons rfl _⟩

/-- A fraction does not carry the digits before it on. -/
theorem notNext_fraction {text rest : List Char} {fraction : Option (List Char)}
    (spelled : SpellsFraction text fraction) (next : NotNext Char.isDigit rest) :
    NotNext Char.isDigit (text ++ rest) := by
  cases spelled with
  | absent => exact next
  | present => exact .cons rfl _

/-- A literal that nothing carries on is read as its parts. -/
theorem read_append_of_notNext {text rest : List Char} {literal : Literal}
    (spelled : SpellsLiteral text literal) (next : NotNext continuesNumber rest) :
    read (text ++ rest) = .ok (literal, rest) := by
  cases spelled with
  | mk negative isWhole hasFraction hasExponent =>
    obtain ⟨afterFraction, noPoint⟩ := notNext_exponent hasExponent next
    have afterWhole := notNext_fraction hasFraction afterFraction
    simp only [List.append_assoc, read, readSign_append negative isWhole.1,
      readWhole_append isWhole afterWhole, Reading.andThen_ok,
      readFraction_append hasFraction noPoint afterFraction,
      readExponent_append hasExponent next, Reading.map_ok]

/-- A literal that a number ends after is read as its parts. -/
theorem read_append {text rest : List Char} {literal : Literal}
    (spelled : SpellsLiteral text literal) (ends : EndsToken rest) :
    read (text ++ rest) = .ok (literal, rest) :=
  read_append_of_notNext spelled ends.notNext

/-- A literal that is read is spelled by what was taken off the text. -/
theorem exists_literal {cs rest : List Char} {literal : Literal}
    (readLiteral : read cs = .ok (literal, rest)) :
    ∃ text, cs = text ++ rest ∧ SpellsLiteral text literal := by
  obtain ⟨whole, afterWhole, readWhole, tail⟩ := Reading.andThen_eq_ok_iff.mp readLiteral
  obtain ⟨fraction, afterFraction, readFraction, tail⟩ := Reading.andThen_eq_ok_iff.mp tail
  obtain ⟨exponent, readExponent, rfl⟩ := Reading.map_eq_ok_iff.mp tail
  obtain ⟨splitWhole, isWhole⟩ := exists_whole readWhole
  obtain ⟨fractionText, rfl, hasFraction⟩ := exists_fraction readFraction
  obtain ⟨exponentText, rfl, hasExponent⟩ := exists_exponent readExponent
  refine ⟨_, ?_, .mk (readSign cs).1 isWhole hasFraction hasExponent⟩
  calc
    cs = sign (readSign cs).1 ++ (readSign cs).2 := (sign_append_readSign cs).symm
    _ = _ := by simp only [splitWhole, List.append_assoc]

end Literal

theorem skipNumber_append {text rest : List Char} {literal : Literal}
    (spelled : SpellsLiteral text literal) (ends : EndsToken rest) :
    skipNumber (text ++ rest) = .ok rest := by
  rw [skipNumber, Literal.read_append spelled ends]

theorem exists_literal_of_skipNumber {cs rest : List Char} (skipped : skipNumber cs = .ok rest) :
    ∃ text literal, cs = text ++ rest ∧ SpellsLiteral text literal := by
  rw [skipNumber] at skipped
  split at skipped
  · rename_i literal left read
    cases skipped
    obtain ⟨text, split, spelled⟩ := Literal.exists_literal read
    exact ⟨text, literal, split, spelled⟩
  · cases skipped

theorem le_ofDigitChars (start : Nat) (digits : List Char) :
    start ≤ Nat.ofDigitChars 10 digits start := by
  rw [Nat.ofDigitChars_eq_ofDigitChars_zero]
  have power : 0 < 10 ^ digits.length := Nat.pow_pos (by decide)
  exact Nat.le_add_right_of_le (Nat.le_mul_of_pos_left start power)

theorem ofDigitChars_cons (start : Nat) (digit : Char) (digits : List Char) :
    Nat.ofDigitChars 10 (digit :: digits) start =
      Nat.ofDigitChars 10 digits (10 * start + Numeral.value [digit]) := by
  rw [Nat.ofDigitChars_cons]
  simp [Numeral.value, Nat.ofDigitChars_cons]

/-- Digits whose value fits 64 bits are all taken. -/
theorem significand_of_lt {start : Nat} {digits : List Char}
    (fits : Nat.ofDigitChars 10 digits start < Nat.pow 2 64) :
    significand start digits = (Nat.ofDigitChars 10 digits start, []) := by
  induction digits generalizing start with
  | nil => rfl
  | cons digit digits ih =>
    rw [ofDigitChars_cons] at fits ⊢
    have next := Nat.lt_of_le_of_lt (le_ofDigitChars _ digits) fits
    simp only [significand, if_pos next]
    exact ih fits

/-- Where all digits are taken, their value fits 64 bits. -/
theorem significand_of_nil {start whole : Nat} {digits : List Char}
    (small : start < Nat.pow 2 64) (taken : significand start digits = (whole, [])) :
    whole = Nat.ofDigitChars 10 digits start ∧ whole < Nat.pow 2 64 := by
  induction digits generalizing start with
  | nil =>
    cases taken
    exact ⟨rfl, small⟩
  | cons digit digits ih =>
    rw [ofDigitChars_cons]
    simp only [significand] at taken
    split at taken
    · rename_i next
      exact ih next taken
    · cases taken

/-- A literal is a count exactly when it is nothing but digits and they fit 64 bits. -/
theorem Literal.value?_eq_natural_iff {literal : Literal} {n : Nat} :
    literal.value? = some (.integer n) ↔
      literal.negative = false ∧ literal.fraction = none ∧ literal.exponent = none ∧
        Numeral.value literal.whole = n ∧ n < Nat.pow 2 64 := by
  rcases taken : significand 0 literal.whole with ⟨whole, beyond⟩
  simp only [Literal.value?, taken]
  constructor
  · intro value
    split at value
    · rename_i bare
      simp only [Bool.and_eq_true, Option.isNone_iff_eq_none, List.isEmpty_iff] at bare
      obtain ⟨⟨noFraction, noExponent⟩, rfl⟩ := bare
      obtain ⟨whole_eq, fits⟩ := significand_of_nil (by decide) taken
      split at value
      · rename_i positive
        cases value
        exact ⟨by simpa using positive, noFraction, noExponent, whole_eq.symm, fits⟩
      · split at value
        · rename_i bounds
          simp only [Bool.and_eq_true, decide_eq_true_eq] at bounds
          simp only [Option.some.injEq, Number.integer.injEq] at value
          omega
        · cases value
    · obtain ⟨real, _, value⟩ := Option.map_eq_some_iff.mp value
      cases value
  · rintro ⟨positive, noFraction, noExponent, rfl, fits⟩
    have all : significand 0 literal.whole = (Numeral.value literal.whole, []) :=
      significand_of_lt fits
    rw [taken] at all
    cases all
    simp [positive, noFraction, noExponent, Numeral.value]

theorem SpellsLiteral.exists_cons {text : List Char} {literal : Literal}
    (spelled : SpellsLiteral text literal) :
    ∃ c tail, text = c :: tail ∧ (c = '-' ∨ c.isDigit = true) := by
  cases spelled with
  | mk negative isWhole hasFraction hasExponent =>
    obtain ⟨c, tail, rfl, digit⟩ := isWhole.1.exists_cons
    cases negative with
    | true => exact ⟨_, _, rfl, .inl rfl⟩
    | false => exact ⟨_, _, rfl, .inr digit⟩

/-- A literal without sign, fraction and exponent is its whole digits. -/
theorem SpellsLiteral.eq_whole {text : List Char} {literal : Literal}
    (spelled : SpellsLiteral text literal) (positive : literal.negative = false)
    (noFraction : literal.fraction = none) (noExponent : literal.exponent = none) :
    text = literal.whole ∧ IsDigits text := by
  cases spelled with
  | mk negative isWhole hasFraction hasExponent =>
    cases positive
    cases noFraction
    cases noExponent
    cases hasFraction
    cases hasExponent
    simpa [sign] using isWhole.1

/-- Digits alone have no sign, no fraction and no exponent. -/
theorem SpellsLiteral.bare {text : List Char} {literal : Literal}
    (spelled : SpellsLiteral text literal) (isDigits : IsDigits text) :
    literal.negative = false ∧ literal.fraction = none ∧ literal.exponent = none := by
  cases spelled with
  | mk negative isWhole hasFraction hasExponent =>
    cases negative with
    | true =>
      have minus := isDigits.2 '-' (by simp [sign])
      cases minus
    | false =>
      cases hasFraction with
      | present =>
        have point := isDigits.2 '.' (by simp)
        cases point
      | absent =>
        cases hasExponent with
        | absent => exact ⟨rfl, rfl, rfl⟩
        | unsigned mark | plus mark | minus mark =>
          rcases mark with rfl | rfl
          · have letter := isDigits.2 'e' (by simp)
            cases letter
          · have letter := isDigits.2 'E' (by simp)
            cases letter

/-- A number is a literal that has a value. -/
theorem readNumber_eq_ok_iff {cs rest : List Char} {number : Number} :
    readNumber cs = .ok (number, rest) ↔
      ∃ literal, Literal.read cs = .ok (literal, rest) ∧ literal.value? = some number := by
  rw [readNumber, Reading.andThen_eq_ok_iff]
  constructor
  · rintro ⟨literal, left, read, valued⟩
    cases value : literal.value? with
    | none =>
      rw [value] at valued
      cases valued
    | some found =>
      rw [value] at valued
      cases valued
      exact ⟨literal, read, value⟩
  · rintro ⟨literal, read, value⟩
    refine ⟨literal, rest, read, ?_⟩
    rw [value]

/-- A count is a literal that has its value. -/
theorem readCount_eq_ok_iff {width : Nat} {cs rest : List Char} {count : BitVec width} :
    readCount width cs = .ok (count, rest) ↔
      ∃ literal, Literal.read cs = .ok (literal, rest) ∧
        literal.value? = some (.integer count.toNat) := by
  rw [← readNumber_eq_ok_iff]
  constructor
  · intro read
    cases cs with
    | nil => cases read
    | cons c tail =>
      rw [readCount] at read
      split at read
      · obtain ⟨number, left, readNumber, fitted⟩ := Reading.andThen_eq_ok_iff.mp read
        cases number with
        | real => cases fitted
        | integer n =>
          cases fit : Numeral.fitInt? width n with
          | none =>
            simp only [fit] at fitted
            cases fitted
          | some fitting =>
            simp only [fit] at fitted
            cases fitted
            rw [← Numeral.fitInt?_eq_some_iff.mp fit]
            exact readNumber
      · cases read
  · intro read
    obtain ⟨literal, readLiteral, _⟩ := readNumber_eq_ok_iff.mp read
    obtain ⟨text, rfl, spelled⟩ := Literal.exists_literal readLiteral
    obtain ⟨c, tail, rfl, start⟩ := spelled.exists_cons
    have fit : Numeral.fitInt? width count.toNat = some count :=
      Numeral.fitInt?_eq_some_iff.mpr rfl
    rw [List.cons_append] at read ⊢
    rw [readCount, if_pos start, read, Reading.andThen_ok]
    simp only [fit]

/-- Where a value stands, `readCount` accepts the digits of the count that it gives, and
nothing else. -/
theorem readCount_append_iff {width : Nat} (narrow : width ≤ 64) {text left rest : List Char}
    {literal : Literal} (spelled : SpellsLiteral text literal) (ends : EndsToken left)
    {count : BitVec width} :
    readCount width (text ++ left) = .ok (count, rest) ↔
      rest = left ∧ IsDigits text ∧ Numeral.value text = count.toNat := by
  rw [readCount_eq_ok_iff, Literal.read_append spelled ends]
  constructor
  · rintro ⟨_, same, value⟩
    cases same
    obtain ⟨positive, noFraction, noExponent, whole, _⟩ := Literal.value?_eq_natural_iff.mp value
    obtain ⟨same, isDigits⟩ := spelled.eq_whole positive noFraction noExponent
    rw [same, whole]
    exact ⟨rfl, same ▸ isDigits, rfl⟩
  · rintro ⟨rfl, isDigits, value⟩
    obtain ⟨positive, noFraction, noExponent⟩ := spelled.bare isDigits
    obtain ⟨same, _⟩ := spelled.eq_whole positive noFraction noExponent
    have fits : count.toNat < Nat.pow 2 64 :=
      Nat.lt_of_lt_of_le count.isLt (Nat.pow_le_pow_right (by decide) narrow)
    have whole : Numeral.value literal.whole = count.toNat := by rw [← same, value]
    exact ⟨literal, rfl, Literal.value?_eq_natural_iff.mpr
      ⟨positive, noFraction, noExponent, whole, fits⟩⟩

/-- The digits of a count do not start with a zero that is not alone. -/
theorem isWhole_digits (n : Nat) : IsWhole (Numeral.digits n) := by
  refine ⟨⟨Nat.toDigits_ne_nil, fun c member => Numeral.isDigit_of_mem_digits member⟩, ?_⟩
  induction n using Nat.strongRecOn with
  | ind n ih =>
    intro head
    by_cases small : n < 10
    · rw [Numeral.digits, Nat.toDigits_of_lt_base small] at head ⊢
      simp only [List.head?_cons, Option.some.injEq] at head
      rw [head]
    · have step := Nat.toDigits_of_base_le (b := 10) (by decide) (Nat.le_of_not_lt small)
      obtain ⟨c, tail, shape⟩ :=
        List.exists_cons_of_ne_nil (Nat.toDigits_ne_nil (n := n / 10) (b := 10))
      have zero := ih (n / 10) (by omega) (by simpa [Numeral.digits, step, shape] using head)
      have none_left : n / 10 = 0 := by
        rw [← Numeral.value_digits (n / 10), zero]
        rfl
      omega

theorem spellsLiteral_digits (n : Nat) :
    SpellsLiteral (Numeral.digits n)
      { negative := false, whole := Numeral.digits n, fraction := none, exponent := none } := by
  simpa [sign] using SpellsLiteral.mk false (isWhole_digits n) .absent .absent

end WorkerSettings.Json
