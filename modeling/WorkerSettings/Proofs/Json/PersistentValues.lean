import WorkerSettings.Proofs.Json.Fields
import WorkerSettings.Proofs.Json.Persistence

/-!
# What more text changes about a value

A word, a string or a bracket decides about a value by itself. A number does so only if
something follows it: its last digit may be the last character of the text, and then a count
may become too large, and a literal that is no count stays none. The readers of numbers and of
fields are persistent in this sense.
-/

namespace WorkerSettings.Json

theorem NotNext.append {kind : Char → Bool} {rest : List Char} (next : NotNext kind rest)
    (left : rest ≠ []) (more : List Char) : NotNext kind (rest ++ more) := by
  obtain ⟨c, tail, rfl⟩ := List.exists_cons_of_ne_nil left
  exact .cons (next c rfl) _

/-- Before more text, only what there is decides whether a token is carried on. -/
theorem NotNext.of_append {kind : Char → Bool} {rest more : List Char}
    (next : NotNext kind (rest ++ more)) : NotNext kind rest := by
  cases rest with
  | nil =>
    intro c head
    cases head
  | cons c tail => exact .cons (next c rfl) tail

namespace Literal

theorem lexical_readDigits (cs : List Char) : (readDigits cs).Lexical := by
  unfold readDigits
  split
  · exact .truncated
  · split
    · exact .ok _ _
    · exact .malformed

theorem lexical_readPower (cs : List Char) : (readPower cs).Lexical := by
  unfold readPower
  split <;> exact (lexical_readDigits _).map _

theorem lexical_read (cs : List Char) : (read cs).Lexical := by
  refine .andThen (.andThen (lexical_readDigits _) fun whole rest => ?_) fun whole rest => ?_
  · split
    · exact .malformed
    · exact .ok _ _
  refine .andThen ?_ fun fraction rest => .map ?_ _
  · unfold readFraction
    split
    · exact (lexical_readDigits _).map _
    · exact .ok _ _
  · unfold readExponent
    split
    · exact (lexical_readPower _).map _
    · exact (lexical_readPower _).map _
    · exact .ok _ _

theorem notNext_of_readDigits {cs digits rest : List Char}
    (read : readDigits cs = .ok (digits, rest)) : NotNext Char.isDigit rest := by
  unfold readDigits at read
  split at read
  · cases read
  · rename_i c tail
    split at read
    · cases read
      intro d head
      have stop := List.head?_dropWhile_not Char.isDigit (c :: tail)
      rw [head] at stop
      exact stop
    · cases read

theorem notNext_of_readFraction {cs rest : List Char}
    (read : readFraction cs = .ok (none, rest)) : rest = cs ∧ NotNext (· == '.') rest := by
  unfold readFraction at read
  split at read
  · obtain ⟨_, _, same⟩ := Reading.map_eq_ok_iff.mp read
    cases same
  · rename_i other
    cases read
    refine ⟨rfl, fun c head => ?_⟩
    obtain ⟨tail, rfl⟩ := List.head?_eq_some_iff.mp head
    exact beq_false_of_ne fun point => other tail (point ▸ rfl)

theorem notNext_of_readExponent {cs rest : List Char}
    (read : readExponent cs = .ok (none, rest)) :
    rest = cs ∧ NotNext (fun c => c == 'e' || c == 'E') rest := by
  unfold readExponent at read
  split at read
  · obtain ⟨_, _, same⟩ := Reading.map_eq_ok_iff.mp read
    cases same
  · obtain ⟨_, _, same⟩ := Reading.map_eq_ok_iff.mp read
    cases same
  · rename_i notSmall notLarge
    cases read
    refine ⟨rfl, fun c head => ?_⟩
    obtain ⟨tail, rfl⟩ := List.head?_eq_some_iff.mp head
    rw [Bool.or_eq_false_iff]
    exact ⟨beq_false_of_ne fun letter => notSmall tail (letter ▸ rfl),
      beq_false_of_ne fun letter => notLarge tail (letter ▸ rfl)⟩

/-- What follows a literal of digits alone does not carry it on. -/
theorem notNext_of_read {cs rest : List Char} {literal : Literal}
    (readLiteral : read cs = .ok (literal, rest)) (noFraction : literal.fraction = none)
    (noExponent : literal.exponent = none) : NotNext continuesNumber rest := by
  obtain ⟨whole, afterWhole, readWhole, tail⟩ := Reading.andThen_eq_ok_iff.mp readLiteral
  obtain ⟨fraction, afterFraction, readFraction, tail⟩ := Reading.andThen_eq_ok_iff.mp tail
  obtain ⟨exponent, readExponent, rfl⟩ := Reading.map_eq_ok_iff.mp tail
  cases noFraction
  cases noExponent
  obtain ⟨rfl, noLetter⟩ := notNext_of_readExponent readExponent
  obtain ⟨rfl, noPoint⟩ := notNext_of_readFraction readFraction
  obtain ⟨_, left, readDigits, whole⟩ := Reading.andThen_eq_ok_iff.mp readWhole
  have noDigit : NotNext Char.isDigit rest := by
    split at whole
    · cases whole
    · cases whole
      exact notNext_of_readDigits readDigits
  intro c head
  have letter := noLetter c head
  rw [Bool.or_eq_false_iff] at letter
  simp only [continuesNumber, noDigit c head, noPoint c head, letter, Bool.or_self]

/-- Digits end in the open: more of them may follow. -/
theorem endsOpen_of_isDigits {cs : List Char} (isDigits : IsDigits cs) : EndsOpen cs := by
  refine ⟨cs.getLast isDigits.1, List.getLast?_eq_some_getLast isDigits.1, ?_⟩
  have digit := isDigits.2 _ (List.getLast_mem isDigits.1)
  constructor
  all_goals
    intro same
    rw [same] at digit
    cases digit

theorem persistent_readDigits (cs : List Char) : Persistent readDigits cs := by
  refine .of_reading (lexical_readDigits cs) fun {digits rest} read => ?_
  obtain ⟨rfl, isDigits⟩ := exists_digits read
  refine ⟨List.suffix_append digits rest, ?_⟩
  by_cases left : rest = []
  · subst left
    refine .inr ⟨?_, rfl⟩
    rw [List.append_nil]
    exact endsOpen_of_isDigits isDigits
  · refine .inl fun more => ?_
    rw [List.append_assoc]
    exact readDigits_append isDigits ((notNext_of_readDigits read).append left more)

theorem persistent_readWhole (cs : List Char) : Persistent readWhole cs := by
  refine .andThen (persistent_readDigits cs) (fun {whole rest} _ _ => ?_) fun {whole} _ _ => ?_
  · split
    · exact .of_lexical (.inr rfl) rfl
    · exact .of_ok whole List.suffix_rfl fun _ => rfl
  · split
    · exact .of_lexical (.inr rfl) rfl
    · exact .of_ok rfl

theorem persistent_readFraction {cs : List Char} (left : cs ≠ []) :
    Persistent readFraction cs := by
  obtain ⟨c, rest, rfl⟩ := List.exists_cons_of_ne_nil left
  by_cases point : c = '.'
  · subst point
    exact .of_suffix ((persistent_readDigits rest).map some) (List.suffix_cons _ _) fun _ => rfl
  · refine .of_ok none List.suffix_rfl fun more => ?_
    simp [readFraction, point]

theorem persistent_readPower (cs : List Char) : Persistent readPower cs := by
  cases cs with
  | nil => exact .of_lexical (.inl rfl) rfl
  | cons c rest =>
    by_cases sign : c = '-' ∨ c = '+'
    · rcases sign with rfl | rfl
      · exact .of_suffix ((persistent_readDigits rest).map _) (List.suffix_cons _ _) fun _ => rfl
      · exact .of_suffix ((persistent_readDigits rest).map _) (List.suffix_cons _ _) fun _ => rfl
    · obtain ⟨notMinus, notPlus⟩ := not_or.mp sign
      have unsigned := (persistent_readDigits (c :: rest)).map fun power =>
        (Numeral.value power : Int)
      refine .of_suffix unsigned List.suffix_rfl fun more => ?_
      simp [readPower, notMinus, notPlus]

theorem persistent_readExponent {cs : List Char} (left : cs ≠ []) :
    Persistent readExponent cs := by
  obtain ⟨c, rest, rfl⟩ := List.exists_cons_of_ne_nil left
  by_cases letter : c = 'e' ∨ c = 'E'
  · have power := (persistent_readPower rest).map some
    rcases letter with rfl | rfl
    · exact .of_suffix power (List.suffix_cons _ _) fun _ => rfl
    · exact .of_suffix power (List.suffix_cons _ _) fun _ => rfl
  · obtain ⟨notSmall, notLarge⟩ := not_or.mp letter
    refine .of_ok none List.suffix_rfl fun more => ?_
    simp [readExponent, notSmall, notLarge]

def readUnsigned (negative : Bool) (cs : List Char) : Reading Literal :=
  (readWhole cs).andThen fun whole afterWhole =>
    (readFraction afterWhole).andThen fun fraction afterFraction =>
      (readExponent afterFraction).map fun exponent => { negative, whole, fraction, exponent }

/-- A fraction that is there ends with a digit. -/
theorem endsOpen_of_spellsFraction {text : List Char} {fraction : Option (List Char)}
    (spelled : SpellsFraction text fraction) (left : text ≠ []) : EndsOpen text := by
  cases spelled with
  | absent => exact (left rfl).elim
  | present digits => exact (endsOpen_of_isDigits digits).of_suffix (List.suffix_cons _ _)

theorem persistent_readUnsigned (negative : Bool) (cs : List Char) :
    Persistent (readUnsigned negative) cs := by
  refine .andThen (persistent_readWhole cs) (fun {whole afterWhole} read closed => ?_)
    fun _ _ => .of_ok rfl
  obtain ⟨split, isWhole⟩ := exists_whole read
  have left : afterWhole ≠ [] := by
    rintro rfl
    rw [split, List.append_nil] at closed
    exact closed rfl (endsOpen_of_isDigits isWhole.1)
  refine .andThen (persistent_readFraction left) (fun {fraction afterFraction} read closed => ?_)
    fun _ _ => .of_ok rfl
  obtain ⟨text, split, spelled⟩ := exists_fraction read
  have left : afterFraction ≠ [] := by
    rintro rfl
    rw [List.append_nil] at split
    exact closed rfl (split ▸ endsOpen_of_spellsFraction spelled (split ▸ left))
  exact (persistent_readExponent left).map _

/-- Once a literal is read up to something that follows it, more text does not change it. -/
theorem persistent_read (cs : List Char) : Persistent read cs := by
  cases cs with
  | nil => exact .of_lexical (.inl rfl) rfl
  | cons c rest =>
    by_cases minus : c = '-'
    · subst minus
      exact .of_suffix (persistent_readUnsigned true rest) (List.suffix_cons _ _) fun _ => rfl
    · refine .of_suffix (persistent_readUnsigned false (c :: rest)) List.suffix_rfl fun more => ?_
      simp [read, readUnsigned, readSign, minus]

end Literal

theorem lexical_readNumber (cs : List Char) : (readNumber cs).Lexical := by
  refine (Literal.lexical_read cs).andThen fun literal rest => ?_
  split
  · exact .ok _ _
  · exact .malformed

theorem persistent_readNumber (cs : List Char) : Persistent readNumber cs := by
  refine .andThen (Literal.persistent_read cs) (fun {literal rest} _ _ => ?_)
    fun {literal} _ _ => ?_
  · cases value : literal.value? with
    | some number => exact .of_ok number List.suffix_rfl fun _ => rfl
    | none => exact .of_lexical (.inr rfl) rfl
  · cases value : literal.value? with
    | some number => exact .of_ok rfl
    | none => exact .of_lexical (.inr rfl) rfl

theorem persistent_skipNumber (cs : List Char) :
    Persistent (fun cs => .ofRest (skipNumber cs)) cs := by
  cases read : Literal.read cs with
  | error rejection =>
    refine .of_lexical (.inr rfl) ?_
    rw [skipNumber, read, Reading.ofRest_error]
  | ok result =>
    obtain ⟨literal, rest⟩ := result
    refine .of_reading ?_ fun {_ rest} skipped => ?_
    · rw [skipNumber, read]
      exact .ok _ _
    · rw [skipNumber, read] at skipped
      cases skipped
      obtain ⟨suffix, persists⟩ := (Literal.persistent_read cs).ok read
      refine ⟨suffix, persists.imp_left fun persists more => ?_⟩
      rw [skipNumber, persists more, Reading.ofRest_ok]

theorem IsWhole.of_append {cs more : List Char} (isWhole : IsWhole (cs ++ more)) (left : cs ≠ []) :
    IsWhole cs := by
  refine ⟨⟨left, fun c member => isWhole.1.2 c (List.mem_append_left more member)⟩, fun head => ?_⟩
  obtain ⟨tail, rfl⟩ := List.head?_eq_some_iff.mp head
  have single := isWhole.2 rfl
  simp only [List.cons_append, List.cons.injEq, true_and, List.append_eq_nil_iff] at single
  rw [single.1]

theorem IsWhole.spellsLiteral {cs : List Char} (isWhole : IsWhole cs) :
    SpellsLiteral cs { negative := false, whole := cs, fraction := none, exponent := none } := by
  have spelled := SpellsLiteral.mk false isWhole .absent .absent
  simpa [sign] using spelled

theorem SpellsLiteral.isWhole {text : List Char} {literal : Literal}
    (spelled : SpellsLiteral text literal) : IsWhole literal.whole := by
  cases spelled with
  | mk _ isWhole => exact isWhole

/-- The part of a text before a count is a count itself, or it goes on after the count. -/
theorem readCount_of_append {width : Nat} (narrow : width ≤ 64) {cs more : List Char}
    (left : cs ≠ []) {result : BitVec width × List Char}
    (read : readCount width (cs ++ more) = .ok result) :
    ∃ result', readCount width cs = .ok result' := by
  obtain ⟨count, rest⟩ := result
  obtain ⟨literal, readLiteral, value⟩ := readCount_eq_ok_iff.mp read
  obtain ⟨text, split, spelled⟩ := Literal.exists_literal readLiteral
  obtain ⟨positive, noFraction, noExponent, whole, fits⟩ :=
    Literal.value?_eq_natural_iff.mp value
  obtain ⟨same, isDigits⟩ := spelled.eq_whole positive noFraction noExponent
  -- The count ends behind `cs`, so that all of `cs` is digits, or within it.
  rcases List.append_eq_append_iff.mp split with ⟨digits, rfl, rfl⟩ | ⟨extra, rfl, rfl⟩
  · have isWhole : IsWhole cs := by
      have all := spelled.isWhole
      rw [← same] at all
      exact all.of_append left
    have le : Numeral.value cs ≤ count.toNat := by
      rw [← whole, ← same, Numeral.value, Numeral.value, Nat.ofDigitChars_append]
      exact le_ofDigitChars _ digits
    have read : readCount width (cs ++ []) = .ok (BitVec.ofNat width (Numeral.value cs), []) := by
      rw [readCount_append_iff narrow isWhole.spellsLiteral (fun _ head => by cases head)]
      refine ⟨rfl, isWhole.1, ?_⟩
      rw [BitVec.toNat_ofNat, Nat.mod_eq_of_lt (Nat.lt_of_le_of_lt le count.isLt)]
    rw [List.append_nil] at read
    exact ⟨_, read⟩
  · have next := Literal.notNext_of_read readLiteral noFraction noExponent
    exact ⟨(count, extra), readCount_eq_ok_iff.mpr
      ⟨literal, Literal.read_append_of_notNext spelled next.of_append, value⟩⟩

/-- What a number starts with is rejected as the number. -/
theorem rejectValue_number (expected : String) {c : Char} (start : c = '-' ∨ c.isDigit = true)
    (cs : List Char) :
    rejectValue expected (c :: cs) =
      match readNumber (c :: cs) with
      | .ok (.integer value, _) => .mismatch (.invalidType (.integer value) expected)
      | .ok (.real value, _) => .mismatch (.invalidType (.real value) expected)
      | .error rejection => rejection := by
  unfold rejectValue
  split
  case h_1 none => cases none
  case h_8 same =>
    cases same
    exact if_pos start
  all_goals
    rename_i same
    cases same
    rcases start with start | start <;> cases start

/-- A word is rejected for what it is once it is read. -/
theorem rejectWord_append (word rest : List Char) (found : Rejection) :
    (match readWord word rest with | .ok _ => found | .error rejection => rejection).IsLexical ∨
      ∀ more, (match readWord word (rest ++ more) with
        | .ok _ => found | .error rejection => rejection) =
          match readWord word rest with | .ok _ => found | .error rejection => rejection := by
  cases read : readWord word rest with
  | error rejection => exact .inl (isLexical_of_readWord read)
  | ok left => exact .inr fun more => by rw [readWord_append_of_ok read more]

/-- A value of the wrong kind stays one when more text follows it, unless it is a number that
the text goes on with. -/
theorem rejectValue_append (expected : String) (cs : List Char) :
    (rejectValue expected cs).IsLexical ∨ EndsOpen cs ∨
      ∀ more, rejectValue expected (cs ++ more) = rejectValue expected cs := by
  by_cases number : ∃ c rest, cs = c :: rest ∧ (c = '-' ∨ c.isDigit = true)
  · obtain ⟨c, rest, rfl, start⟩ := number
    simp only [List.cons_append, rejectValue_number expected start]
    cases read : readNumber (c :: rest) with
    | error rejection => exact .inl (lexical_readNumber _ read)
    | ok result =>
      obtain ⟨number, left⟩ := result
      rcases ((persistent_readNumber _).ok read).2 with persists | ⟨ends, _⟩
      · refine .inr (.inr fun more => ?_)
        rw [← List.cons_append, persists more]
        cases number <;> rfl
      · exact .inr (.inl ends)
  · unfold rejectValue
    split
    case h_1 => exact .inl (.inl rfl)
    case h_2 | h_3 | h_4 => exact (rejectWord_append _ _ _).imp_right .inr
    case h_5 | h_6 => exact .inr (.inr fun _ => rfl)
    case h_7 rest =>
      cases read : readString rest with
      | error rejection => exact .inl (lexical_readString rest read)
      | ok result =>
        refine .inr (.inr fun more => ?_)
        simp only [List.cons_append, readString_append read]
    case h_8 c rest _ _ _ _ _ _ =>
      have other : ¬ (c = '-' ∨ c.isDigit = true) := fun start => number ⟨c, rest, rfl, start⟩
      rw [if_neg other]
      exact .inl (.inr rfl)

/-- Rejecting a value is final but for a number at the end of the text. -/
theorem persistent_rejectValue {α : Type} (expected : String) (cs : List Char) :
    Persistent (fun cs => (.error (rejectValue expected cs) : Reading α)) cs := by
  constructor
  · intro value rest found
    cases found
  · intro cause found
    have rejected : rejectValue expected cs = .mismatch cause := Except.error.inj found
    rcases rejectValue_append expected cs with lexical | ends | same
    · exact (Rejection.not_isLexical_mismatch cause (rejected ▸ lexical)).elim
    · exact .inr ⟨ends, fun more result read => by cases read⟩
    · exact .inl fun more => by rw [same more, rejected]

theorem persistent_readText (cs : List Char) : Persistent readText cs := by
  cases cs with
  | nil => exact .of_lexical (.inl rfl) rfl
  | cons c rest =>
    by_cases quote : c = '"'
    · subst quote
      cases read : readString rest with
      | error rejection => exact .of_lexical (lexical_readString rest read) read
      | ok result =>
        obtain ⟨s, left⟩ := result
        have suffix : left <:+ '"' :: rest :=
          (suffix_of_readString read).trans (List.suffix_cons _ _)
        exact .of_ok s suffix fun more => readString_append read more
    · refine .of_suffix (persistent_rejectValue Form.text.describe (c :: rest)) List.suffix_rfl
        fun more => ?_
      simp [readText, quote]

def countOf (width : Nat) (number : Number) (rest : List Char) : Reading (BitVec width) :=
  match number with
  | .integer value =>
    match Numeral.fitInt? width value with
    | some count => .ok (count, rest)
    | none => .error (.mismatch (.invalidValue (.integer value) (Form.count width).describe))
  | .real value => .error (.mismatch (.invalidType (.real value) (Form.count width).describe))

theorem readCount_number (width : Nat) {c : Char} (start : c = '-' ∨ c.isDigit = true)
    (cs : List Char) :
    readCount width (c :: cs) = (readNumber (c :: cs)).andThen (countOf width) := by
  rw [readCount, if_pos start]
  rfl

theorem persistent_countOf (width : Nat) (number : Number) (rest : List Char) :
    Persistent (countOf width number) rest := by
  cases number with
  | real value => exact .of_mismatch _ fun _ => rfl
  | integer value =>
    cases fit : Numeral.fitInt? width value with
    | none =>
      refine .of_mismatch (.invalidValue (.integer value) (Form.count width).describe) fun more => ?_
      simp only [countOf, fit]
    | some count =>
      refine .of_ok count List.suffix_rfl fun more => ?_
      simp only [countOf, fit]

theorem persistent_readCount {width : Nat} (narrow : width ≤ 64) (cs : List Char) :
    Persistent (readCount width) cs := by
  cases cs with
  | nil => exact .of_lexical (.inl rfl) rfl
  | cons c rest =>
    by_cases start : c = '-' ∨ c.isDigit = true
    · cases read : readNumber (c :: rest) with
      | error rejection =>
        refine .of_lexical (lexical_readNumber _ read) ?_
        rw [readCount_number width start, read, Reading.andThen_error]
      | ok result =>
        obtain ⟨number, left⟩ := result
        have counted : readCount width (c :: rest) = countOf width number left := by
          rw [readCount_number width start, read, Reading.andThen_ok]
        obtain ⟨suffix, persists | ⟨ends, rfl⟩⟩ := (persistent_readNumber _).ok read
        · refine .of_suffix (persistent_countOf width number left) suffix fun more => ?_
          rw [List.cons_append, readCount_number width start, ← List.cons_append, persists more,
            Reading.andThen_ok]
        -- `andThen` does not apply: at the end of the text `countOf` is not idle. But what is no
        -- count does not become one by more digits.
        · constructor
          · intro count left found
            obtain ⟨none_left, _⟩ := (persistent_countOf width number []).ok (counted ▸ found)
            cases List.suffix_nil.mp none_left
            exact ⟨List.nil_suffix, .inr ⟨ends, rfl⟩⟩
          · intro cause found
            refine .inr ⟨ends, fun more result read => ?_⟩
            obtain ⟨result, read⟩ := readCount_of_append narrow (List.cons_ne_nil c rest) read
            cases found.symm.trans read
    · refine .of_suffix (persistent_rejectValue (Form.count width).describe (c :: rest))
        List.suffix_rfl fun more => ?_
      rw [List.cons_append, readCount, if_neg start]

theorem Form.persistent_read {form : Form} (narrow : form.width ≤ 64) (cs : List Char) :
    Persistent form.read cs := by
  cases form with
  | text => exact .dropBlanks rfl (persistent_readText _)
  | count width => exact .dropBlanks rfl (persistent_readCount narrow _)

/-- What a field makes of a value stays when more text follows it, unless the value is a number
at the end of the text. -/
theorem Field.persistent_read {field : Field} (narrow : field.form.width ≤ 64) (cs : List Char) :
    Persistent field.read cs := by
  cases field with
  | required key form => exact form.persistent_read narrow cs
  | optional key form =>
    have persistent := (form.persistent_read narrow cs).map some
    cases start : dropBlanks cs with
    | nil =>
      refine .of_lexical (.inl rfl) ?_
      cases form <;> simp only [read, Form.read, start] <;> rfl
    | cons c rest =>
      by_cases null : c = 'n'
      · subst null
        cases word : readWord "ull".toList rest with
        | error rejection =>
          refine .of_lexical (isLexical_of_readWord word) ?_
          simp only [read, start, word]
        | ok left =>
          have suffix : left <:+ cs := by
            refine List.IsSuffix.trans ?_ (suffix_of_dropBlanks start)
            exact eq_append_of_readWord word ▸ List.suffix_append _ left
          refine .of_ok none suffix fun more => ?_
          simp only [read, dropBlanks_append_of_cons start, readWord_append_of_ok word]
      · exact .of_suffix persistent List.suffix_rfl fun more =>
          read_optional (dropBlanks_append_of_cons start more) null

end WorkerSettings.Json
