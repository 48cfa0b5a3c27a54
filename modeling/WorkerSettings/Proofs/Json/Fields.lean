import WorkerSettings.Proofs.Json.Skipping

/-!
# Fields against the grammar

Where a value of the grammar stands, a field reads it exactly if it is of the form of the
field, whatever else it may be. A record is described by the members of its object: every
field finds its value under its key, and the members of other keys say nothing. `Holds`
states this over the members as a list, without an order of reading.
-/

namespace WorkerSettings.Json

/-- The text is a value of the form. -/
def Form.Spells : (form : Form) → List Char → form.Value → Prop
  | .text, cs, value => SpellsString cs value
  | .count _, cs, value => IsDigits cs ∧ Numeral.value cs = value.toNat

/-- The text is a value of the field, where `null` is the text of an absent value. -/
def Field.Spells : (field : Field) → List Char → field.Value → Prop
  | .required _ form, cs, value => form.Spells cs value
  | .optional _ _, cs, none => cs = "null".toList
  | .optional _ form, cs, some value => form.Spells cs value

def Form.width : Form → Nat
  | .text => 0
  | .count width => width

def Field.form : Field → Form
  | .required _ form => form
  | .optional _ form => form

theorem SpellsPieces.unique {spelling spelling' : List Char} {pieces pieces' : List Piece}
    (spelled : SpellsPieces spelling pieces) (spelled' : SpellsPieces spelling' pieces')
    (same : spelling = spelling') : pieces = pieces' := by
  have scanned := scan_append spelled []
  rw [same, scan_append spelled'] at scanned
  cases scanned
  rfl

/-- A value that starts with a quote is a string. -/
theorem Derives.exists_spelling {cs : List Char} (derives : Derives .value ('"' :: cs)) :
    ∃ spelling pieces, cs = spelling ++ ['"'] ∧ SpellsPieces spelling pieces := by
  generalize same : '"' :: cs = text at derives
  cases derives with
  | word member =>
    simp only [List.mem_cons, List.not_mem_nil, or_false] at member
    rcases member with rfl | rfl | rfl <;> cases same
  | string spelled =>
    cases same
    exact ⟨_, _, rfl, spelled⟩
  | number spelled =>
    obtain ⟨c, tail, rfl, start⟩ := spelled.exists_cons
    cases same
    rcases start with start | start <;> cases start
  | emptyList | list | emptyObject | object => cases same

/-- A value that starts like a number is a number. -/
theorem Derives.exists_literal {c : Char} {cs : List Char} (derives : Derives .value (c :: cs))
    (start : c = '-' ∨ c.isDigit = true) : ∃ literal, SpellsLiteral (c :: cs) literal := by
  generalize same : c :: cs = text at derives
  cases derives with
  | word member =>
    simp only [List.mem_cons, List.not_mem_nil, or_false] at member
    rcases member with rfl | rfl | rfl
    all_goals
      cases same
      rcases start with start | start <;> cases start
  | number spelled => exact ⟨_, spelled⟩
  | string | emptyList | list | emptyObject | object =>
    cases same
    rcases start with start | start <;> cases start

/-- A value that starts with `n` is `null`. -/
theorem Derives.eq_null {cs : List Char} (derives : Derives .value ('n' :: cs)) :
    cs = "ull".toList := by
  generalize same : 'n' :: cs = text at derives
  cases derives with
  | word member =>
    simp only [List.mem_cons, List.not_mem_nil, or_false] at member
    rcases member with rfl | rfl | rfl <;> cases same
    rfl
  | number spelled =>
    obtain ⟨c, tail, rfl, start⟩ := spelled.exists_cons
    cases same
    rcases start with start | start <;> cases start
  | string | emptyList | list | emptyObject | object => cases same

theorem SpellsString.head {text : List Char} {s : String} (spells : SpellsString text s) :
    text.head? = some '"' := by
  obtain ⟨spelling, pieces, rfl, _⟩ := spells
  rfl

/-- Between its quotes, a string spells what its parts denote. -/
theorem spellsString_iff {spelling : List Char} {pieces : List Piece}
    (spelled : SpellsPieces spelling pieces) {s : String} :
    SpellsString ('"' :: (spelling ++ ['"'])) s ↔ Denotes pieces s.toList := by
  constructor
  · rintro ⟨spelling', pieces', same, spelled', denotes⟩
    simp only [List.cons_append, List.cons.injEq, true_and] at same
    rw [spelled.unique spelled' (List.append_cancel_right same)]
    exact denotes
  · intro denotes
    exact ⟨spelling, pieces, rfl, spelled, denotes⟩

theorem readText_append_iff {value left rest : List Char} (derives : Derives .value value)
    {s : String} :
    readText (value ++ left) = .ok (s, rest) ↔ rest = left ∧ SpellsString value s := by
  obtain ⟨c, tail, rfl, _⟩ := derives.exists_cons
  by_cases quote : c = '"'
  · subst quote
    obtain ⟨spelling, pieces, rfl, spelled⟩ := derives.exists_spelling
    rw [spellsString_iff spelled, ← readString_append_iff spelled]
    simp [readText]
  · constructor
    · intro read
      rw [List.cons_append] at read
      unfold readText at read
      split at read
      · rename_i same
        cases same
        exact (quote rfl).elim
      · cases read
    · rintro ⟨_, spells⟩
      cases spells.head
      exact (quote rfl).elim

theorem readCount_value_iff {width : Nat} (narrow : width ≤ 64) {value left rest : List Char}
    (derives : Derives .value value) (ends : EndsToken left) {count : BitVec width} :
    readCount width (value ++ left) = .ok (count, rest) ↔
      rest = left ∧ IsDigits value ∧ Numeral.value value = count.toNat := by
  obtain ⟨c, tail, rfl, _⟩ := derives.exists_cons
  by_cases start : c = '-' ∨ c.isDigit = true
  · obtain ⟨literal, spelled⟩ := derives.exists_literal start
    exact readCount_append_iff narrow spelled ends
  · constructor
    · intro read
      rw [List.cons_append, readCount, if_neg start] at read
      cases read
    · rintro ⟨_, isDigits, _⟩
      exact (start (.inr (isDigits.2 c List.mem_cons_self))).elim

/-- Where a value stands, reading accepts what is a value of the form and nothing else. -/
theorem Form.read_append_iff {form : Form} (narrow : form.width ≤ 64)
    {lead value left rest : List Char} (blank : IsBlanks lead) (derives : Derives .value value)
    (ends : EndsToken left) {v : form.Value} :
    form.read (lead ++ (value ++ left)) = .ok (v, rest) ↔ rest = left ∧ form.Spells value v := by
  obtain ⟨c, tail, same, notBlank, _⟩ := derives.exists_cons
  have start : dropBlanks (lead ++ (value ++ left)) = value ++ left := by
    rw [dropBlanks_append blank, same, List.cons_append, dropBlanks_cons notBlank]
  cases form with
  | text =>
    rw [Form.read, start]
    exact readText_append_iff derives
  | count width =>
    rw [Form.read, start]
    exact readCount_value_iff narrow derives ends

theorem Form.not_spells_null {form : Form} {v : form.Value} :
    ¬ form.Spells "null".toList v := by
  cases form with
  | text =>
    intro spells
    cases spells.head
  | count width =>
    intro spells
    have digit := spells.1.2 'n' (by simp)
    cases digit

/-- A value that does not start with `n` is read in its form. -/
theorem Field.read_optional {key : String} {form : Form} {cs tail : List Char} {c : Char}
    (start : dropBlanks cs = c :: tail) (value : c ≠ 'n') :
    (Field.optional key form).read cs = (form.read cs).map some := by
  rw [Field.read]
  simp only [start]
  split
  · rename_i same
    cases same
    exact (value rfl).elim
  · rfl

/-- Where a value stands, reading accepts what is a value of the field and nothing else. -/
theorem Field.read_append_iff {field : Field} (narrow : field.form.width ≤ 64)
    {lead value left rest : List Char} (blank : IsBlanks lead) (derives : Derives .value value)
    (ends : EndsToken left) {v : field.Value} :
    field.read (lead ++ (value ++ left)) = .ok (v, rest) ↔
      rest = left ∧ field.Spells value v := by
  cases field with
  | required key form => exact Form.read_append_iff narrow blank derives ends
  | optional key form =>
    have form_iff {v : form.Value} : form.read (lead ++ (value ++ left)) = .ok (v, rest) ↔
        rest = left ∧ form.Spells value v := Form.read_append_iff narrow blank derives ends
    obtain ⟨c, tail, rfl, notBlank, _⟩ := derives.exists_cons
    have start : dropBlanks (lead ++ (c :: tail ++ left)) = c :: (tail ++ left) := by
      rw [dropBlanks_append blank, List.cons_append, dropBlanks_cons notBlank]
    by_cases null : c = 'n'
    · subst null
      cases derives.eq_null
      simp only [Field.read, start, readWord_append]
      constructor
      · intro read
        cases read
        exact ⟨rfl, rfl⟩
      · rintro ⟨rfl, spells⟩
        cases v with
        | none => rfl
        | some v => exact (Form.not_spells_null spells).elim
    · rw [Field.read_optional start null, Reading.map_eq_ok_iff]
      constructor
      · rintro ⟨v, read, rfl⟩
        exact form_iff.mp read
      · rintro ⟨rfl, spells⟩
        cases v with
        | none =>
          cases spells
          exact (null rfl).elim
        | some v => exact ⟨v, form_iff.mpr ⟨rfl, spells⟩, rfl⟩

/-- The texts that the members give a key, in order. -/
def valuesOf (members : List Member) (key : String) : List (List Char) :=
  (members.filter (·.1 = key)).map (·.2)

/-- The texts under its key give a field a value: one text spells it, or there is none and
the field may be absent. -/
def Field.Holds (field : Field) (texts : List (List Char)) (value : field.Value) : Prop :=
  (texts = [] ∧ field.absent? = some value) ∨
    ∃ text, texts = [text] ∧ field.Spells text value

def Holds : (fields : List Field) → List Member → Tuple fields → Prop
  | [], _, _ => True
  | field :: fields, members, (value, values) =>
    field.Holds (valuesOf members field.key) value ∧ Holds fields members values

@[simp] theorem valuesOf_nil (key : String) : valuesOf [] key = [] := rfl

@[simp] theorem valuesOf_append (members more : List Member) (key : String) :
    valuesOf (members ++ more) key = valuesOf members key ++ valuesOf more key := by
  simp [valuesOf]

@[simp] theorem valuesOf_self (key : String) (text : List Char) :
    valuesOf [(key, text)] key = [text] := by
  simp [valuesOf]

theorem valuesOf_of_ne {key other : String} (ne : other ≠ key) (text : List Char) :
    valuesOf [(other, text)] key = [] := by
  simp [valuesOf, ne]

end WorkerSettings.Json
