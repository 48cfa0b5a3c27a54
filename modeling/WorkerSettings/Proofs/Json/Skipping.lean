import WorkerSettings.Json.Skip
import WorkerSettings.Proofs.Json.Numbers
import WorkerSettings.Proofs.Json.Strings

/-!
# Passing over values against the grammar

Values are passed over with a stack of open brackets and no recursion, so a value is
finished when its own brackets are closed and the brackets around it are still open. The
first half shows that every value of the grammar is passed over so, at any depth. The
second half shows that nothing else is: `Closes` says what has to follow a value until the
brackets around it are closed, and a run that succeeds has seen a value and that.
-/

namespace WorkerSettings.Json

theorem readWord_append (word rest : List Char) : readWord word (word ++ rest) = .ok rest := by
  induction word with
  | nil => rfl
  | cons letter word ih => simp [readWord, ih]

theorem eq_append_of_readWord {word cs rest : List Char} (read : readWord word cs = .ok rest) :
    cs = word ++ rest := by
  fun_induction readWord word cs with
  | case1 cs =>
    cases read
    rfl
  | case2 => cases read
  | case3 letter word cs ih => rw [ih read, List.cons_append]
  | case4 => cases read

/-- What a number starts with starts nothing else. -/
theorem skipAtom_number {c : Char} {cs : List Char} (start : c = '-' ∨ c.isDigit = true) :
    skipAtom (c :: cs) = skipNumber (c :: cs) := by
  unfold skipAtom
  split
  case h_5 same =>
    cases same
    rw [if_pos start]
  case h_6 none => cases none
  all_goals
    rename_i same
    cases same
    rcases start with start | start <;> cases start

/-- A value that is no list and no object is passed over in one step. -/
theorem skipWithin_atom (around : List Bracket) {lead cs after : List Char} {c : Char}
    (blank : IsBlanks lead) (notBlank : isBlank c = false) (notList : c ≠ '[')
    (notObject : c ≠ '\x7b') (skipped : skipAtom (c :: cs) = .ok after) :
    skipWithin around (lead ++ c :: cs) = skipAfter around after := by
  rw [skipWithin_step, dropBlanks_append blank, dropBlanks_cons notBlank]
  split
  · rename_i none
    cases none
  · rename_i same
    cases same
    exact (notList rfl).elim
  · rename_i same
    cases same
    exact (notObject rfl).elim
  · rename_i same
    cases same
    rw [skipped]

def Bracket.opener : Bracket → Char
  | .list => '['
  | .object => '\x7b'

/-- What a bracket that is not empty holds. -/
def Bracket.phrase : Bracket → Phrase
  | .list => .elements
  | .object => .members

/-- A list or an object with nothing in it is passed over in one step. -/
theorem skipWithin_empty (bracket : Bracket) (around : List Bracket) {lead gap : List Char}
    (blank : IsBlanks lead) (blankGap : IsBlanks gap) (rest : List Char) :
    skipWithin around (lead ++ bracket.opener :: (gap ++ bracket.closer :: rest)) =
      skipAfter around rest := by
  rw [skipWithin_step, dropBlanks_append blank]
  cases bracket
  all_goals
    rw [Bracket.opener, dropBlanks_cons rfl]
    simp only [dropBlanks_append blankGap]
    rfl

/-- A list that does not close at once goes on with its first element. -/
theorem skipWithin_list (around : List Bracket) {lead cs : List Char} (blank : IsBlanks lead)
    (first : ∃ c tail, dropBlanks cs = c :: tail ∧ c ≠ ']') :
    skipWithin around (lead ++ '[' :: cs) = skipWithin (.list :: around) cs := by
  obtain ⟨c, tail, first, notCloser⟩ := first
  rw [skipWithin_step, dropBlanks_append blank, dropBlanks_cons rfl]
  simp only [first]

/-- An object that does not close at once goes on with its first member. -/
theorem skipWithin_object (around : List Bracket) {lead cs : List Char} (blank : IsBlanks lead)
    (first : ∃ tail, dropBlanks cs = '"' :: tail) :
    skipWithin around (lead ++ '\x7b' :: cs) = skipMember around cs := by
  obtain ⟨tail, first⟩ := first
  rw [skipWithin_step, dropBlanks_append blank, dropBlanks_cons rfl]
  simp only [first]
  rfl

/-- After a value, the closing bracket closes its list or object. -/
theorem skipAfter_closer (bracket : Bracket) (outer : List Bracket) {gap : List Char}
    (blank : IsBlanks gap) (rest : List Char) :
    skipAfter (bracket :: outer) (gap ++ bracket.closer :: rest) = skipAfter outer rest := by
  rw [skipAfter_step, dropBlanks_append blank]
  cases bracket <;> rfl

/-- After an element, a comma leads to the next one. -/
theorem skipAfter_comma_list (outer : List Bracket) {gap : List Char} (blank : IsBlanks gap)
    (rest : List Char) :
    skipAfter (.list :: outer) (gap ++ ',' :: rest) = skipWithin (.list :: outer) rest := by
  rw [skipAfter_step, dropBlanks_append blank]
  rfl

/-- After a member, a comma leads to the next one. -/
theorem skipAfter_comma_object (outer : List Bracket) {gap : List Char} (blank : IsBlanks gap)
    (rest : List Char) :
    skipAfter (.object :: outer) (gap ++ ',' :: rest) = skipMember outer rest := by
  rw [skipAfter_step, dropBlanks_append blank]
  rfl

/-- What a number starts with is no blank and no bracket. -/
theorem not_blank_of_number {c : Char} (start : c = '-' ∨ c.isDigit = true) :
    isBlank c = false ∧ c ≠ '[' ∧ c ≠ '\x7b' ∧ c ≠ ']' := by
  refine ⟨?_, ?_, ?_, ?_⟩
  · rw [Bool.eq_false_iff]
    intro blank
    simp only [isBlank, Bool.or_eq_true, beq_iff_eq] at blank
    rcases start with rfl | digit
    · simp at blank
    · rcases blank with ((rfl | rfl) | rfl) | rfl <;> cases digit
  all_goals
    rintro rfl
    rcases start with start | start <;> cases start

/-- A value starts with a character that is neither a blank nor a closing bracket. -/
theorem Derives.exists_cons {text : List Char} (derives : Derives .value text) :
    ∃ c tail, text = c :: tail ∧ isBlank c = false ∧ c ≠ ']' := by
  cases derives with
  | word member =>
    simp only [List.mem_cons, List.not_mem_nil, or_false] at member
    rcases member with rfl | rfl | rfl <;> exact ⟨_, _, rfl, rfl, by decide⟩
  | string | emptyList | list | emptyObject | object =>
    exact ⟨_, _, rfl, rfl, by decide⟩
  | number spelled =>
    obtain ⟨c, tail, same, start⟩ := spelled.exists_cons
    have first := not_blank_of_number start
    exact ⟨c, tail, same, first.1, first.2.2.2⟩

/-- Elements start with a value, and so not with a closing bracket. -/
theorem Derives.dropBlanks_elements {body : List Char} (derives : Derives .elements body)
    (rest : List Char) : ∃ c tail, dropBlanks (body ++ rest) = c :: tail ∧ c ≠ ']' := by
  cases derives with
  | lastElement blank value | element blank value =>
    obtain ⟨c, tail, rfl, notBlank, notCloser⟩ := value.exists_cons
    simp only [List.append_assoc, List.cons_append, dropBlanks_append blank,
      dropBlanks_cons notBlank]
    exact ⟨c, _, rfl, notCloser⟩

/-- Members start with a key. -/
theorem Derives.dropBlanks_members {body : List Char} (derives : Derives .members body)
    (rest : List Char) : ∃ tail, dropBlanks (body ++ rest) = '"' :: tail := by
  cases derives with
  | lastMember blank | member blank =>
    simp only [List.append_assoc, List.cons_append, dropBlanks_append blank]
    exact ⟨_, rfl⟩

/-- A phrase is passed over wherever it stands, and what is between the brackets around it
comes next. -/
def Skips : Phrase → List Char → Prop
  | .value, text => ∀ around {lead rest}, IsBlanks lead → EndsToken rest →
      skipWithin around (lead ++ (text ++ rest)) = skipAfter around rest
  | .elements, text => ∀ around rest,
      skipWithin (.list :: around) (text ++ ']' :: rest) = skipAfter around rest
  | .members, text => ∀ around rest,
      skipMember around (text ++ '\x7d' :: rest) = skipAfter around rest

/-- A member's key and colon are passed over up to its value. -/
theorem skipMember_key (around : List Bracket) {before key gap : List Char} {pieces : List Piece}
    (blankBefore : IsBlanks before) (spelled : SpellsPieces key pieces) (blankGap : IsBlanks gap)
    (rest : List Char) :
    skipMember around (before ++ '"' :: (key ++ '"' :: (gap ++ ':' :: rest))) =
      skipWithin (.object :: around) rest := by
  rw [skipMember_step, dropBlanks_append blankBefore, dropBlanks_cons rfl]
  simp only [skipString_append spelled, dropBlanks_append blankGap]
  rfl

/-- Every phrase of the grammar is passed over. The induction is on the derivation, and the
brackets around the phrase and the text after it vary with each step. -/
theorem Derives.skips {phrase : Phrase} {text : List Char} (derives : Derives phrase text) :
    Skips phrase text := by
  induction derives with
  | word member =>
    intro around lead rest blank ends
    simp only [List.mem_cons, List.not_mem_nil, or_false] at member
    rcases member with rfl | rfl | rfl
    all_goals
      exact skipWithin_atom around blank rfl (by decide) (by decide) (readWord_append _ rest)
  | string spelled =>
    intro around lead rest blank ends
    rw [List.cons_append, List.append_assoc]
    exact skipWithin_atom around blank rfl (by decide) (by decide) (skipString_append spelled rest)
  | number spelled =>
    intro around lead rest blank ends
    have skipped := skipNumber_append spelled ends
    obtain ⟨c, tail, rfl, start⟩ := spelled.exists_cons
    obtain ⟨notBlank, notList, notObject, _⟩ := not_blank_of_number start
    rw [List.cons_append]
    refine skipWithin_atom around blank notBlank notList notObject ?_
    rw [skipAtom_number start]
    exact skipped
  | emptyList blankGap =>
    intro around lead rest blank ends
    rw [List.cons_append, List.append_assoc]
    exact skipWithin_empty .list around blank blankGap rest
  | list elements ih =>
    intro around lead rest blank ends
    rw [List.cons_append, List.append_assoc,
      skipWithin_list around blank (elements.dropBlanks_elements _)]
    exact ih around rest
  | emptyObject blankGap =>
    intro around lead rest blank ends
    rw [List.cons_append, List.append_assoc]
    exact skipWithin_empty .object around blank blankGap rest
  | object members ih =>
    intro around lead rest blank ends
    rw [List.cons_append, List.append_assoc,
      skipWithin_object around blank (members.dropBlanks_members _)]
    exact ih around rest
  | lastElement blankBefore _ blankAfter ih =>
    intro around rest
    have ends : EndsToken (']' :: rest) := .cons (.inr (.inl rfl))
    simp only [List.append_assoc]
    rw [ih (.list :: around) blankBefore (ends.append blankAfter)]
    exact skipAfter_closer .list around blankAfter rest
  | @element before value after more blankBefore _ blankAfter _ ih ihMore =>
    intro around rest
    have ends : EndsToken (',' :: (more ++ ']' :: rest)) := .cons (.inl rfl)
    simp only [List.append_assoc, List.cons_append]
    rw [ih (.list :: around) blankBefore (ends.append blankAfter),
      skipAfter_comma_list around blankAfter]
    exact ihMore around rest
  | lastMember blankBefore spelled blankGap blankLead _ blankAfter ih =>
    intro around rest
    have ends : EndsToken ('\x7d' :: rest) := .cons (.inr (.inr rfl))
    simp only [List.append_assoc, List.cons_append]
    rw [skipMember_key around blankBefore spelled blankGap,
      ih (.object :: around) blankLead (ends.append blankAfter)]
    exact skipAfter_closer .object around blankAfter rest
  | @member before key gap lead value after more pieces blankBefore spelled blankGap blankLead _
      blankAfter _ ih ihMore =>
    intro around rest
    have ends : EndsToken (',' :: (more ++ '\x7d' :: rest)) := .cons (.inl rfl)
    simp only [List.append_assoc, List.cons_append]
    rw [skipMember_key around blankBefore spelled blankGap,
      ih (.object :: around) blankLead (ends.append blankAfter),
      skipAfter_comma_object around blankAfter]
    exact ihMore around rest

/-- A value is passed over up to what follows it. -/
theorem skipValue_append {lead value rest : List Char} (blank : IsBlanks lead)
    (derives : Derives .value value) (ends : EndsToken rest) :
    skipValue (lead ++ (value ++ rest)) = .ok rest := by
  rw [skipValue, derives.skips [] blank ends, skipAfter_nil]

/-- What follows a value until the brackets around it are closed: each is closed at once, or
after more of what it holds. -/
inductive Closes : List Bracket → List Char → List Char → Prop
  | done {rest : List Char} : Closes [] rest rest
  | closer (bracket : Bracket) {outer : List Bracket} {gap left rest : List Char}
      (blank : IsBlanks gap) (closes : Closes outer left rest) :
      Closes (bracket :: outer) (gap ++ bracket.closer :: left) rest
  | elements {outer : List Bracket} {gap body left rest : List Char} (blank : IsBlanks gap)
      (derives : Derives .elements body) (closes : Closes outer left rest) :
      Closes (.list :: outer) (gap ++ ',' :: (body ++ ']' :: left)) rest
  | members {outer : List Bracket} {gap body left rest : List Char} (blank : IsBlanks gap)
      (derives : Derives .members body) (closes : Closes outer left rest) :
      Closes (.object :: outer) (gap ++ ',' :: (body ++ '\x7d' :: left)) rest

def ValueCloses (around : List Bracket) (cs rest : List Char) : Prop :=
  ∃ lead value after, cs = lead ++ (value ++ after) ∧ IsBlanks lead ∧ Derives .value value ∧
    Closes around after rest

def BodyCloses (phrase : Phrase) (bracket : Bracket) (around : List Bracket)
    (cs rest : List Char) : Prop :=
  ∃ body left, cs = body ++ bracket.closer :: left ∧ Derives phrase body ∧
    Closes around left rest

/-- An empty list or object is a value. -/
theorem ValueCloses.of_empty (bracket : Bracket) {around : List Bracket}
    {lead gap after rest : List Char} (blank : IsBlanks lead) (blankGap : IsBlanks gap)
    (closes : Closes around after rest) :
    ValueCloses around (lead ++ bracket.opener :: (gap ++ bracket.closer :: after)) rest := by
  refine ⟨lead, bracket.opener :: (gap ++ [bracket.closer]), after, by simp, blank, ?_, closes⟩
  cases bracket with
  | list => exact .emptyList blankGap
  | object => exact .emptyObject blankGap

/-- What a bracket holds up to its closing makes a value with the bracket. -/
theorem BodyCloses.value {bracket : Bracket} {around : List Bracket}
    {lead cs rest : List Char} (body : BodyCloses bracket.phrase bracket around cs rest)
    (blank : IsBlanks lead) : ValueCloses around (lead ++ bracket.opener :: cs) rest := by
  obtain ⟨inner, left, rfl, derives, closes⟩ := body
  refine ⟨lead, bracket.opener :: (inner ++ [bracket.closer]), left, by simp, blank, ?_, closes⟩
  cases bracket with
  | list => exact .list derives
  | object => exact .object derives

/-- A value inside a list begins elements of the list. -/
theorem ValueCloses.elements {outer : List Bracket} {cs rest : List Char}
    (value : ValueCloses (.list :: outer) cs rest) :
    BodyCloses .elements .list outer cs rest := by
  obtain ⟨lead, value, after, rfl, blank, derives, closes⟩ := value
  cases closes with
  | @closer _ _ gap left _ blankGap closes =>
    exact ⟨lead ++ (value ++ gap), left, by simp, .lastElement blank derives blankGap, closes⟩
  | @elements _ gap body left _ blankGap more closes =>
    exact ⟨lead ++ (value ++ (gap ++ ',' :: body)), left, by simp [Bracket.closer],
      .element blank derives blankGap more, closes⟩

/-- A value inside an object completes a member whose key and colon come before it. -/
theorem ValueCloses.members {outer : List Bracket} {before key gap cs rest : List Char}
    {pieces : List Piece} (blankBefore : IsBlanks before) (spelled : SpellsPieces key pieces)
    (blankGap : IsBlanks gap) (value : ValueCloses (.object :: outer) cs rest) :
    BodyCloses .members .object outer (before ++ '"' :: (key ++ '"' :: (gap ++ ':' :: cs)))
      rest := by
  obtain ⟨lead, value, after, rfl, blank, derives, closes⟩ := value
  cases closes with
  | @closer _ _ last left _ blankLast closes =>
    exact ⟨_, left, by simp,
      .lastMember blankBefore spelled blankGap blank derives blankLast, closes⟩
  | @members _ last body left _ blankLast more closes =>
    exact ⟨_, left, by simp [Bracket.closer],
      .member blankBefore spelled blankGap blank derives blankLast more, closes⟩

/-- What the three loops have seen when they succeed on a text. -/
structure SkipsOnly (cs : List Char) : Prop where
  within : ∀ {around rest}, skipWithin around cs = .ok rest → ValueCloses around cs rest
  member : ∀ {around rest}, skipMember around cs = .ok rest →
    BodyCloses .members .object around cs rest
  after : ∀ {around rest}, skipAfter around cs = .ok rest → Closes around cs rest

/-- An atom that is passed over is a value. -/
theorem derives_of_skipAtom {cs rest : List Char} (skipped : skipAtom cs = .ok rest) :
    ∃ value, cs = value ++ rest ∧ Derives .value value := by
  unfold skipAtom at skipped
  split at skipped
  · rw [eq_append_of_readWord skipped]
    exact ⟨"null".toList, rfl, .word (by simp)⟩
  · rw [eq_append_of_readWord skipped]
    exact ⟨"true".toList, rfl, .word (by simp)⟩
  · rw [eq_append_of_readWord skipped]
    exact ⟨"false".toList, rfl, .word (by simp)⟩
  · obtain ⟨spelling, rfl, spelled⟩ := exists_spelling skipped
    exact ⟨_, by simp, .string spelled⟩
  · split at skipped
    · obtain ⟨text, literal, split, spelled⟩ := exists_literal_of_skipNumber skipped
      exact ⟨text, split, .number spelled⟩
    · cases skipped
  · cases skipped

section

variable {cs : List Char} (shorter : ∀ ds : List Char, ds.length < cs.length → SkipsOnly ds)

include shorter

theorem valueCloses_of_skipWithin {around : List Bracket} {rest : List Char}
    (skipped : skipWithin around cs = .ok rest) : ValueCloses around cs rest := by
  obtain ⟨lead, blank, whole⟩ := exists_blanks cs
  have bound := dropBlanks_length_le cs
  rw [skipWithin_step] at skipped
  split at skipped
  · cases skipped
  · rename_i inner start
    have less := length_lt_of_dropBlanks start
    rw [whole, start]
    split at skipped
    · cases skipped
    · rename_i after first
      obtain ⟨gap, blankGap, same⟩ := exists_blanks inner
      have less' := length_lt_of_dropBlanks first
      rw [same, first]
      exact .of_empty .list blank blankGap ((shorter after (by omega)).after skipped)
    · have value := (shorter inner less).within skipped
      exact BodyCloses.value value.elements blank
  · rename_i inner start
    have less := length_lt_of_dropBlanks start
    rw [whole, start]
    split at skipped
    · cases skipped
    · rename_i after first
      obtain ⟨gap, blankGap, same⟩ := exists_blanks inner
      have less' := length_lt_of_dropBlanks first
      rw [same, first]
      exact .of_empty .object blank blankGap ((shorter after (by omega)).after skipped)
    · have members := (shorter inner less).member skipped
      exact BodyCloses.value members blank
  · rename_i c tail _ _ start
    split at skipped
    · rename_i after atom
      obtain ⟨value, same, derives⟩ := derives_of_skipAtom atom
      have less := skipAtom_length_lt atom
      rw [start] at bound
      refine ⟨lead, value, after, ?_, blank, derives, (shorter after (by omega)).after skipped⟩
      rw [whole, start, same]
    · cases skipped

theorem bodyCloses_of_skipMember {around : List Bracket} {rest : List Char}
    (skipped : skipMember around cs = .ok rest) :
    BodyCloses .members .object around cs rest := by
  obtain ⟨before, blankBefore, start⟩ := exists_blanks cs
  rw [skipMember_step] at skipped
  split at skipped
  · cases skipped
  · rename_i inner first
    have less := length_lt_of_dropBlanks first
    split at skipped
    · cases skipped
    · rename_i afterKey key
      have less' := skipString_length_lt key
      obtain ⟨spelling, sameKey, spelled⟩ := exists_spelling key
      obtain ⟨gap, blankGap, start'⟩ := exists_blanks afterKey
      split at skipped
      · cases skipped
      · rename_i value colon
        have less'' := length_lt_of_dropBlanks colon
        have closes := (shorter value (by omega)).within skipped
        rw [start, first, sameKey, start', colon]
        exact closes.members blankBefore spelled blankGap
      · cases skipped
  · cases skipped

theorem closes_of_skipAfter {around : List Bracket} {rest : List Char}
    (skipped : skipAfter around cs = .ok rest) : Closes around cs rest := by
  cases around with
  | nil =>
    rw [skipAfter_nil] at skipped
    cases skipped
    exact .done
  | cons bracket outer =>
    obtain ⟨gap, blank, whole⟩ := exists_blanks cs
    rw [skipAfter_step] at skipped
    split at skipped
    · cases skipped
    · rename_i c inner start
      have less := length_lt_of_dropBlanks start
      rw [whole, start]
      split at skipped
      · rename_i comma
        subst comma
        cases bracket with
        | list =>
          obtain ⟨body, left, rfl, derives, closes⟩ :=
            ((shorter inner less).within skipped).elements
          exact .elements blank derives closes
        | object =>
          obtain ⟨body, left, rfl, derives, closes⟩ := (shorter inner less).member skipped
          exact .members blank derives closes
      · split at skipped
        · rename_i closer
          subst closer
          exact .closer bracket blank ((shorter inner less).after skipped)
        · cases skipped

end

/-- Whatever is passed over has a value in front. The induction is on the length of the text,
since each of the loops goes on with the others on a shorter one. -/
theorem skipsOnly (cs : List Char) : SkipsOnly cs := by
  induction length : cs.length using Nat.strongRecOn generalizing cs with
  | ind n ih =>
    have shorter : ∀ ds : List Char, ds.length < cs.length → SkipsOnly ds :=
      fun ds less => ih ds.length (length ▸ less) ds rfl
    exact ⟨valueCloses_of_skipWithin shorter, bodyCloses_of_skipMember shorter,
      closes_of_skipAfter shorter⟩

theorem exists_value_of_skipValue {cs rest : List Char} (skipped : skipValue cs = .ok rest) :
    ∃ lead value, cs = lead ++ (value ++ rest) ∧ IsBlanks lead ∧ Derives .value value := by
  obtain ⟨lead, value, after, split, blank, derives, closes⟩ := (skipsOnly cs).within skipped
  cases closes
  exact ⟨lead, value, split, blank, derives⟩

end WorkerSettings.Json
