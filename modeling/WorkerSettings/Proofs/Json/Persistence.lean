import WorkerSettings.Proofs.Json.Skipping

/-!
# What more text changes

Texts are read from left to right, and what a reader has found in a text it finds as well when
more text follows. The exception is a text that ends in the open, behind a token that more text
carries on: a number is read differently when more digits follow it. `Persistent` states both
for one reader and one text, and it passes through the ways of putting readers together. No
reader is the exception at a text that ends with a closing bracket, since no number does.
-/

namespace WorkerSettings.Json

/-- The text is rejected for what it is and not for what it holds. -/
def Rejection.IsLexical (rejection : Rejection) : Prop :=
  rejection = .truncated ∨ rejection = .malformed

theorem Rejection.not_isLexical_mismatch (cause : Mismatch) :
    ¬ (Rejection.mismatch cause).IsLexical := by
  rintro (same | same) <;> cases same

def Reading.Lexical {α : Type} (reading : Reading α) : Prop :=
  ∀ ⦃rejection⦄, reading = .error rejection → rejection.IsLexical

namespace Reading.Lexical

variable {α β : Type}

theorem truncated : Lexical (.error .truncated : Reading α) := by
  intro rejection same
  cases same
  exact .inl rfl

theorem malformed : Lexical (.error .malformed : Reading α) := by
  intro rejection same
  cases same
  exact .inr rfl

theorem ok (value : α) (rest : List Char) : Lexical (.ok (value, rest)) := by
  intro rejection same
  cases same

theorem map {reading : Reading α} (lexical : reading.Lexical) (f : α → β) :
    (reading.map f).Lexical := by
  intro rejection same
  match reading, lexical, same with
  | .error _, lexical, same =>
    cases same
    exact lexical rfl

theorem andThen {reading : Reading α} {next : α → List Char → Reading β}
    (lexical : reading.Lexical) (step : ∀ value rest, (next value rest).Lexical) :
    (reading.andThen next).Lexical := by
  intro rejection same
  match reading, lexical, same with
  | .ok (value, rest), _, same => exact step value rest same
  | .error _, lexical, same =>
    cases same
    exact lexical rfl

theorem not_mismatch {reading : Reading α} (lexical : reading.Lexical) (cause : Mismatch) :
    reading ≠ .error (.mismatch cause) :=
  fun same => Rejection.not_isLexical_mismatch cause (lexical same)

end Reading.Lexical

/-- The text ends with a character that is no closing bracket. -/
def EndsOpen (cs : List Char) : Prop :=
  ∃ c, cs.getLast? = some c ∧ c ≠ ']' ∧ c ≠ '\x7d'

theorem EndsOpen.of_suffix {cs rest : List Char} (suffix : rest <:+ cs) (ends : EndsOpen rest) :
    EndsOpen cs := by
  obtain ⟨before, rfl⟩ := suffix
  obtain ⟨c, last, other⟩ := ends
  exact ⟨c, by simp [List.getLast?_append, last], other⟩

theorem not_endsOpen_concat {cs : List Char} {c : Char} (closer : c = ']' ∨ c = '\x7d') :
    ¬ EndsOpen (cs ++ [c]) := by
  rintro ⟨last, same, notList, notObject⟩
  rw [List.getLast?_concat, Option.some.injEq] at same
  subst same
  rcases closer with rfl | rfl
  · exact notList rfl
  · exact notObject rfl

/-- What is read from the text is read as well when more text follows it. Only a text that ends
in the open and is read to its end may be read as something else with more text, and a mismatch
there does not turn into a value. -/
structure Persistent {α : Type} (read : List Char → Reading α) (cs : List Char) : Prop where
  ok : ∀ {value rest}, read cs = .ok (value, rest) → rest <:+ cs ∧
    ((∀ more, read (cs ++ more) = .ok (value, rest ++ more)) ∨ EndsOpen cs ∧ rest = [])
  mismatch : ∀ {cause}, read cs = .error (.mismatch cause) →
    (∀ more, read (cs ++ more) = .error (.mismatch cause)) ∨
      EndsOpen cs ∧ ∀ more result, read (cs ++ more) ≠ .ok result

/-- At the end of the text the reader finds nothing wrong with a value, and leaves none of it. -/
def Idle {α : Type} (read : List Char → Reading α) : Prop :=
  (read []).Lexical ∧ ∀ {value rest}, read [] = .ok (value, rest) → rest = []

namespace Idle

variable {α β : Type} {read : List Char → Reading α}

theorem of_lexical {rejection : Rejection} (lexical : rejection.IsLexical)
    (rejected : read [] = .error rejection) : Idle read := by
  refine ⟨fun other same => ?_, fun found => ?_⟩
  · cases rejected.symm.trans same
    exact lexical
  · cases rejected.symm.trans found

theorem of_truncated (truncated : read [] = .error .truncated) : Idle read :=
  of_lexical (.inl rfl) truncated

theorem of_ok {value : α} (ended : read [] = .ok (value, [])) : Idle read := by
  refine ⟨ended ▸ .ok value [], fun found => ?_⟩
  cases ended.symm.trans found
  rfl

theorem map (idle : Idle read) (f : α → β) : Idle fun cs => (read cs).map f := by
  refine ⟨idle.1.map f, fun found => ?_⟩
  obtain ⟨first, here, _⟩ := Reading.map_eq_ok_iff.mp found
  exact idle.2 here

end Idle

namespace Persistent

variable {α β : Type} {read : List Char → Reading α} {cs : List Char}

theorem of_lexical {rejection : Rejection} (lexical : rejection.IsLexical)
    (rejected : read cs = .error rejection) : Persistent read cs where
  ok same := by cases rejected.symm.trans same
  mismatch same := by
    cases rejected.symm.trans same
    exact (Rejection.not_isLexical_mismatch _ lexical).elim

theorem of_ok (value : α) {rest : List Char} (suffix : rest <:+ cs)
    (same : ∀ more, read (cs ++ more) = .ok (value, rest ++ more)) : Persistent read cs := by
  have here := same []
  rw [List.append_nil, List.append_nil] at here
  constructor
  · intro value' rest' found
    cases here.symm.trans found
    exact ⟨suffix, .inl same⟩
  · intro cause found
    cases here.symm.trans found

theorem of_mismatch (cause : Mismatch)
    (same : ∀ more, read (cs ++ more) = .error (.mismatch cause)) : Persistent read cs := by
  have here := same []
  rw [List.append_nil] at here
  constructor
  · intro value rest found
    cases here.symm.trans found
  · intro cause' found
    cases here.symm.trans found
    exact .inl same

/-- A reader that finds no mismatch has to keep what it reads. -/
theorem of_reading (lexical : (read cs).Lexical)
    (keeps : ∀ {value rest}, read cs = .ok (value, rest) → rest <:+ cs ∧
      ((∀ more, read (cs ++ more) = .ok (value, rest ++ more)) ∨ EndsOpen cs ∧ rest = [])) :
    Persistent read cs where
  ok := keeps
  mismatch found := (lexical.not_mismatch _ found).elim

/-- What the reader leaves to another one persists as it does there. -/
theorem of_suffix {step : List Char → Reading α} {rest : List Char}
    (persistent : Persistent step rest) (suffix : rest <:+ cs)
    (same : ∀ more, read (cs ++ more) = step (rest ++ more)) : Persistent read cs := by
  have here := same []
  rw [List.append_nil, List.append_nil] at here
  constructor
  · intro value left found
    obtain ⟨leaves, persists⟩ := persistent.ok (here.symm.trans found)
    refine ⟨leaves.trans suffix, ?_⟩
    rcases persists with persists | ⟨ends, rfl⟩
    · exact .inl fun more => (same more).trans (persists more)
    · exact .inr ⟨ends.of_suffix suffix, rfl⟩
  · intro cause found
    rcases persistent.mismatch (here.symm.trans found) with persists | ⟨ends, never⟩
    · exact .inl fun more => (same more).trans (persists more)
    · exact .inr ⟨ends.of_suffix suffix, fun more result => same more ▸ never more result⟩

theorem map (persistent : Persistent read cs) (f : α → β) :
    Persistent (fun cs => (read cs).map f) cs := by
  constructor
  · intro value rest found
    obtain ⟨first, here, rfl⟩ := Reading.map_eq_ok_iff.mp found
    obtain ⟨suffix, persists⟩ := persistent.ok here
    refine ⟨suffix, persists.imp_left fun persists more => ?_⟩
    rw [persists more, Reading.map_ok]
  · intro cause found
    have failed : read cs = .error (.mismatch cause) := by
      cases here : read cs with
      | ok result =>
        rw [here] at found
        cases found
      | error rejection =>
        rw [here] at found
        cases found
        rfl
    rcases persistent.mismatch failed with persists | ⟨ends, never⟩
    · refine .inl fun more => ?_
      rw [persists more, Reading.map_error]
    · refine .inr ⟨ends, fun more result read => ?_⟩
      obtain ⟨first, read, _⟩ := Reading.map_eq_ok_iff.mp read
      exact never more _ read

/-- A text that ends with a closing bracket decides what is read. -/
theorem ok_of_closed (persistent : Persistent read cs) {value : α} {rest : List Char}
    (found : read cs = .ok (value, rest)) (closed : rest = [] → ¬ EndsOpen cs)
    (more : List Char) : read (cs ++ more) = .ok (value, rest ++ more) := by
  obtain ⟨_, persists | ⟨ends, nothing⟩⟩ := persistent.ok found
  · exact persists more
  · exact (closed nothing ends).elim

theorem mismatch_of_closed (persistent : Persistent read cs) {cause : Mismatch}
    (found : read cs = .error (.mismatch cause)) (closed : ¬ EndsOpen cs) (more : List Char) :
    read (cs ++ more) = .error (.mismatch cause) := by
  rcases persistent.mismatch found with persists | ⟨ends, _⟩
  · exact persists more
  · exact (closed ends).elim

/-- Two readers after one another. If the first has come to the end of a text that ends in the
open, what the second would find there is not final either. -/
theorem andThen {step : α → List Char → Reading β} (first : Persistent read cs)
    (next : ∀ {value rest}, read cs = .ok (value, rest) → (rest = [] → ¬ EndsOpen cs) →
      Persistent (step value) rest)
    (last : ∀ {value}, read cs = .ok (value, []) → EndsOpen cs → Idle (step value)) :
    Persistent (fun cs => (read cs).andThen step) cs := by
  cases here : read cs with
  | error rejection =>
    cases rejection with
    | truncated =>
      refine of_lexical (.inl rfl) ?_
      rw [here, Reading.andThen_error]
    | malformed =>
      refine of_lexical (.inr rfl) ?_
      rw [here, Reading.andThen_error]
    | mismatch cause =>
      rcases first.mismatch here with persists | ⟨ends, never⟩
      · refine of_mismatch cause fun more => ?_
        rw [persists more, Reading.andThen_error]
      · constructor
        · intro value rest found
          rw [here] at found
          cases found
        · intro _ _
          refine .inr ⟨ends, fun more result read => ?_⟩
          obtain ⟨value, left, read, _⟩ := Reading.andThen_eq_ok_iff.mp read
          exact never more _ read
  | ok result =>
    obtain ⟨value, rest⟩ := result
    obtain ⟨suffix, persists⟩ := first.ok here
    -- Only here may more text belong to the first reader, so that `next` would say nothing.
    by_cases ended : rest = [] ∧ EndsOpen cs
    · obtain ⟨rfl, ends⟩ := ended
      obtain ⟨lexical, leaves⟩ := last here ends
      constructor
      · intro final left found
        rw [here, Reading.andThen_ok] at found
        cases leaves found
        exact ⟨List.nil_suffix, .inr ⟨ends, rfl⟩⟩
      · intro cause found
        rw [here, Reading.andThen_ok] at found
        exact (lexical.not_mismatch cause found).elim
    · have closed (nothing : rest = []) : ¬ EndsOpen cs := fun ends => ended ⟨nothing, ends⟩
      refine of_suffix (next here closed) suffix fun more => ?_
      rw [first.ok_of_closed here closed more, Reading.andThen_ok]

end Persistent

theorem dropBlanks_append_of_cons {cs rest : List Char} {c : Char}
    (start : dropBlanks cs = c :: rest) (more : List Char) :
    dropBlanks (cs ++ more) = c :: (rest ++ more) := by
  rw [dropBlanks] at start ⊢
  simp only [List.dropWhile_append, start, List.isEmpty_cons, Bool.false_eq_true, if_false,
    List.cons_append]

theorem dropBlanks_suffix (cs : List Char) : dropBlanks cs <:+ cs :=
  List.dropWhile_suffix isBlank

theorem suffix_of_dropBlanks {cs rest : List Char} {c : Char}
    (start : dropBlanks cs = c :: rest) : rest <:+ cs :=
  (List.suffix_cons c rest).trans (start ▸ dropBlanks_suffix cs)

/-- A reader may pass over blanks first. -/
theorem Persistent.dropBlanks {α : Type} {read : List Char → Reading α} {cs : List Char}
    (ended : read [] = .error .truncated) (persistent : Persistent read (dropBlanks cs)) :
    Persistent (fun cs => read (dropBlanks cs)) cs := by
  cases start : Json.dropBlanks cs with
  | nil =>
    refine of_lexical (.inl rfl) ?_
    rw [start, ended]
  | cons c rest =>
    refine persistent.of_suffix (dropBlanks_suffix cs) fun more => ?_
    rw [dropBlanks_append_of_cons start, start, List.cons_append]

def Reading.ofRest : Except Rejection (List Char) → Reading Unit
  | .ok rest => .ok ((), rest)
  | .error rejection => .error rejection

@[simp] theorem Reading.ofRest_ok (rest : List Char) : ofRest (.ok rest) = .ok ((), rest) := rfl

@[simp] theorem Reading.ofRest_error (rejection : Rejection) :
    ofRest (.error rejection) = .error rejection := rfl

theorem Reading.ofRest_eq_ok_iff {reading : Except Rejection (List Char)} {value : Unit}
    {rest : List Char} : ofRest reading = .ok (value, rest) ↔ reading = .ok rest := by
  cases reading <;> simp

theorem readWord_append_of_ok {word cs rest : List Char} (read : readWord word cs = .ok rest)
    (more : List Char) : readWord word (cs ++ more) = .ok (rest ++ more) := by
  rw [eq_append_of_readWord read, List.append_assoc, readWord_append]

theorem isLexical_of_readWord {word cs : List Char} {rejection : Rejection}
    (failed : readWord word cs = .error rejection) : rejection.IsLexical := by
  fun_induction readWord word cs with
  | case1 => cases failed
  | case2 =>
    cases failed
    exact .inl rfl
  | case3 _ _ _ ih => exact ih failed
  | case4 =>
    cases failed
    exact .inr rfl

/-- Passing over something persists if what is passed over does not depend on what follows. -/
theorem Persistent.of_rest {skip : List Char → Except Rejection (List Char)} {cs : List Char}
    (lexical : ∀ {rejection}, skip cs = .error rejection → rejection.IsLexical)
    (keeps : ∀ {rest}, skip cs = .ok rest →
      rest <:+ cs ∧ ∀ more, skip (cs ++ more) = .ok (rest ++ more)) :
    Persistent (fun cs => .ofRest (skip cs)) cs := by
  cases skipped : skip cs with
  | error rejection =>
    refine of_lexical (lexical skipped) ?_
    rw [skipped, Reading.ofRest_error]
  | ok rest =>
    obtain ⟨suffix, same⟩ := keeps skipped
    refine of_ok () suffix fun more => ?_
    rw [same more, Reading.ofRest_ok]

theorem persistent_readWord (word cs : List Char) :
    Persistent (fun cs => .ofRest (readWord word cs)) cs := by
  refine .of_rest isLexical_of_readWord fun {rest} read => ?_
  refine ⟨?_, readWord_append_of_ok read⟩
  rw [eq_append_of_readWord read]
  exact List.suffix_append word rest

theorem isLexical_of_scan {cs : List Char} {rejection : Rejection}
    (failed : (scan cs).ending = .error rejection) : rejection.IsLexical := by
  fun_induction scan cs with
  | case1 | case3 | case6 =>
    cases failed
    exact .inl rfl
  | case2 => cases failed
  | case4 _ _ _ _ _ _ _ ih => exact ih failed
  | case5 | case7 | case9 | case10 =>
    cases failed
    exact .inr rfl
  | case8 _ _ _ _ _ _ ih => exact ih failed
  | case11 _ _ _ _ _ _ _ _ ih => exact ih failed

theorem lexical_join {ending : Except Rejection (List Char)}
    (lexical : ∀ rejection, ending = .error rejection → rejection.IsLexical)
    (pieces : List Piece) : (join ending pieces).Lexical := by
  fun_induction join ending pieces with
  | case1 =>
    cases ending with
    | ok rest => exact .ok _ _
    | error rejection =>
      intro _ same
      cases same
      exact lexical rejection rfl
  | case2 _ _ ih => exact ih.map _
  | case3 | case5 | case6 => exact .malformed
  | case4 _ _ _ _ _ _ ih => exact ih.map _
  | case7 =>
    cases ending with
    | ok rest => exact .malformed
    | error rejection =>
      intro _ same
      cases same
      exact lexical rejection rfl
  | case8 _ _ _ _ ih => exact ih.map _

theorem lexical_readString (cs : List Char) : (readString cs).Lexical :=
  (lexical_join (fun _ => isLexical_of_scan) _).map _

theorem readString_append {cs rest : List Char} {s : String}
    (read : readString cs = .ok (s, rest)) (more : List Char) :
    readString (cs ++ more) = .ok (s, rest ++ more) := by
  obtain ⟨spelling, pieces, rfl, spelled, denotes⟩ := exists_string_of_readString read
  rw [List.append_assoc, List.cons_append, readString_append_iff spelled]
  exact ⟨rfl, denotes⟩

theorem suffix_of_readString {cs rest : List Char} {s : String}
    (read : readString cs = .ok (s, rest)) : rest <:+ cs := by
  obtain ⟨spelling, _, rfl, _⟩ := exists_string_of_readString read
  exact (List.suffix_cons _ _).trans (List.suffix_append _ _)

end WorkerSettings.Json
