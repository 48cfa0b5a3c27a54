import WorkerSettings.Proofs.Json.Records

/-!
# Texts that a record is read from

The other direction of the grammar: whatever the reader of records accepts and starts with
the bracket of an object is an object of the grammar, unknown members included. Each reader
is followed along the text that it takes, up to what it leaves.
-/

namespace WorkerSettings.Json

/-- From one text to the other, blanks and a value are taken. -/
def TakesValue (cs rest : List Char) : Prop :=
  ∃ lead value, IsBlanks lead ∧ Derives .value value ∧ cs = lead ++ (value ++ rest)

/-- Blanks may be passed over before a value is taken. -/
theorem TakesValue.of_dropBlanks {cs value rest : List Char} (derives : Derives .value value)
    (taken : dropBlanks cs = value ++ rest) : TakesValue cs rest := by
  obtain ⟨lead, blank, split⟩ := exists_blanks cs
  rw [taken] at split
  exact ⟨lead, value, blank, derives, split⟩

theorem exists_value_of_readText {cs rest : List Char} {s : String}
    (read : readText cs = .ok (s, rest)) : ∃ value, Derives .value value ∧ cs = value ++ rest := by
  unfold readText at read
  split at read
  · obtain ⟨spelling, pieces, rfl, spelled, _⟩ := exists_string_of_readString read
    exact ⟨_, .string spelled, by simp⟩
  · cases read

theorem exists_value_of_readCount {width : Nat} {cs rest : List Char} {count : BitVec width}
    (read : readCount width cs = .ok (count, rest)) :
    ∃ value, Derives .value value ∧ cs = value ++ rest := by
  obtain ⟨literal, readLiteral, _⟩ := readCount_eq_ok_iff.mp read
  obtain ⟨text, split, spelled⟩ := Literal.exists_literal readLiteral
  exact ⟨text, .number spelled, split⟩

theorem Form.takesValue {form : Form} {cs rest : List Char} {v : form.Value}
    (read : form.read cs = .ok (v, rest)) : TakesValue cs rest := by
  cases form with
  | text =>
    obtain ⟨value, derives, split⟩ := exists_value_of_readText read
    exact .of_dropBlanks derives split
  | count width =>
    obtain ⟨value, derives, split⟩ := exists_value_of_readCount read
    exact .of_dropBlanks derives split

theorem Field.takesValue {field : Field} {cs rest : List Char} {v : field.Value}
    (read : field.read cs = .ok (v, rest)) : TakesValue cs rest := by
  cases field with
  | required key form => exact form.takesValue read
  | optional key form =>
    simp only [Field.read] at read
    split at read
    · rename_i start
      split at read
      · rename_i word
        cases read
        rw [eq_append_of_readWord word] at start
        exact .of_dropBlanks (.word (List.mem_cons_self)) start
      · cases read
    · obtain ⟨v, read, _⟩ := Reading.map_eq_ok_iff.mp read
      exact form.takesValue read

theorem exists_gap_of_readColon {cs rest : List Char} (read : readColon cs = .ok rest) :
    ∃ gap, IsBlanks gap ∧ cs = gap ++ ':' :: rest := by
  obtain ⟨gap, blank, split⟩ := exists_blanks cs
  rw [readColon_eq_ok_iff.mp read] at split
  exact ⟨gap, blank, split⟩

/-- After a key, a colon and a value are taken, whether the key is known or not. -/
theorem Draft.exists_colon {fields : List Field} {draft extended : Draft fields} {key : String}
    {cs rest : List Char} (read : draft.readMember key cs = .ok (extended, rest)) :
    ∃ gap afterColon, IsBlanks gap ∧ cs = gap ++ ':' :: afterColon ∧
      TakesValue afterColon rest := by
  induction fields with
  | nil =>
    rw [readMember] at read
    split at read
    · cases read
    · rename_i afterColon colon
      obtain ⟨gap, blank, split⟩ := exists_gap_of_readColon colon
      split at read
      · cases read
      · rename_i skipped
        cases read
        obtain ⟨lead, value, took, blankLead, derives⟩ := exists_value_of_skipValue skipped
        exact ⟨gap, afterColon, blank, split, lead, value, blankLead, derives, took⟩
  | cons field fields ih =>
    obtain ⟨slot, draft⟩ := draft
    unfold readMember at read
    split at read
    · split at read
      · cases read
      · split at read
        · cases read
        · rename_i afterColon colon
          obtain ⟨gap, blank, split⟩ := exists_gap_of_readColon colon
          obtain ⟨v, read, _⟩ := Reading.map_eq_ok_iff.mp read
          exact ⟨gap, afterColon, blank, split, field.takesValue read⟩
    · obtain ⟨extended, read, _⟩ := Reading.map_eq_ok_iff.mp read
      exact ih read

/-- A turn of the loop over members takes a member, with the blanks that follow it. -/
theorem exists_member_of_read {fields : List Field} {draft extended : Draft fields} {key : String}
    {cs afterQuote afterKey left : List Char} (start : dropBlanks cs = '"' :: afterQuote)
    (name : readString afterQuote = .ok (key, afterKey))
    (read : draft.readMember key afterKey = .ok (extended, left)) :
    ∃ text member, SpellsMember text member ∧ cs = text ++ dropBlanks left := by
  obtain ⟨before, blankBefore, split⟩ := exists_blanks cs
  obtain ⟨spelling, pieces, rfl, spelled, denotes⟩ := exists_string_of_readString name
  obtain ⟨gap, afterColon, blankGap, rfl, lead, value, blankLead, derives, rfl⟩ :=
    Draft.exists_colon read
  obtain ⟨after, blankAfter, splitAfter⟩ := exists_blanks left
  have keyText : SpellsString ('"' :: spelling ++ ['"']) key :=
    ⟨spelling, pieces, rfl, spelled, denotes⟩
  refine ⟨_, _, .mk blankBefore keyText blankGap blankLead derives blankAfter, ?_⟩
  rw [split, start]
  generalize dropBlanks left = rest at splitAfter
  subst splitAfter
  simp only [List.append_assoc, List.cons_append, List.nil_append]

/-- The loop over members takes members and the closing bracket. -/
theorem exists_members_of_readMembers {fields : List Field} {draft final : Draft fields}
    {cs rest : List Char} (read : readMembers draft cs = .ok (final, rest)) :
    ∃ text members, SpellsMembers text members ∧ cs = text ++ '\x7d' :: rest := by
  fun_induction readMembers draft cs with
  | case1 | case2 | case3 | case4 | case7 | case8 => cases read
  | case5 draft cs afterQuote start key afterKey name extended left member tail next ih =>
    obtain ⟨text, first, spelled, split⟩ := exists_member_of_read start name member
    obtain ⟨more, members, spelledMore, rfl⟩ := ih read
    refine ⟨text ++ ',' :: more, first :: members, .cons spelled spelledMore, ?_⟩
    rw [split, next, List.append_assoc, List.cons_append]
  | case6 draft cs afterQuote start key afterKey name extended left member tail next =>
    cases read
    obtain ⟨text, first, spelled, split⟩ := exists_member_of_read start name member
    exact ⟨text, [first], .last spelled, next ▸ split⟩

theorem exists_body_of_readBody {fields : List Field} {cs rest : List Char}
    {draft : Draft fields} (read : readBody fields cs = .ok (draft, rest)) :
    ∃ body members, SpellsBody body members ∧ cs = body ++ '\x7d' :: rest := by
  unfold readBody at read
  split at read
  · rename_i start
    cases read
    obtain ⟨gap, blank, split⟩ := exists_blanks cs
    exact ⟨gap, [], .empty blank, start ▸ split⟩
  · obtain ⟨text, members, spelled, split⟩ := exists_members_of_readMembers read
    exact ⟨text, members, .members spelled, split⟩

theorem exists_body_of_readObject {fields : List Field} {cs rest : List Char}
    {values : Tuple fields} (read : readObject fields cs = .ok (values, rest)) :
    ∃ body members, SpellsBody body members ∧ cs = body ++ '\x7d' :: rest := by
  obtain ⟨draft, read, _⟩ := readObject_eq_ok_iff.mp read
  exact exists_body_of_readBody read

/-- A text that a record is read from and that starts like an object is one object. -/
theorem Shape.exists_object {α : Type} {shape : Shape α} {text inner : List Char} {record : α}
    (read : shape.read text = .ok record) (start : dropBlanks text = '\x7b' :: inner) :
    ∃ members, SpellsObject text members := by
  obtain ⟨values, after, readObject, _, blankAfter⟩ := (read_eq_ok_iff start).mp read
  obtain ⟨body, members, spelled, rfl⟩ := exists_body_of_readObject readObject
  obtain ⟨before, blankBefore, whole⟩ := exists_blanks text
  rw [start] at whole
  exact ⟨members, before, body, after, blankBefore, spelled, blankAfter, whole⟩

end WorkerSettings.Json
