import WorkerSettings.Json.Record
import WorkerSettings.Proofs.Json.Fields

/-!
# Records against the grammar

The loop over members keeps a draft, and what it keeps is `Draft.Takes`: a slot is filled by
the one text that its key has had so far. Taking members one by one and taking them together
are the same, so the draft at the closing bracket holds exactly what the members describe.
-/

namespace WorkerSettings.Json

/-- The texts under its key fill the slot of a field: there is none and the slot stays as it
is, or there is one, it spells the value, and the slot was free. -/
def Field.Fills (field : Field) (slot : Option field.Value) (texts : List (List Char))
    (filled : Option field.Value) : Prop :=
  (texts = [] ∧ filled = slot) ∨
    ∃ text value, texts = [text] ∧ slot = none ∧ field.Spells text value ∧ filled = some value

def Draft.Takes : {fields : List Field} → Draft fields → List Member → Draft fields → Prop
  | [], _, _, _ => True
  | field :: _, (slot, draft), members, (filled, extended) =>
    field.Fills slot (valuesOf members field.key) filled ∧ Takes draft members extended

@[simp] theorem Field.fills_nil_iff {field : Field} {slot filled : Option field.Value} :
    field.Fills slot [] filled ↔ filled = slot := by
  simp [Fills]

/-- One text fills a free slot with what it spells. -/
theorem Field.fills_singleton_iff {field : Field} {slot filled : Option field.Value}
    {text : List Char} :
    field.Fills slot [text] filled ↔
      ∃ value, slot = none ∧ field.Spells text value ∧ filled = some value := by
  simp [Fills]

/-- Texts fill a slot together as they do one after the other: a slot that is filled takes
no other text. -/
theorem Field.fills_append_iff {field : Field} {slot final : Option field.Value}
    {texts more : List (List Char)} :
    field.Fills slot (texts ++ more) final ↔
      ∃ filled, field.Fills slot texts filled ∧ field.Fills filled more final := by
  constructor
  · rintro (⟨none, rfl⟩ | ⟨text, value, one, free, spells, rfl⟩)
    · obtain ⟨rfl, rfl⟩ := List.append_eq_nil_iff.mp none
      exact ⟨_, .inl ⟨rfl, rfl⟩, .inl ⟨rfl, rfl⟩⟩
    · rcases List.append_eq_singleton_iff.mp one with ⟨rfl, rfl⟩ | ⟨rfl, rfl⟩
      · exact ⟨_, .inl ⟨rfl, rfl⟩, .inr ⟨text, value, rfl, free, spells, rfl⟩⟩
      · exact ⟨_, .inr ⟨text, value, rfl, free, spells, rfl⟩, .inl ⟨rfl, rfl⟩⟩
  · rintro ⟨filled, (⟨rfl, rfl⟩ | ⟨text, value, rfl, free, spells, rfl⟩), last⟩
    · exact last
    · rcases last with ⟨rfl, rfl⟩ | ⟨_, _, _, taken, _⟩
      · exact .inr ⟨text, value, rfl, free, spells, rfl⟩
      · cases taken

/-- No members leave a draft as it is. -/
theorem Draft.takes_nil_iff {fields : List Field} {draft extended : Draft fields} :
    draft.Takes [] extended ↔ extended = draft := by
  induction fields with
  | nil => simp [Takes]
  | cons field fields ih =>
    obtain ⟨slot, draft⟩ := draft
    obtain ⟨filled, extended⟩ := extended
    simp [Takes, ih]

/-- Members are taken together as they are taken one after the other. -/
theorem Draft.takes_append_iff {fields : List Field} {draft final : Draft fields}
    {members more : List Member} :
    draft.Takes (members ++ more) final ↔
      ∃ extended, draft.Takes members extended ∧ Takes extended more final := by
  induction fields with
  | nil => simp [Takes]
  | cons field fields ih =>
    obtain ⟨slot, draft⟩ := draft
    obtain ⟨last, final⟩ := final
    simp only [Takes, valuesOf_append, Field.fills_append_iff, ih]
    constructor
    · rintro ⟨⟨filled, fills, fillsMore⟩, extended, takes, takesMore⟩
      exact ⟨(filled, extended), ⟨fills, takes⟩, fillsMore, takesMore⟩
    · rintro ⟨⟨filled, extended⟩, ⟨fills, takes⟩, fillsMore, takesMore⟩
      exact ⟨⟨filled, fills, fillsMore⟩, extended, takes, takesMore⟩

/-- The first member is taken before the others. -/
theorem Draft.takes_cons_iff {fields : List Field} {draft final : Draft fields} {member : Member}
    {members : List Member} :
    draft.Takes (member :: members) final ↔
      ∃ extended, draft.Takes [member] extended ∧ Takes extended members final := by
  rw [← List.singleton_append]
  exact takes_append_iff

/-- A member of another key changes nothing. -/
theorem Draft.takes_other_iff {fields : List Field} {draft extended : Draft fields}
    {key : String} (other : key ∉ fields.map Field.key) (text : List Char) :
    draft.Takes [(key, text)] extended ↔ extended = draft := by
  induction fields with
  | nil => simp [Takes]
  | cons field fields ih =>
    obtain ⟨slot, draft⟩ := draft
    obtain ⟨filled, extended⟩ := extended
    simp only [List.map_cons, List.mem_cons, not_or] at other
    simp [Takes, valuesOf_of_ne other.1, ih other.2]

/-- Fields that the members of an object can be told apart by, and whose counts the reader
of numbers has the bits for. -/
structure Readable (fields : List Field) : Prop where
  distinct : (fields.map Field.key).Nodup
  narrow : ∀ field ∈ fields, field.form.width ≤ 64

theorem Readable.tail {field : Field} {fields : List Field}
    (readable : Readable (field :: fields)) : Readable fields where
  distinct := (List.nodup_cons.mp readable.distinct).2
  narrow other member := readable.narrow other (List.mem_cons_of_mem _ member)

theorem readColon_eq_ok_iff {cs rest : List Char} :
    readColon cs = .ok rest ↔ dropBlanks cs = ':' :: rest := by
  rw [readColon]
  split
  · rename_i ended
    simp [ended]
  · rename_i start
    simp [start]
  · rename_i other start
    rw [start]
    constructor
    · intro read
      cases read
    · intro same
      cases same
      exact (other rfl).elim

theorem readColon_append {gap : List Char} (blank : IsBlanks gap) (rest : List Char) :
    readColon (gap ++ ':' :: rest) = .ok rest := by
  rw [readColon_eq_ok_iff, dropBlanks_append blank, dropBlanks_cons rfl]

/-- Reading a member after its key takes it into the draft and leaves what follows it. -/
theorem Draft.readMember_append_iff {fields : List Field} (readable : Readable fields)
    {draft extended : Draft fields} {key : String} {gap lead value left rest : List Char}
    (blankGap : IsBlanks gap) (blankLead : IsBlanks lead) (derives : Derives .value value)
    (ends : EndsToken left) :
    draft.readMember key (gap ++ ':' :: (lead ++ (value ++ left))) = .ok (extended, rest) ↔
      rest = left ∧ draft.Takes [(key, value)] extended := by
  induction fields with
  | nil =>
    simp only [readMember, readColon_append blankGap, skipValue_append blankLead derives ends]
    constructor
    · intro read
      cases read
      exact ⟨rfl, trivial⟩
    · rintro ⟨rfl, _⟩
      rfl
  | cons field fields ih =>
    obtain ⟨slot, draft⟩ := draft
    obtain ⟨filled, extended⟩ := extended
    have others := (List.nodup_cons.mp readable.distinct).1
    have narrow := readable.narrow field List.mem_cons_self
    have read_iff {v : field.Value} : field.read (lead ++ (value ++ left)) = .ok (v, rest) ↔
        rest = left ∧ field.Spells value v := Field.read_append_iff narrow blankLead derives ends
    by_cases same : key = field.key
    · subst same
      simp only [readMember, if_true, Takes, valuesOf_self, Field.fills_singleton_iff,
        takes_other_iff others, readColon_append blankGap]
      cases slot with
      | some value => simp
      | none =>
        rw [Reading.map_eq_ok_iff]
        constructor
        · rintro ⟨v, read, same⟩
          cases same
          obtain ⟨rfl, spells⟩ := read_iff.mp read
          exact ⟨rfl, ⟨v, rfl, spells, rfl⟩, rfl⟩
        · rintro ⟨rfl, ⟨v, _, spells, rfl⟩, rfl⟩
          exact ⟨v, read_iff.mpr ⟨rfl, spells⟩, rfl⟩
    · simp only [readMember, if_neg same, Reading.map_eq_ok_iff, Takes, valuesOf_of_ne same,
        Field.fills_nil_iff]
      constructor
      · rintro ⟨taken, read, same⟩
        cases same
        obtain ⟨rfl, takes⟩ := (ih readable.tail).mp read
        exact ⟨rfl, rfl, takes⟩
      · rintro ⟨rfl, rfl, takes⟩
        exact ⟨extended, (ih readable.tail).mpr ⟨rfl, takes⟩, rfl⟩

/-- What the loop over members does after a member: it goes on after a comma and stops at the
closing bracket. -/
def afterMember {fields : List Field} (draft : Draft fields) (cs : List Char) :
    Reading (Draft fields) :=
  match dropBlanks cs with
  | [] => .error .truncated
  | ',' :: rest => readMembers draft rest
  | '\x7d' :: rest => .ok (draft, rest)
  | _ :: _ => .error .malformed

theorem readMembers_quote {fields : List Field} (draft : Draft fields) {cs rest : List Char}
    (start : dropBlanks cs = '"' :: rest) :
    readMembers draft cs = (readString rest).andThen fun key afterKey =>
      (draft.readMember key afterKey).andThen afterMember := by
  rw [readMembers_step]
  simp only [start]
  rfl

/-- The loop over members takes the first one into the draft before it looks for another. -/
theorem readMembers_member_iff {fields : List Field} (readable : Readable fields)
    {draft final : Draft fields} {text left rest : List Char} {member : Member}
    (spelled : SpellsMember text member) (ends : EndsToken left) :
    readMembers draft (text ++ left) = .ok (final, rest) ↔
      ∃ extended, draft.Takes [member] extended ∧
        afterMember extended left = .ok (final, rest) := by
  obtain ⟨blankBefore, ⟨spelling, pieces, rfl, spelled, denotes⟩, blankGap, blankLead, derives,
    blankAfter⟩ := spelled
  rename_i before gap lead value after key
  have start : dropBlanks (before ++ ('"' :: spelling ++ ['"'] ++
      (gap ++ ':' :: (lead ++ (value ++ after)))) ++ left) =
      '"' :: (spelling ++ '"' :: (gap ++ ':' :: (lead ++ (value ++ (after ++ left))))) := by
    simp only [List.append_assoc, List.cons_append, List.nil_append]
    rw [dropBlanks_append blankBefore, dropBlanks_cons rfl]
  have name : readString (spelling ++ '"' :: (gap ++ ':' :: (lead ++ (value ++ (after ++ left))))) =
      .ok (key, gap ++ ':' :: (lead ++ (value ++ (after ++ left)))) :=
    (readString_append_iff spelled).mpr ⟨rfl, denotes⟩
  have skipped (extended : Draft fields) :
      afterMember extended (after ++ left) = afterMember extended left := by
    simp only [afterMember, dropBlanks_append blankAfter]
  rw [readMembers_quote draft start, name, Reading.andThen_ok, Reading.andThen_eq_ok_iff]
  constructor
  · rintro ⟨extended, left', read, continued⟩
    obtain ⟨rfl, takes⟩ := (Draft.readMember_append_iff readable blankGap blankLead derives
      (ends.append blankAfter)).mp read
    exact ⟨extended, takes, skipped extended ▸ continued⟩
  · rintro ⟨extended, takes, continued⟩
    refine ⟨extended, after ++ left, ?_, (skipped extended).trans continued⟩
    exact (Draft.readMember_append_iff readable blankGap blankLead derives
      (ends.append blankAfter)).mpr ⟨rfl, takes⟩

/-- The loop over members takes them all, up to the closing bracket. -/
theorem readMembers_append_iff {fields : List Field} (readable : Readable fields)
    {draft final : Draft fields} {text left rest : List Char} {members : List Member}
    (spelled : SpellsMembers text members) :
    readMembers draft (text ++ '\x7d' :: left) = .ok (final, rest) ↔
      rest = left ∧ draft.Takes members final := by
  induction spelled generalizing draft with
  | last spelled =>
    rw [readMembers_member_iff readable spelled (.cons (.inr (.inr rfl)))]
    constructor
    · rintro ⟨extended, takes, closed⟩
      cases closed
      exact ⟨rfl, takes⟩
    · rintro ⟨rfl, takes⟩
      exact ⟨final, takes, rfl⟩
  | @cons text more member members spelled _ ih =>
    have comma (extended : Draft fields) : afterMember extended (',' :: (more ++ '\x7d' :: left)) =
        readMembers extended (more ++ '\x7d' :: left) := rfl
    rw [List.append_assoc, List.cons_append,
      readMembers_member_iff readable spelled (.cons (.inl rfl)), Draft.takes_cons_iff]
    simp only [comma, ih]
    constructor
    · rintro ⟨extended, takes, rfl, takesMore⟩
      exact ⟨rfl, extended, takes, takesMore⟩
    · rintro ⟨rfl, extended, takes, takesMore⟩
      exact ⟨extended, takes, rfl, takesMore⟩

/-- A field has a value once its slot was filled or if it may be absent. -/
theorem Field.fills_none_iff {field : Field} {texts : List (List Char)} {value : field.Value} :
    (∃ filled, field.Fills none texts filled ∧ filled.or field.absent? = some value) ↔
      field.Holds texts value := by
  constructor
  · rintro ⟨filled, (⟨rfl, rfl⟩ | ⟨text, value', rfl, _, spells, rfl⟩), known⟩
    · exact .inl ⟨rfl, known⟩
    · cases known
      exact .inr ⟨text, rfl, spells⟩
  · rintro (⟨rfl, absent⟩ | ⟨text, rfl, spells⟩)
    · exact ⟨none, .inl ⟨rfl, rfl⟩, absent⟩
    · exact ⟨some value, .inr ⟨text, value, rfl, rfl, spells, rfl⟩, rfl⟩

theorem Draft.finish_cons_iff {field : Field} {fields : List Field}
    {filled : Option field.Value} {draft : Draft fields} {value : field.Value}
    {values : Tuple fields} :
    @finish (field :: fields) (filled, draft) = .ok (value, values) ↔
      filled.or field.absent? = some value ∧ draft.finish = .ok values := by
  simp only [finish]
  split
  · rename_i missing
    simp [missing]
  · rename_i found
    rw [found]
    split <;> rename_i finished <;> simp [finished]

/-- The draft that the members of an object leave holds what they describe. -/
theorem Draft.finish_iff {fields : List Field} {members : List Member} {values : Tuple fields} :
    (∃ draft, (Draft.empty fields).Takes members draft ∧ draft.finish = .ok values) ↔
      Holds fields members values := by
  induction fields with
  | nil => simp [Takes, Holds, finish]
  | cons field fields ih =>
    obtain ⟨value, values⟩ := values
    simp only [Holds, ← ih, ← Field.fills_none_iff, empty, Takes]
    constructor
    · rintro ⟨⟨filled, draft⟩, ⟨fills, takes⟩, finished⟩
      obtain ⟨known, finished⟩ := finish_cons_iff.mp finished
      exact ⟨⟨filled, fills, known⟩, draft, takes, finished⟩
    · rintro ⟨⟨filled, fills, known⟩, draft, takes, finished⟩
      exact ⟨(filled, draft), ⟨fills, takes⟩, finish_cons_iff.mpr ⟨known, finished⟩⟩

theorem SpellsMember.dropBlanks_append {text : List Char} {member : Member}
    (spelled : SpellsMember text member) (left : List Char) :
    ∃ tail, dropBlanks (text ++ left) = '"' :: tail := by
  obtain ⟨blankBefore, ⟨spelling, pieces, rfl, _⟩, _⟩ := spelled
  simp only [List.append_assoc, List.cons_append]
  rw [Json.dropBlanks_append blankBefore, dropBlanks_cons rfl]
  exact ⟨_, rfl⟩

theorem SpellsMembers.dropBlanks_append {text : List Char} {members : List Member}
    (spelled : SpellsMembers text members) (left : List Char) :
    ∃ tail, dropBlanks (text ++ left) = '"' :: tail := by
  cases spelled with
  | last spelled => exact spelled.dropBlanks_append left
  | cons spelled _ =>
    rw [List.append_assoc]
    exact spelled.dropBlanks_append _

def readBody (fields : List Field) (cs : List Char) : Reading (Draft fields) :=
  match dropBlanks cs with
  | '\x7d' :: rest => .ok (.empty fields, rest)
  | _ => readMembers (.empty fields) cs

theorem readObject_eq_ok_iff {fields : List Field} {cs rest : List Char}
    {values : Tuple fields} :
    readObject fields cs = .ok (values, rest) ↔
      ∃ draft, readBody fields cs = .ok (draft, rest) ∧ draft.finish = .ok values := by
  constructor
  · intro read
    obtain ⟨draft, left, read, closed⟩ := Reading.andThen_eq_ok_iff.mp read
    cases finished : draft.finish with
    | error mismatch =>
      rw [finished] at closed
      cases closed
    | ok values =>
      rw [finished] at closed
      cases closed
      exact ⟨draft, read, finished⟩
  · rintro ⟨draft, read, finished⟩
    refine Reading.andThen_eq_ok_iff.mpr ⟨draft, rest, read, ?_⟩
    rw [finished]

/-- The members up to the closing bracket are taken, also where there are none. -/
theorem readBody_append_iff {fields : List Field} (readable : Readable fields)
    {body left rest : List Char} {members : List Member} (spelled : SpellsBody body members)
    {draft : Draft fields} :
    readBody fields (body ++ '\x7d' :: left) = .ok (draft, rest) ↔
      rest = left ∧ (Draft.empty fields).Takes members draft := by
  cases spelled with
  | empty blank =>
    rw [readBody, dropBlanks_append blank, dropBlanks_cons rfl, Draft.takes_nil_iff]
    constructor
    · intro read
      cases read
      exact ⟨rfl, rfl⟩
    · rintro ⟨rfl, rfl⟩
      rfl
  | members spelled =>
    obtain ⟨tail, start⟩ := spelled.dropBlanks_append ('\x7d' :: left)
    rw [readBody, start]
    exact readMembers_append_iff readable spelled

/-- Reading an object after its opening bracket gives the values that its members describe. -/
theorem readObject_append_iff {fields : List Field} (readable : Readable fields)
    {body left rest : List Char} {members : List Member} (spelled : SpellsBody body members)
    {values : Tuple fields} :
    readObject fields (body ++ '\x7d' :: left) = .ok (values, rest) ↔
      rest = left ∧ Holds fields members values := by
  rw [readObject_eq_ok_iff, ← Draft.finish_iff]
  constructor
  · rintro ⟨draft, read, finished⟩
    obtain ⟨rfl, takes⟩ := (readBody_append_iff readable spelled).mp read
    exact ⟨rfl, draft, takes, finished⟩
  · rintro ⟨rfl, draft, takes, finished⟩
    exact ⟨draft, (readBody_append_iff readable spelled).mpr ⟨rfl, takes⟩, finished⟩

section

variable {α : Type} {shape : Shape α}

/-- The values of the record at the start of the text, before they are looked at. -/
def Shape.readValues (shape : Shape α) (cs : List Char) : Reading (Tuple shape.fields) :=
  match dropBlanks cs with
  | '\x7b' :: rest => readObject shape.fields rest
  | '[' :: rest => readList shape.describe shape.fields rest
  | cs => .error (rejectValue shape.describe cs)

theorem Shape.readRecord_eq (shape : Shape α) (cs : List Char) :
    shape.readRecord cs = (shape.readValues cs).andThen fun values rest =>
      match shape.ofTuple values with
      | .ok record => .ok (record, rest)
      | .error fault => .error (.mismatch (.refused fault)) :=
  rfl

theorem Shape.readValues_object {text inner : List Char}
    (start : dropBlanks text = '\x7b' :: inner) :
    shape.readValues text = readObject shape.fields inner := by
  simp only [readValues, start]

theorem Shape.readRecord_eq_ok_iff {cs rest : List Char} {record : α} :
    shape.readRecord cs = .ok (record, rest) ↔
      ∃ values, shape.readValues cs = .ok (values, rest) ∧ shape.ofTuple values = .ok record := by
  rw [readRecord_eq, Reading.andThen_eq_ok_iff]
  constructor
  · rintro ⟨values, left, read, checked⟩
    cases made : shape.ofTuple values with
    | error fault =>
      rw [made] at checked
      cases checked
    | ok record =>
      rw [made] at checked
      cases checked
      exact ⟨values, read, made⟩
  · rintro ⟨values, read, made⟩
    refine ⟨values, rest, read, ?_⟩
    rw [made]

/-- A text is read as the record at its start if only blanks follow it. -/
theorem Shape.read_iff_record {text : List Char} {record : α} :
    shape.read text = .ok record ↔
      ∃ after, shape.readRecord text = .ok (record, after) ∧ IsBlanks after := by
  rw [Shape.read]
  cases found : shape.readRecord text with
  | error rejection => simp
  | ok result =>
    obtain ⟨made, after⟩ := result
    cases left : dropBlanks after with
    | nil =>
      simp only [left]
      constructor
      · intro same
        cases same
        exact ⟨after, rfl, dropBlanks_eq_nil_iff.mp left⟩
      · rintro ⟨_, same, _⟩
        cases same
        rfl
    | cons c rest =>
      simp only [left]
      constructor
      · intro same
        cases same
      · rintro ⟨_, same, blank⟩
        cases same
        cases left.symm.trans (dropBlanks_eq_nil_iff.mpr blank)

/-- A record is read from values that make it, and only blanks may follow them. -/
theorem Shape.read_iff_values {text : List Char} {record : α} :
    shape.read text = .ok record ↔
      ∃ values after, shape.readValues text = .ok (values, after) ∧
        shape.ofTuple values = .ok record ∧ IsBlanks after := by
  rw [read_iff_record]
  simp only [readRecord_eq_ok_iff]
  constructor
  · rintro ⟨after, ⟨values, read, made⟩, blank⟩
    exact ⟨values, after, read, made, blank⟩
  · rintro ⟨values, after, read, made, blank⟩
    exact ⟨after, ⟨values, read, made⟩, blank⟩

/-- A text that starts like an object is read as one, and only blanks may follow it. -/
theorem Shape.read_eq_ok_iff {text inner : List Char}
    (start : dropBlanks text = '\x7b' :: inner) {record : α} :
    shape.read text = .ok record ↔
      ∃ values after, readObject shape.fields inner = .ok (values, after) ∧
        shape.ofTuple values = .ok record ∧ IsBlanks after := by
  rw [read_iff_values, readValues_object start]

/-- The text is read as the values that are described, up to blanks. -/
def Shape.ReadsAs (shape : Shape α) (text : List Char) (described : Tuple shape.fields → Prop) :
    Prop :=
  ∃ after, IsBlanks after ∧ ∀ {values rest}, shape.readValues text = .ok (values, rest) ↔
    rest = after ∧ described values

theorem Shape.ReadsAs.read_iff {text : List Char} {described : Tuple shape.fields → Prop}
    (reads : shape.ReadsAs text described) {record : α} :
    shape.read text = .ok record ↔
      ∃ values, described values ∧ shape.ofTuple values = .ok record := by
  obtain ⟨after, blank, values_iff⟩ := reads
  rw [read_iff_values]
  constructor
  · rintro ⟨values, rest, read, made, _⟩
    exact ⟨values, (values_iff.mp read).2, made⟩
  · rintro ⟨values, holds, made⟩
    exact ⟨values, after, values_iff.mpr ⟨rfl, holds⟩, made, blank⟩

/-- Where a text is read as values, only these decide about it. -/
theorem Shape.ReadsAs.read_eq {text : List Char} {described : Tuple shape.fields → Prop}
    (reads : shape.ReadsAs text described) {values : Tuple shape.fields}
    (holds : described values) :
    shape.read text = (shape.ofTuple values).mapError fun fault => .mismatch (.refused fault) := by
  cases made : shape.ofTuple values with
  | ok record => exact reads.read_iff.mpr ⟨values, holds, made⟩
  | error fault =>
    obtain ⟨after, _, values_iff⟩ := reads
    simp only [Shape.read, readRecord_eq, values_iff.mpr ⟨rfl, holds⟩, Reading.andThen_ok, made]
    rfl

/-- A text that is one object is read as the values that its members describe. -/
theorem Shape.readsAs_object (readable : Readable shape.fields) {text : List Char}
    {members : List Member} (object : SpellsObject text members) :
    shape.ReadsAs text (Holds shape.fields members) := by
  obtain ⟨before, body, after, blankBefore, spelled, blankAfter, rfl⟩ := object
  have start : dropBlanks (before ++ '\x7b' :: (body ++ '\x7d' :: after)) =
      '\x7b' :: (body ++ '\x7d' :: after) := by
    rw [dropBlanks_append blankBefore, dropBlanks_cons rfl]
  refine ⟨after, blankAfter, ?_⟩
  intro values rest
  rw [readValues_object start]
  exact readObject_append_iff readable spelled

/-- Where a text is one object, the record is made of the values that its members describe. -/
theorem Shape.read_object_iff (readable : Readable shape.fields) {text : List Char}
    {members : List Member} (object : SpellsObject text members) {record : α} :
    shape.read text = .ok record ↔
      ∃ values, Holds shape.fields members values ∧ shape.ofTuple values = .ok record :=
  (readsAs_object readable object).read_iff

/-- Values that make no record are refused as soon as the object that holds them is read. -/
theorem Shape.read_object_refused (readable : Readable shape.fields) {text : List Char}
    {members : List Member} (object : SpellsObject text members) {values : Tuple shape.fields}
    (holds : Holds shape.fields members values) {fault : Fault}
    (refused : shape.ofTuple values = .error fault) :
    shape.read text = .error (.mismatch (.refused fault)) := by
  rw [(readsAs_object readable object).read_eq holds, refused]
  rfl

end

end WorkerSettings.Json
