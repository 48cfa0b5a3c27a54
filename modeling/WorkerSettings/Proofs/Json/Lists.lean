import WorkerSettings.Proofs.Json.Accepted

/-!
# Records as lists

A record may also be written without its keys, as a list of its values in the order of the
fields. `HoldsInOrder` says what the elements of a list give the fields: each field takes the
element at its place, and only fields that may be absent may be left off, at the end. The loop
over elements asks for exactly that, and for the closing bracket behind the last field.
-/

namespace WorkerSettings.Json

inductive SpellsElement : List Char → List Char → Prop
  | mk {before value after : List Char} (blankBefore : IsBlanks before)
      (derives : Derives .value value) (blankAfter : IsBlanks after) :
      SpellsElement (before ++ (value ++ after)) value

inductive SpellsElements : List Char → List (List Char) → Prop
  | last {text value : List Char} (spelled : SpellsElement text value) :
      SpellsElements text [value]
  | cons {text rest value : List Char} {values : List (List Char)}
      (spelled : SpellsElement text value) (more : SpellsElements rest values) :
      SpellsElements (text ++ ',' :: rest) (value :: values)

/-- What stands between the brackets of a list. -/
inductive SpellsItems : List Char → List (List Char) → Prop
  | empty {gap : List Char} (blank : IsBlanks gap) : SpellsItems gap []
  | elements {text : List Char} {values : List (List Char)} (spelled : SpellsElements text values) :
      SpellsItems text values

/-- A text that holds one list and blanks, and the values of its elements in order. -/
def SpellsList (text : List Char) (values : List (List Char)) : Prop :=
  ∃ before body after, IsBlanks before ∧ SpellsItems body values ∧ IsBlanks after ∧
    text = before ++ '[' :: (body ++ ']' :: after)

/-- The texts are the values of the fields in order. A field that may be absent may be left off
if all fields after it are. -/
def HoldsInOrder : (fields : List Field) → List (List Char) → Tuple fields → Prop
  | [], texts, _ => texts = []
  | field :: fields, [], (value, values) =>
    field.absent? = some value ∧ HoldsInOrder fields [] values
  | field :: fields, text :: texts, (value, values) =>
    field.Spells text value ∧ HoldsInOrder fields texts values

theorem HoldsInOrder.length_le {fields : List Field} {texts : List (List Char)}
    {values : Tuple fields} (holds : HoldsInOrder fields texts values) :
    texts.length ≤ fields.length := by
  induction fields generalizing texts with
  | nil =>
    obtain rfl : texts = [] := holds
    exact Nat.le_refl _
  | cons field fields ih =>
    obtain ⟨value, values⟩ := values
    cases texts with
    | nil => exact Nat.zero_le _
    | cons text texts => exact Nat.succ_le_succ (ih holds.2)

/-- The elements reach up to every field that needs one. -/
theorem HoldsInOrder.lt_length {fields : List Field} {texts : List (List Char)}
    {values : Tuple fields} (holds : HoldsInOrder fields texts values) {index : Nat}
    {field : Field} (found : fields[index]? = some field) (needed : field.absent? = none) :
    index < texts.length := by
  induction fields generalizing texts index with
  | nil => simp at found
  | cons first fields ih =>
    obtain ⟨value, values⟩ := values
    cases texts with
    | nil =>
      obtain ⟨absent, holds⟩ := holds
      cases index with
      | zero =>
        obtain rfl : first = field := by simpa using found
        rw [needed] at absent
        cases absent
      | succ index =>
        have short := ih holds (by simpa using found)
        cases short
    | cons text texts =>
      cases index with
      | zero => exact Nat.succ_pos _
      | succ index => exact Nat.succ_lt_succ (ih holds.2 (by simpa using found))

/-- What is left of a list before its closing bracket: no element, or elements, which follow a
comma unless they are the first. -/
inductive Remaining : Bool → List Char → List (List Char) → Prop
  | none {first : Bool} {gap : List Char} (blank : IsBlanks gap) : Remaining first gap []
  | first {text : List Char} {values : List (List Char)} (spelled : SpellsElements text values) :
      Remaining true text values
  | later {gap text : List Char} {values : List (List Char)} (blank : IsBlanks gap)
      (spelled : SpellsElements text values) : Remaining false (gap ++ ',' :: text) values

theorem SpellsItems.remaining {body : List Char} {values : List (List Char)}
    (spelled : SpellsItems body values) : Remaining true body values := by
  cases spelled with
  | empty blank => exact .none blank
  | elements spelled => exact .first spelled

/-- Elements start with a value, and the others follow it. -/
theorem SpellsElements.exists_first {text : List Char} {values : List (List Char)}
    (spelled : SpellsElements text values) :
    ∃ before value after others, IsBlanks before ∧ Derives .value value ∧
      Remaining false after others ∧ text = before ++ (value ++ after) ∧
      values = value :: others := by
  cases spelled with
  | last spelled =>
    obtain ⟨blankBefore, derives, blankAfter⟩ := spelled
    exact ⟨_, _, _, [], blankBefore, derives, .none blankAfter, rfl, rfl⟩
  | cons spelled more =>
    obtain ⟨blankBefore, derives, blankAfter⟩ := spelled
    refine ⟨_, _, _, _, blankBefore, derives, .later blankAfter more, ?_, rfl⟩
    simp only [List.append_assoc]

/-- What is left after a value ends the value. -/
theorem Remaining.endsToken {after : List Char} {values : List (List Char)}
    (remaining : Remaining false after values) (left : List Char) :
    EndsToken (after ++ ']' :: left) := by
  cases remaining with
  | none blank => exact .append blank (.cons (.inr (.inl rfl)))
  | later blank spelled =>
    rw [List.append_assoc, List.cons_append]
    exact .append blank (.cons (.inl rfl))

theorem nextElement_closer {first : Bool} {cs rest : List Char}
    (start : dropBlanks cs = ']' :: rest) : nextElement first cs = .ok none := by
  simp only [nextElement, start]

theorem nextElement_comma {cs rest : List Char} (start : dropBlanks cs = ',' :: rest) :
    nextElement false cs = .ok (some rest) := by
  simp [nextElement, start]

theorem nextElement_first {cs rest : List Char} {c : Char} (start : dropBlanks cs = c :: rest)
    (other : c ≠ ']') : nextElement true cs = .ok (some (c :: rest)) := by
  simp only [nextElement, start, if_true]

/-- The next element starts where a value is to be read, and others may be left behind it. -/
theorem Remaining.exists_next {first : Bool} {text value : List Char}
    {values : List (List Char)} (remaining : Remaining first text (value :: values))
    (left : List Char) :
    ∃ before after, IsBlanks before ∧ Derives .value value ∧ Remaining false after values ∧
      nextElement first (text ++ ']' :: left) =
        .ok (some (before ++ (value ++ (after ++ ']' :: left)))) := by
  cases remaining with
  | first spelled =>
    obtain ⟨before, _, after, _, blank, derives, others, rfl, same⟩ := spelled.exists_first
    cases same
    obtain ⟨c, tail, rfl, notBlank, notCloser⟩ := derives.exists_cons
    refine ⟨[], after, .nil, derives, others, nextElement_first ?_ notCloser⟩
    simp only [List.append_assoc, dropBlanks_append blank, List.cons_append,
      dropBlanks_cons notBlank]
    rfl
  | later blankGap spelled =>
    obtain ⟨before, _, after, _, blank, derives, others, rfl, same⟩ := spelled.exists_first
    cases same
    refine ⟨before, after, blank, derives, others, nextElement_comma ?_⟩
    simp only [List.append_assoc, dropBlanks_append blankGap, List.cons_append]
    exact dropBlanks_cons rfl _

/-- The list closes where nothing is left of it, and nowhere else. -/
theorem Remaining.closes_iff {first : Bool} {text : List Char} {values : List (List Char)}
    (remaining : Remaining first text values) {left rest : List Char} :
    dropBlanks (text ++ ']' :: left) = ']' :: rest ↔ rest = left ∧ values = [] := by
  cases values with
  | nil =>
    cases remaining with
    | none blank =>
      rw [dropBlanks_append blank, dropBlanks_cons rfl]
      simp [eq_comm]
    | first spelled | later _ spelled => cases spelled
  | cons value values =>
    obtain ⟨before, after, _, _, _, next⟩ := remaining.exists_next left
    simp only [reduceCtorEq, and_false, iff_false]
    intro closed
    rw [nextElement_closer closed] at next
    cases next

/-- The loop over elements comes to the closing bracket behind the last field exactly if the
elements are the values of the fields. -/
theorem readElements_append_iff {fields : List Field}
    (narrow : ∀ field ∈ fields, field.form.width ≤ 64) {record : String} {size index : Nat}
    {first : Bool} {text left rest : List Char} {texts : List (List Char)}
    (remaining : Remaining first text texts) {values : Tuple fields} :
    (∃ closing, readElements record size fields index first (text ++ ']' :: left) =
        .ok (values, closing) ∧ dropBlanks closing = ']' :: rest) ↔
      rest = left ∧ HoldsInOrder fields texts values := by
  induction fields generalizing index first text texts with
  | nil =>
    rw [HoldsInOrder, ← remaining.closes_iff]
    simp [readElements]
  | cons field fields ih =>
    obtain ⟨value, values⟩ := values
    have others := fun other member => narrow other (List.mem_cons_of_mem field member)
    cases texts with
    | nil =>
      have closed : dropBlanks (text ++ ']' :: left) = ']' :: left :=
        remaining.closes_iff.mpr ⟨rfl, rfl⟩
      simp only [readElements, nextElement_closer closed, HoldsInOrder]
      cases absent : field.absent? with
      | none => simp
      | some default =>
        simp only [Reading.map_eq_ok_iff, Prod.mk.injEq, Option.some.injEq]
        constructor
        · rintro ⟨closing, ⟨_, read, rfl, rfl⟩, closes⟩
          obtain ⟨same, holds⟩ := (ih others remaining).mp ⟨closing, read, closes⟩
          exact ⟨same, rfl, holds⟩
        · rintro ⟨same, rfl, holds⟩
          obtain ⟨closing, read, closes⟩ := (ih others remaining).mpr ⟨same, holds⟩
          exact ⟨closing, ⟨_, read, rfl, rfl⟩, closes⟩
    | cons text' texts =>
      obtain ⟨before, after, blank, derives, more, next⟩ := remaining.exists_next left
      have read_iff {v : field.Value} {closing : List Char} :
          field.read (before ++ (text' ++ (after ++ ']' :: left))) = .ok (v, closing) ↔
            closing = after ++ ']' :: left ∧ field.Spells text' v :=
        Field.read_append_iff (narrow field List.mem_cons_self) blank derives (more.endsToken left)
      simp only [readElements, next, HoldsInOrder, Reading.andThen_eq_ok_iff,
        Reading.map_eq_ok_iff, Prod.mk.injEq, read_iff]
      constructor
      · rintro ⟨closing, ⟨_, _, ⟨rfl, spells⟩, _, read, rfl, rfl⟩, closes⟩
        obtain ⟨same, holds⟩ := (ih others more).mp ⟨closing, read, closes⟩
        exact ⟨same, spells, holds⟩
      · rintro ⟨same, spells, holds⟩
        obtain ⟨closing, read, closes⟩ := (ih others more).mpr ⟨same, holds⟩
        exact ⟨closing, ⟨value, _, ⟨rfl, spells⟩, _, read, rfl, rfl⟩, closes⟩

theorem readList_eq_ok_iff {record : String} {fields : List Field} {cs rest : List Char}
    {values : Tuple fields} :
    readList record fields cs = .ok (values, rest) ↔
      ∃ closing, readElements record fields.length fields 0 true cs = .ok (values, closing) ∧
        dropBlanks closing = ']' :: rest := by
  rw [readList, Reading.andThen_eq_ok_iff]
  constructor
  · rintro ⟨values, closing, read, closed⟩
    split at closed
    · cases closed
    · rename_i closes
      cases closed
      exact ⟨closing, read, closes⟩
    · cases closed
  · rintro ⟨closing, read, closes⟩
    refine ⟨values, closing, read, ?_⟩
    simp only [closes]

section

variable {α : Type} {shape : Shape α}

theorem Shape.readValues_list {text inner : List Char} (start : dropBlanks text = '[' :: inner) :
    shape.readValues text = readList shape.describe shape.fields inner := by
  simp only [readValues, start]

/-- A text that is one list is read as the values that its elements are in order. -/
theorem Shape.readsAs_list (readable : Readable shape.fields) {text : List Char}
    {texts : List (List Char)} (list : SpellsList text texts) :
    shape.ReadsAs text (HoldsInOrder shape.fields texts) := by
  obtain ⟨before, body, after, blankBefore, spelled, blankAfter, rfl⟩ := list
  have start : dropBlanks (before ++ '[' :: (body ++ ']' :: after)) =
      '[' :: (body ++ ']' :: after) := by
    rw [dropBlanks_append blankBefore, dropBlanks_cons rfl]
  refine ⟨after, blankAfter, ?_⟩
  intro values rest
  rw [readValues_list start, readList_eq_ok_iff]
  exact readElements_append_iff readable.narrow spelled.remaining

end

end WorkerSettings.Json
