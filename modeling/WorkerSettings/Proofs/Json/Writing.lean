import WorkerSettings.Json.Layout
import WorkerSettings.Proofs.Json.Records

/-!
# Reading what was written

A written record is an object of the grammar, whatever blanks its layout has, and its
members describe the values that were written. Reading it therefore gives the record back
as soon as its values make a record again. Nothing is said here about a particular record
or layout.
-/

namespace WorkerSettings.Json

theorem Form.spells_write (form : Form) (v : form.Value) : form.Spells (form.write v) v := by
  cases form with
  | text => exact spellsString_quote v
  | count width => exact ⟨(isWhole_digits _).1, Numeral.value_digits _⟩

theorem Form.derives_write (form : Form) (v : form.Value) : Derives .value (form.write v) := by
  cases form with
  | text =>
    obtain ⟨spelling, pieces, same, spelled, _⟩ := spellsString_quote v
    rw [write, same]
    exact .string spelled
  | count width => exact .number (spellsLiteral_digits _)

/-- A field that is written has its value spelled out, and only an absent value is left
out. -/
theorem Field.holds_write (field : Field) (v : field.Value) :
    field.Holds (field.write? v).toList v := by
  cases field with
  | required key form => exact .inr ⟨_, rfl, form.spells_write v⟩
  | optional key form =>
    cases v with
    | none => exact .inl ⟨rfl, rfl⟩
    | some v => exact .inr ⟨_, rfl, form.spells_write v⟩

theorem Field.derives_write {field : Field} {v : field.Value} {written : List Char}
    (write : field.write? v = some written) : Derives .value written := by
  cases field with
  | required key form =>
    cases write
    exact form.derives_write v
  | optional key form =>
    obtain ⟨v, rfl, rfl⟩ := Option.map_eq_some_iff.mp write
    exact form.derives_write v

theorem members_cons (field : Field) (fields : List Field) (v : field.Value)
    (values : Tuple fields) :
    members (field :: fields) (v, values) =
      (field.write? v).toList.map (field.key, ·) ++ members fields values := by
  rw [members]
  split <;> rename_i written <;> simp [written]

theorem derives_of_mem_members {fields : List Field} {values : Tuple fields} {member : Member}
    (mem : member ∈ members fields values) : Derives .value member.2 := by
  induction fields with
  | nil => cases mem
  | cons field fields ih =>
    obtain ⟨v, values⟩ := values
    rw [members_cons, List.mem_append] at mem
    rcases mem with mem | mem
    · obtain ⟨written, found, rfl⟩ := List.mem_map.mp mem
      exact Field.derives_write (Option.mem_toList.mp found)
    · exact ih mem

theorem key_of_mem_members {fields : List Field} {values : Tuple fields} {member : Member}
    (mem : member ∈ members fields values) : member.1 ∈ fields.map Field.key := by
  induction fields with
  | nil => cases mem
  | cons field fields ih =>
    obtain ⟨v, values⟩ := values
    rw [members_cons, List.mem_append] at mem
    rcases mem with mem | mem
    · obtain ⟨written, _, rfl⟩ := List.mem_map.mp mem
      exact List.mem_cons_self
    · exact List.mem_cons_of_mem _ (ih mem)

theorem valuesOf_eq_nil {members : List Member} {key : String}
    (other : ∀ member ∈ members, member.1 ≠ key) : valuesOf members key = [] := by
  simp only [valuesOf, List.map_eq_nil_iff, List.filter_eq_nil_iff, decide_eq_true_eq]
  exact other

/-- Members of other keys do not matter. -/
theorem Holds.append {fields : List Field} {before members : List Member} {values : Tuple fields}
    (holds : Holds fields members values)
    (other : ∀ member ∈ before, member.1 ∉ fields.map Field.key) :
    Holds fields (before ++ members) values := by
  induction fields with
  | nil => trivial
  | cons field fields ih =>
    obtain ⟨v, values⟩ := values
    have none : valuesOf before field.key = [] :=
      valuesOf_eq_nil fun member mem same => other member mem (same ▸ List.mem_cons_self)
    refine ⟨?_, ih holds.2 fun member mem found => ?_⟩
    · rw [valuesOf_append, none]
      exact holds.1
    · exact other member mem (List.mem_cons_of_mem _ found)

theorem valuesOf_map (key : String) (texts : List (List Char)) :
    valuesOf (texts.map (key, ·)) key = texts := by
  induction texts with
  | nil => rfl
  | cons text texts ih =>
    rw [List.map_cons, ← List.singleton_append, valuesOf_append, ih, valuesOf_self]
    rfl

/-- The members of a written record describe its values. -/
theorem holds_members {fields : List Field} (distinct : (fields.map Field.key).Nodup)
    (values : Tuple fields) : Holds fields (members fields values) values := by
  induction fields with
  | nil => trivial
  | cons field fields ih =>
    obtain ⟨v, values⟩ := values
    obtain ⟨fresh, distinct⟩ := List.nodup_cons.mp distinct
    rw [members_cons]
    constructor
    · have none : valuesOf (members fields values) field.key = [] :=
        valuesOf_eq_nil fun member mem same => fresh (same ▸ key_of_mem_members mem)
      rw [valuesOf_append, valuesOf_map, none, List.append_nil]
      exact field.holds_write v
    · refine (ih distinct values).append fun member mem => ?_
      obtain ⟨written, _, rfl⟩ := List.mem_map.mp mem
      exact fresh

structure Layout.Blank (layout : Layout) : Prop where
  indent : IsBlanks layout.indent
  gap : IsBlanks layout.gap
  outdent : IsBlanks layout.outdent

theorem Layout.Blank.compact : Layout.compact.Blank where
  indent := .nil
  gap := .nil
  outdent := .nil

theorem Layout.Blank.pretty : Layout.pretty.Blank where
  indent := by decide
  gap := by decide
  outdent := by decide

theorem Layout.Blank.spells_member {layout : Layout} (blank : layout.Blank) {after : List Char}
    (blankAfter : IsBlanks after) {member : Member} (derives : Derives .value member.2) :
    SpellsMember (layout.writeMember member.1 member.2 ++ after) member := by
  have spelled := SpellsMember.mk blank.indent (spellsString_quote member.1) .nil blank.gap derives
    blankAfter
  simpa [Layout.writeMember] using spelled

/-- Written members are members of the grammar, and the blanks before the closing bracket
belong to the last one. -/
theorem Layout.Blank.spells_members {layout : Layout} (blank : layout.Blank) (member : Member)
    (members : List Member) (derives : ∀ member' ∈ member :: members, Derives .value member'.2) :
    SpellsMembers (layout.writeMembers (member :: members) ++ layout.outdent)
      (member :: members) := by
  induction members generalizing member with
  | nil => exact .last (blank.spells_member blank.outdent (derives member List.mem_cons_self))
  | cons next members ih =>
    have first := blank.spells_member .nil (derives member List.mem_cons_self)
    have others := ih next fun member' mem => derives member' (List.mem_cons_of_mem _ mem)
    rw [List.append_nil] at first
    rw [Layout.writeMembers, List.append_assoc]
    exact .cons first others

/-- A written object is an object of the grammar. -/
theorem Layout.Blank.spells_object {layout : Layout} (blank : layout.Blank)
    {members : List Member} (derives : ∀ member ∈ members, Derives .value member.2) :
    SpellsObject (layout.writeObject members) members := by
  refine ⟨[], layout.writeMembers members ++ layout.outdent, [], .nil, ?_, .nil, ?_⟩
  · cases members with
    | nil => exact .empty blank.outdent
    | cons member members => exact .members (blank.spells_members member members derives)
  · simp [Layout.writeObject]

theorem SpellsObject.append {text gap : List Char} {members : List Member}
    (object : SpellsObject text members) (blank : IsBlanks gap) :
    SpellsObject (text ++ gap) members := by
  obtain ⟨before, body, after, blankBefore, spelled, blankAfter, rfl⟩ := object
  refine ⟨before, body, after ++ gap, blankBefore, spelled, blankAfter.append blank, ?_⟩
  simp only [List.append_assoc, List.cons_append]

/-- A written record is an object of the grammar. -/
theorem Shape.spells_write {α : Type} (shape : Shape α) {layout : Layout} (blank : layout.Blank)
    (record : α) :
    SpellsObject (shape.write layout record) (members shape.fields (shape.toTuple record)) :=
  blank.spells_object fun _ mem => derives_of_mem_members mem

/-- Reading a written record gives the record back, if its own values make it. Blanks may
follow what was written. -/
theorem Shape.read_write {α : Type} {shape : Shape α} (readable : Readable shape.fields)
    {layout : Layout} (blank : layout.Blank) {gap : List Char} (blankGap : IsBlanks gap)
    {record : α} (remade : shape.ofTuple (shape.toTuple record) = .ok record) :
    shape.read (shape.write layout record ++ gap) = .ok record := by
  have object := (shape.spells_write blank record).append blankGap
  rw [read_object_iff readable object]
  exact ⟨shape.toTuple record, holds_members readable.distinct _, remade⟩

/-- A written record whose own values make no record is refused with their fault. -/
theorem Shape.read_write_refused {α : Type} {shape : Shape α} (readable : Readable shape.fields)
    {layout : Layout} (blank : layout.Blank) {record : α} {fault : Fault}
    (refused : shape.ofTuple (shape.toTuple record) = .error fault) :
    shape.read (shape.write layout record) = .error (.mismatch (.refused fault)) :=
  read_object_refused readable (shape.spells_write blank record)
    (holds_members readable.distinct _) refused

end WorkerSettings.Json
