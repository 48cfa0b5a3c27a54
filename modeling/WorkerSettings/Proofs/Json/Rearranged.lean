import Mathlib.Data.List.Forall2
import WorkerSettings.Proofs.Json.Records

/-!
# Objects that say the same

What an object says of a record is a matter of the members with known keys: not of their
order, of how a string is spelled, or of any other member. Two objects are related here if
the known members of one, put in another order, mean what those of the other mean one by
one; then they describe the same values.
-/

namespace WorkerSettings.Json

/-- Two texts of a value are one text, or spell one string. -/
inductive SameValue : List Char → List Char → Prop
  | refl (text : List Char) : SameValue text text
  | spelling {text text' : List Char} {s : String} (spells : SpellsString text s)
      (spells' : SpellsString text' s) : SameValue text text'

def SameMember (member member' : Member) : Prop :=
  member.1 = member'.1 ∧ SameValue member.2 member'.2

/-- The members of the keys are those of the other list in another order, but for the way
in which strings are spelled. -/
def Rearranged (keys : List String) (members members' : List Member) : Prop :=
  ∃ ordered, (members.filter (·.1 ∈ keys)).Perm ordered ∧
    List.Forall₂ SameMember ordered (members'.filter (·.1 ∈ keys))

theorem SpellsString.unique {text : List Char} {s s' : String} (spells : SpellsString text s)
    (spells' : SpellsString text s') : s' = s := by
  obtain ⟨spelling, pieces, rfl, spelled, denotes⟩ := spells
  have denotes' := (spellsString_iff spelled).mp spells'
  have read : readString (spelling ++ '"' :: []) = .ok (s, []) :=
    (readString_append_iff spelled).mpr ⟨rfl, denotes⟩
  have read' : readString (spelling ++ '"' :: []) = .ok (s', []) :=
    (readString_append_iff spelled).mpr ⟨rfl, denotes'⟩
  cases read.symm.trans read'
  rfl

theorem SpellsString.not_isDigits {text : List Char} {s : String} (spells : SpellsString text s) :
    ¬ IsDigits text := by
  obtain ⟨spelling, pieces, rfl, _⟩ := spells
  intro isDigits
  cases isDigits.2 '"' List.mem_cons_self

theorem SpellsString.ne_null {text : List Char} {s : String} (spells : SpellsString text s) :
    text ≠ "null".toList := by
  rintro rfl
  cases spells.head

theorem SameValue.symm {text text' : List Char} (same : SameValue text text') :
    SameValue text' text := by
  cases same with
  | refl => exact .refl text
  | spelling spells spells' => exact .spelling spells' spells

/-- What means the same spells the same values. -/
theorem Form.Spells.of_same {form : Form} {text text' : List Char} {v : form.Value}
    (spells : form.Spells text v) (same : SameValue text text') : form.Spells text' v := by
  cases same with
  | refl => exact spells
  | spelling string string' =>
    cases form with
    | text => exact SpellsString.unique string spells ▸ string'
    | count width => exact (string.not_isDigits spells.1).elim

theorem Field.Spells.of_same {field : Field} {text text' : List Char} {v : field.Value}
    (spells : field.Spells text v) (same : SameValue text text') : field.Spells text' v := by
  cases field with
  | required key form => exact Form.Spells.of_same spells same
  | optional key form =>
    cases v with
    | some v => exact Form.Spells.of_same spells same
    | none =>
      cases same with
      | refl => exact spells
      | spelling string _ => exact (string.ne_null spells).elim

theorem valuesOf_filter {keys : List String} {key : String} (known : key ∈ keys)
    (members : List Member) :
    valuesOf (members.filter (·.1 ∈ keys)) key = valuesOf members key := by
  rw [valuesOf]
  rw [List.filter_filter]
  congr 2
  funext member
  by_cases same : member.1 = key <;> simp [same, known]

theorem valuesOf_forall₂ {members members' : List Member}
    (same : List.Forall₂ SameMember members members') (key : String) :
    List.Forall₂ SameValue (valuesOf members key) (valuesOf members' key) := by
  induction same with
  | nil => exact .nil
  | @cons member member' members members' same _ ih =>
    obtain ⟨name, text⟩ := member
    obtain ⟨name', text'⟩ := member'
    obtain ⟨rfl, sameValue⟩ := same
    rw [← List.singleton_append, ← List.singleton_append (l := members'), valuesOf_append,
      valuesOf_append]
    by_cases found : name = key
    · subst found
      rw [valuesOf_self, valuesOf_self]
      exact .cons sameValue ih
    · rw [valuesOf_of_ne found, valuesOf_of_ne found]
      exact ih

theorem Rearranged.valuesOf {keys : List String} {members members' : List Member}
    (rearranged : Rearranged keys members members') {key : String} (known : key ∈ keys) :
    ∃ texts, (valuesOf members key).Perm texts ∧
      List.Forall₂ SameValue texts (valuesOf members' key) := by
  obtain ⟨ordered, perm, same⟩ := rearranged
  refine ⟨Json.valuesOf ordered key, ?_, ?_⟩
  · rw [← valuesOf_filter known]
    exact (perm.filter _).map _
  · rw [← valuesOf_filter known members']
    exact valuesOf_forall₂ same key

/-- A field that has no value or one may be given it in any spelling. -/
theorem Field.holds_iff_of_same {field : Field} {texts ordered texts' : List (List Char)}
    (perm : texts.Perm ordered) (same : List.Forall₂ SameValue ordered texts')
    {v : field.Value} : field.Holds texts v ↔ field.Holds texts' v := by
  constructor
  · rintro (⟨rfl, absent⟩ | ⟨text, rfl, spells⟩)
    · obtain rfl := List.nil_perm.mp perm
      cases same
      exact .inl ⟨rfl, absent⟩
    · obtain rfl := List.singleton_perm.mp perm
      obtain _ | ⟨sameValue, _ | _⟩ := same
      exact .inr ⟨_, rfl, spells.of_same sameValue⟩
  · rintro (⟨rfl, absent⟩ | ⟨text, rfl, spells⟩)
    · cases same
      obtain rfl := List.perm_nil.mp perm
      exact .inl ⟨rfl, absent⟩
    · obtain _ | ⟨sameValue, _ | _⟩ := same
      obtain rfl := List.perm_singleton.mp perm
      exact .inr ⟨_, rfl, spells.of_same sameValue.symm⟩

/-- Rearranged members describe the same values. -/
theorem holds_iff_of_rearranged {fields : List Field} {members members' : List Member}
    (rearranged : Rearranged (fields.map Field.key) members members') {values : Tuple fields} :
    Holds fields members values ↔ Holds fields members' values := by
  have each {field : Field} (mem : field ∈ fields) {v : field.Value} :
      field.Holds (valuesOf members field.key) v ↔ field.Holds (valuesOf members' field.key) v := by
    obtain ⟨texts, perm, same⟩ := rearranged.valuesOf (List.mem_map_of_mem mem)
    exact Field.holds_iff_of_same perm same
  clear rearranged
  induction fields with
  | nil => exact Iff.rfl
  | cons field fields ih =>
    obtain ⟨v, values⟩ := values
    exact and_congr (each List.mem_cons_self) (ih fun mem => each (List.mem_cons_of_mem _ mem))

end WorkerSettings.Json
