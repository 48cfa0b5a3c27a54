import Mathlib.Data.List.Forall2
import WorkerSettings.Settings.Render
import WorkerSettings.Proofs.Numeral

/-!
# What a table loses

A table has a line for each setting, and a line feed in a value would break its line. Without
one, the lines are found again in the text, each value is found again on its line, and a value
that is shown tells which value it is: digits are never those of another number, and what stands
for no value starts with a bracket and not with a digit. The one value that is shown like an
absent one is a failure queue of that very name.
-/

namespace WorkerSettings.Settings

def valueColumn : Nat := 16

structure OneLine (settings : Settings) : Prop where
  workerName : '\n' ∉ settings.workerName.toList
  workerVersion : '\n' ∉ settings.workerVersion.toList
  outputQueue : '\n' ∉ settings.outputQueue.toList
  failureQueue : ∀ queue, settings.failureQueue = some queue → '\n' ∉ queue.toList

/-- A line shows a row: its label, spaces up to the column of the values, its value. -/
def ShowsRow (line : List Char) (row : String × String) : Prop :=
  ∃ spaces, row.1.length + spaces = valueColumn ∧
    line = row.1.toList ++ (List.replicate spaces ' ' ++ row.2.toList)

/-- The lines of the table of settings. A limit that is not set is not shown as any number. -/
structure IsTable (settings : Settings) (lines : List (List Char)) : Prop where
  count : lines.length = 7
  unbroken : ∀ line ∈ lines, '\n' ∉ line
  aligned : List.Forall₂ ShowsRow lines settings.rows
  unlimitedSize : settings.maxBatchSize = none → ∀ n line, lines[5]? = some line →
    ¬ ("Max batch size  " ++ Nat.repr n).toList <+: line
  unlimitedTime : settings.maxBatchTime = none → ∀ n line, lines[6]? = some line →
    ¬ ("Max batch time  " ++ Nat.repr n).toList <+: line

def bareLine (row : String × String) : List Char :=
  row.1.toList ++ (List.replicate (valueColumn - row.1.length) ' ' ++ row.2.toList)

theorem labels_rows (settings : Settings) :
    settings.rows.map (·.1) = ["Worker name", "Worker version", "Output queue", "Failure queue",
      "Threads", "Max batch size", "Max batch time"] := by
  simp only [rows, List.map_cons, List.map_nil]

theorem labelWidth_rows (settings : Settings) : labelWidth settings.rows = 14 := by
  have widths : settings.rows.map (·.1.length) = (settings.rows.map (·.1)).map String.length := by
    rw [List.map_map]
    rfl
  rw [labelWidth, widths, labels_rows]
  decide

/-- Labels are short and hold no line feed. -/
theorem label_of_mem_rows {settings : Settings} {row : String × String}
    (member : row ∈ settings.rows) : row.1.length ≤ 14 ∧ '\n' ∉ row.1.toList := by
  have labels : ∀ label ∈ settings.rows.map (·.1), label.length ≤ 14 ∧ '\n' ∉ label.toList := by
    rw [labels_rows]
    decide
  exact labels row.1 (List.mem_map_of_mem member)

/-- The two spaces of a line belong to its padding where the label fits. -/
theorem tableLine_eq_bareLine {row : String × String} (fits : row.1.length ≤ 14) :
    tableLine 14 row.1 row.2 = bareLine row ++ ['\n'] := by
  have spaces : valueColumn - row.1.length = 14 - row.1.length + 2 := by
    rw [valueColumn]
    omega
  rw [tableLine, bareLine, spaces, List.replicate_add]
  simp only [List.append_assoc]
  rfl

theorem toList_toTable (settings : Settings) :
    settings.toTable.toList = (settings.rows.map bareLine).flatMap (· ++ ['\n']) := by
  rw [toTable, String.toList_ofList, labelWidth_rows, List.flatMap_map]
  exact List.flatMap_congr fun row member => tableLine_eq_bareLine (label_of_mem_rows member).1

theorem showsRow_bareLine {row : String × String} (fits : row.1.length ≤ 14) :
    ShowsRow (bareLine row) row := by
  refine ⟨valueColumn - row.1.length, ?_, rfl⟩
  rw [valueColumn]
  omega

/-- Digits hold no line feed, and neither does what stands for no value. -/
theorem not_mem_repr (n : Nat) : '\n' ∉ (Nat.repr n).toList := by
  rw [Nat.toList_repr]
  intro member
  have digit := Numeral.isDigit_of_mem_digits member
  cases digit

theorem unbroken_getD {shown : Option String}
    (unbroken : ∀ value, shown = some value → '\n' ∉ value.toList) :
    '\n' ∉ (shown.getD notSet).toList := by
  cases shown with
  | none => decide
  | some value => exact unbroken value rfl

theorem unbroken_rows {settings : Settings} (oneLine : settings.OneLine) {row : String × String}
    (member : row ∈ settings.rows) : '\n' ∉ row.2.toList := by
  have size : ∀ value, (settings.maxBatchSize.map fun size => Nat.repr size.toNat) = some value →
      '\n' ∉ value.toList := by
    intro value shown
    obtain ⟨size, _, rfl⟩ := Option.map_eq_some_iff.mp shown
    exact not_mem_repr _
  have time : ∀ value, (settings.maxBatchTime.map fun millis => Nat.repr millis.toNat ++ " ms") =
      some value → '\n' ∉ value.toList := by
    intro value shown
    obtain ⟨millis, _, rfl⟩ := Option.map_eq_some_iff.mp shown
    rw [String.toList_append, List.mem_append, not_or]
    exact ⟨not_mem_repr _, by decide⟩
  simp only [rows, List.mem_cons, List.not_mem_nil, or_false] at member
  rcases member with rfl | rfl | rfl | rfl | rfl | rfl | rfl
  · exact oneLine.workerName
  · exact oneLine.workerVersion
  · exact oneLine.outputQueue
  · exact unbroken_getD oneLine.failureQueue
  · exact not_mem_repr _
  · exact unbroken_getD size
  · exact unbroken_getD time

theorem unbroken_bareLine {row : String × String} (label : '\n' ∉ row.1.toList)
    (value : '\n' ∉ row.2.toList) : '\n' ∉ bareLine row := by
  simp [bareLine, label, value]

/-- The first line of a text ends at its first line feed. -/
theorem append_lineFeed_inj {line line' rest rest' : List Char} (unbroken : '\n' ∉ line)
    (unbroken' : '\n' ∉ line') :
    line ++ '\n' :: rest = line' ++ '\n' :: rest' ↔ line = line' ∧ rest = rest' := by
  constructor
  · intro same
    induction line generalizing line' with
    | nil =>
      cases line' with
      | nil =>
        cases same
        exact ⟨rfl, rfl⟩
      | cons c line' =>
        cases same
        exact (unbroken' List.mem_cons_self).elim
    | cons c line ih =>
      cases line' with
      | nil =>
        cases same
        exact (unbroken List.mem_cons_self).elim
      | cons c' line' =>
        rw [List.mem_cons, not_or] at unbroken unbroken'
        obtain ⟨rfl, tails⟩ := List.cons.inj same
        obtain ⟨rfl, rfl⟩ := ih unbroken.2 unbroken'.2 tails
        exact ⟨rfl, rfl⟩
  · rintro ⟨rfl, rfl⟩
    rfl

/-- Rows with the same labels and unbroken values make the same text only if they are the
same. -/
theorem flatMap_bareLine_inj {rows rows' : List (String × String)}
    (labels : rows.map (·.1) = rows'.map (·.1)) (unbroken : ∀ row ∈ rows, '\n' ∉ row.2.toList)
    (unbroken' : ∀ row ∈ rows', '\n' ∉ row.2.toList) :
    (rows.map bareLine).flatMap (· ++ ['\n']) = (rows'.map bareLine).flatMap (· ++ ['\n']) ↔
      rows = rows' := by
  induction rows generalizing rows' with
  | nil =>
    cases rows' with
    | nil => simp
    | cons row' rows' => cases labels
  | cons row rows ih =>
    cases rows' with
    | nil => cases labels
    | cons row' rows' =>
      obtain ⟨label, value⟩ := row
      obtain ⟨label', value'⟩ := row'
      obtain ⟨rfl, tails⟩ := List.cons.inj labels
      have others := ih tails (fun row member => unbroken row (List.mem_cons_of_mem _ member))
        fun row member => unbroken' row (List.mem_cons_of_mem _ member)
      simp only [List.map_cons, List.flatMap_cons, bareLine, List.append_assoc,
        List.append_cancel_left_eq, List.singleton_append, List.cons.injEq, Prod.mk.injEq,
        true_and]
      rw [append_lineFeed_inj (unbroken _ List.mem_cons_self) (unbroken' _ List.mem_cons_self),
        others, String.toList_inj]

/-- What stands for no value does not start with a number. -/
theorem not_repr_prefix_notSet (n : Nat) : ¬ (Nat.repr n).toList <+: notSet.toList := by
  obtain ⟨c, tail, digits, digit⟩ := Numeral.exists_digit_repr n
  have bracket : notSet.toList.head? = some '(' := by decide
  rintro ⟨rest, same⟩
  rw [← same, digits, List.cons_append, List.head?_cons, Option.some.injEq] at bracket
  subst bracket
  cases digit

/-- A value that may be absent is known from what is shown for it, unless that is what is shown
for none. -/
theorem getD_map_inj {α : Type} (text : α → String) (injective : Function.Injective text)
    (other : ∀ value, text value ≠ notSet) {a b : Option α} :
    (a.map text).getD notSet = (b.map text).getD notSet ↔ a = b := by
  cases a with
  | none =>
    cases b with
    | none => simp
    | some b => simp [Ne.symm (other b)]
  | some a =>
    cases b with
    | none => simp [other a]
    | some b => simp [injective.eq_iff]

/-- A queue is known from what is shown for it, unless it has the name that is shown for none. -/
theorem getD_inj {a b : Option String} :
    a.getD notSet = b.getD notSet ↔
      a = b ∨ (a = none ∧ b = some notSet) ∨ (a = some notSet ∧ b = none) := by
  cases a with
  | none =>
    cases b with
    | none => simp
    | some b => simp [eq_comm]
  | some a =>
    cases b with
    | none => simp
    | some b => simp

theorem repr_ne_notSet (n : Nat) : Nat.repr n ≠ notSet :=
  fun same => not_repr_prefix_notSet n (same ▸ List.prefix_rfl)

theorem repr_append_ne_notSet (n : Nat) (mark : String) : Nat.repr n ++ mark ≠ notSet := by
  intro same
  refine not_repr_prefix_notSet n ⟨mark.toList, ?_⟩
  rw [← String.toList_append, same]

theorem size_inj {a b : Option UInt32} :
    (a.map fun size => Nat.repr size.toNat).getD notSet =
      (b.map fun size => Nat.repr size.toNat).getD notSet ↔ a = b := by
  refine getD_map_inj (fun size : UInt32 => Nat.repr size.toNat) (fun _ _ same => ?_)
    fun size => repr_ne_notSet size.toNat
  exact UInt32.toNat_inj.mp (Numeral.repr_eq_iff.mp same)

theorem time_inj {a b : Option UInt64} :
    (a.map fun millis => Nat.repr millis.toNat ++ " ms").getD notSet =
      (b.map fun millis => Nat.repr millis.toNat ++ " ms").getD notSet ↔ a = b := by
  refine getD_map_inj (fun millis : UInt64 => Nat.repr millis.toNat ++ " ms")
    (fun _ _ same => ?_) fun millis => repr_append_ne_notSet millis.toNat " ms"
  exact UInt64.toNat_inj.mp (Numeral.repr_eq_iff.mp ((String.append_left_inj " ms").mp same))

/-- The settings are alike but for the failure queue: the one has none, and that of the other
has the name that is shown for none. -/
def ShownAlike (a b : Settings) : Prop :=
  b = { a with failureQueue := b.failureQueue } ∧
    ((a.failureQueue = none ∧ b.failureQueue = some notSet) ∨
      (a.failureQueue = some notSet ∧ b.failureQueue = none))

instance (a b : Settings) : Decidable (a.ShownAlike b) :=
  inferInstanceAs (Decidable (_ ∧ _))

theorem rows_eq_iff {a b : Settings} : a.rows = b.rows ↔ a = b ∨ a.ShownAlike b := by
  simp only [rows, List.cons.injEq, Prod.mk.injEq, true_and, and_true]
  rw [size_inj, time_inj, getD_inj, Numeral.repr_eq_iff, UInt32.toNat_inj]
  cases a
  cases b
  simp only [ShownAlike, mk.injEq]
  constructor
  · rintro ⟨rfl, rfl, rfl, rfl | queues, rfl, rfl, rfl⟩
    · exact .inl ⟨rfl, rfl, rfl, rfl, rfl, rfl, rfl⟩
    · exact .inr ⟨⟨rfl, rfl, rfl, trivial, rfl, rfl, rfl⟩, queues⟩
  · rintro (⟨rfl, rfl, rfl, rfl, rfl, rfl, rfl⟩ | ⟨⟨rfl, rfl, rfl, _, rfl, rfl, rfl⟩, queues⟩)
    · exact ⟨rfl, rfl, rfl, .inl rfl, rfl, rfl, rfl⟩
    · exact ⟨rfl, rfl, rfl, .inr queues, rfl, rfl, rfl⟩

/-- A line that shows no value does not go on with a number. -/
theorem not_repr_prefix_line {label : String} {front : String}
    (start : label.toList ++ List.replicate (valueColumn - label.length) ' ' = front.toList)
    (n : Nat) : ¬ (front ++ Nat.repr n).toList <+: bareLine (label, notSet) := by
  rw [bareLine, ← List.append_assoc, start, String.toList_append, List.prefix_append_right_inj]
  exact not_repr_prefix_notSet n

/-- The table of settings without line feeds is their rows, each on a line of its own. -/
theorem isTable_rows {settings : Settings} (oneLine : settings.OneLine) :
    settings.IsTable (settings.rows.map bareLine) where
  count := by rw [List.length_map]; rfl
  unbroken := by
    intro line member
    obtain ⟨row, found, rfl⟩ := List.mem_map.mp member
    exact unbroken_bareLine (label_of_mem_rows found).2 (unbroken_rows oneLine found)
  aligned := by
    rw [List.forall₂_map_left_iff, List.forall₂_same]
    exact fun row member => showsRow_bareLine (label_of_mem_rows member).1
  unlimitedSize := by
    intro unset n line found
    have shown : settings.rows[5]? = some ("Max batch size", notSet) := by
      simp [rows, unset]
    rw [List.getElem?_map, shown, Option.map_some, Option.some.injEq] at found
    subst found
    exact not_repr_prefix_line rfl n
  unlimitedTime := by
    intro unset n line found
    have shown : settings.rows[6]? = some ("Max batch time", notSet) := by
      simp [rows, unset]
    rw [List.getElem?_map, shown, Option.map_some, Option.some.injEq] at found
    subst found
    exact not_repr_prefix_line rfl n

/-- Settings without line feeds are shown as seven lines whose values start in one column. Two of
them are shown as the same text only if they are the same, or if one has no failure queue and
the other one that is named like an absent value. -/
theorem render_text :
    (∀ settings : Settings, settings.OneLine → ∃ lines, settings.IsTable lines ∧
      (settings.render .text).toList = lines.flatMap (· ++ ['\n'])) ∧
    ∀ a b : Settings, a.OneLine → b.OneLine →
      (a.render .text = b.render .text ↔ a = b ∨ a.ShownAlike b) := by
  constructor
  · intro settings oneLine
    exact ⟨settings.rows.map bareLine, isTable_rows oneLine, toList_toTable settings⟩
  · intro a b oneLine oneLine'
    have labels : a.rows.map (·.1) = b.rows.map (·.1) := by rw [labels_rows, labels_rows]
    calc
      a.render .text = b.render .text ↔ a.toTable.toList = b.toTable.toList :=
        String.toList_inj.symm
      _ ↔ a.rows = b.rows := by
        rw [toList_toTable, toList_toTable]
        exact flatMap_bareLine_inj labels (fun _ member => unbroken_rows oneLine member)
          fun _ member => unbroken_rows oneLine' member
      _ ↔ a = b ∨ a.ShownAlike b := rows_eq_iff

/-- Settings without limits and with texts that look like rows. -/
def unlimited : Settings where
  workerName := "Threads         1"
  workerVersion := "(not set)"
  outputQueue := " q "
  failureQueue := none
  threads := 1
  maxBatchSize := none
  maxBatchTime := none

theorem render_text_unlimited :
    (∃ lines, unlimited.IsTable lines ∧
      (unlimited.render .text).toList = lines.flatMap (· ++ ['\n'])) ∧
      unlimited.render .text = { unlimited with failureQueue := some "(not set)" }.render .text ∧
      unlimited.render .text ≠ { unlimited with maxBatchSize := some 0 }.render .text := by
  have oneLine : unlimited.OneLine := ⟨by decide, by decide, by decide, fun _ none => by cases none⟩
  have queue : { unlimited with failureQueue := some "(not set)" }.OneLine := by
    refine ⟨by decide, by decide, by decide, fun queue same => ?_⟩
    cases same
    decide
  have size : { unlimited with maxBatchSize := some 0 }.OneLine :=
    ⟨by decide, by decide, by decide, fun _ none => by cases none⟩
  obtain ⟨lines, same_iff⟩ := render_text
  refine ⟨lines _ oneLine, (same_iff _ _ oneLine queue).mpr (by decide), ?_⟩
  rw [ne_eq, same_iff _ _ oneLine size]
  decide

end WorkerSettings.Settings
