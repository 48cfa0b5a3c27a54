import WorkerSettings.Proofs.Json.Lists
import WorkerSettings.Proofs.Settings.Json

/-!
# Settings as a list

Settings are read from a list of their seven values as they are from an object that holds the
values under their keys: checked alike, and with the same fault if they are not valid. The
fourth value need not be there in an object and has to stand in a list, as `null` if there is
none, because the fifth is needed. Only the last two may be left off.
-/

namespace WorkerSettings.Settings

open Json

/-- A list of settings has its first five values, and seven at most. -/
theorem length_of_holdsInOrder {elements : List (List Char)} {values : Tuple record.fields}
    (holds : HoldsInOrder record.fields elements values) :
    5 ≤ elements.length ∧ elements.length ≤ 7 := by
  have needed : record.fields[4]? = some (.required "threads" (.count 32)) := rfl
  exact ⟨holds.lt_length needed rfl, holds.length_le⟩

/-- A list whose elements are the values of settings in order, where `null` is no value and
absent limits at the end may be left off, is read as any object is whose members describe the
same values: as the settings if they are valid, and else with their fault. No list of fewer than
five or of more than seven elements is read as settings. -/
theorem ofJson_list :
    (∀ settings text elements, SpellsList text.toList elements →
      HoldsInOrder record.fields elements (record.toTuple settings) →
      (ofJson text = settings.validated.mapError fun fault => .mismatch (.refused fault)) ∧
      ∀ text' members, SpellsObject text'.toList members →
        Holds record.fields members (record.toTuple settings) → ofJson text = ofJson text') ∧
    ∀ text elements, SpellsList text.toList elements →
      elements.length < 5 ∨ 7 < elements.length → ∀ settings, ofJson text ≠ .ok settings := by
  constructor
  · intro settings text elements list inOrder
    have readList := (Shape.readsAs_list readable list).read_eq inOrder
    rw [ofTuple_toTuple] at readList
    refine ⟨readList, fun text' members object holds => ?_⟩
    have readObject := (Shape.readsAs_object readable object).read_eq holds
    rw [ofTuple_toTuple] at readObject
    exact readList.trans readObject.symm
  · intro text elements list count settings read
    obtain ⟨values, inOrder, _⟩ := (Shape.readsAs_list readable list).read_iff.mp read
    have bounds := length_of_holdsInOrder inOrder
    omega

def queueless : Settings where
  workerName := "c"
  workerVersion := "a"
  outputQueue := ""
  failureQueue := none
  threads := 0
  maxBatchSize := some 0
  maxBatchTime := none

/-- The values of those settings in order, but for the last, which is none. -/
def queuelessElements : List (List Char) :=
  [quote "c", "\"\\u0061\"".toList, quote "", "null".toList, ['0'], ['0']]

theorem queuelessElements_spells :
    SpellsList " [\"c\" ,\"\\u0061\",\"\",null,0,\n0]".toList queuelessElements := by
  have space : IsBlanks [' '] := by decide
  have line : IsBlanks ['\n'] := by decide
  have name : SpellsElement "\"c\" ".toList (quote "c") :=
    .mk .nil (Form.derives_write .text "c") space
  have version : SpellsElement "\"\\u0061\"".toList "\"\\u0061\"".toList :=
    .mk .nil (.string (.unit spellsUnit_a .nil)) .nil
  have queue : SpellsElement "\"\"".toList (quote "") :=
    .mk .nil (Form.derives_write .text "") .nil
  have absent : SpellsElement "null".toList "null".toList :=
    .mk .nil (.word List.mem_cons_self) .nil
  have threads : SpellsElement ['0'] ['0'] := .mk .nil (Form.derives_write (.count 32) 0) .nil
  have size : SpellsElement ['\n', '0'] ['0'] := .mk line (Form.derives_write (.count 32) 0) .nil
  have elements := SpellsElements.cons name <| .cons version <| .cons queue <| .cons absent <|
    .cons threads <| .last size
  exact ⟨[' '], _, [], space, .elements elements, .nil, rfl⟩

theorem ofJson_list_queueless :
    ofJson " [\"c\" ,\"\\u0061\",\"\",null,0,\n0]" =
        .error (.mismatch (.refused .emptyOutputQueue)) ∧
      ofJson (queueless.toJson .compact) = .error (.mismatch (.refused .emptyOutputQueue)) ∧
      ∀ settings, ofJson "[ ]" ≠ .ok settings := by
  have version : SpellsString "\"\\u0061\"".toList "a" :=
    ⟨_, _, rfl, .unit spellsUnit_a .nil, .unit (by decide) .nil⟩
  have zero : Numeral.value ['0'] = 0 := rfl
  have inOrder : HoldsInOrder record.fields queuelessElements (record.toTuple queueless) :=
    ⟨spellsString_quote "c", version, spellsString_quote "", rfl, ⟨by decide, zero⟩,
      ⟨by decide, zero⟩, rfl, rfl⟩
  have written : SpellsObject (queueless.toJson .compact).toList
      (members record.fields (record.toTuple queueless)) := by
    rw [toJson, String.toList_ofList]
    exact record.spells_write .compact queueless
  have empty : SpellsList "[ ]".toList [] :=
    ⟨[], [' '], [], .nil, .empty (by decide), .nil, rfl⟩
  obtain ⟨agree, bounded⟩ := ofJson_list
  obtain ⟨read, alike⟩ := agree queueless _ _ queuelessElements_spells inOrder
  have refused := read.trans (show _ = Except.error (Rejection.mismatch _) from rfl)
  exact ⟨refused, (alike _ _ written (holds_members readable.distinct _)).symm.trans refused,
    bounded _ _ empty (.inl (by decide))⟩

end WorkerSettings.Settings
