import WorkerSettings.Proofs.Json.Framing
import WorkerSettings.Proofs.Settings.Json

/-!
# Settings that are cut off or continued

A text of settings may come in parts or with something after it. A part that lacks the closing
bracket is rejected as incomplete or as no JSON, so it is never taken for other settings and
never blamed for a value. Behind the closing bracket only blanks are accepted. A value that is
wrong is found before that: whatever follows the bracket, it is the answer.
-/

namespace WorkerSettings.Settings

open Json

/-- A text of settings ends with a closing bracket and blanks. Cut off before the bracket, it is
rejected, and not for a value. Continued, it holds the same settings if blanks follow, and is no
JSON if anything else does. Where a text that ends with a bracket is rejected for a value, each
text that starts with it is rejected for the same value. -/
theorem ofJson_framed :
    (∀ text settings, ofJson text = .ok settings →
      (∃ front, IsFront front text.toList) ∧
      (∀ front cut, IsFront front text.toList → cut.toList <+: front →
        ofJson cut = .error .truncated ∨ ofJson cut = .error .malformed) ∧
      ∀ suffix, ofJson (text ++ suffix) =
        if IsBlanks suffix.toList then .ok settings else .error .malformed) ∧
    ∀ text cause, text.toList.getLast? = some '\x7d' ∨ text.toList.getLast? = some ']' →
      ofJson text = .error (.mismatch cause) →
      ∀ suffix, ofJson (text ++ suffix) = .error (.mismatch cause) := by
  have narrow := readable.narrow
  constructor
  · intro text settings read
    refine ⟨Shape.exists_front narrow read, ?_, ?_⟩
    · intro front cut isFront isCut
      exact Shape.read_of_cut narrow read isFront isCut
    · intro suffix
      rw [ofJson, String.toList_append]
      exact Shape.read_append narrow read suffix.toList
  · intro text cause closed rejected suffix
    have notOpen : ¬ EndsOpen text.toList := by
      rintro ⟨c, last, notList, notObject⟩
      rcases closed with closed | closed
      · exact notObject (Option.some.inj (last.symm.trans closed))
      · exact notList (Option.some.inj (last.symm.trans closed))
    rw [ofJson, String.toList_append]
    exact Shape.read_mismatch_append narrow notOpen rejected suffix.toList

def listedSettings : Settings where
  workerName := "w"
  workerVersion := "1"
  outputQueue := "q"
  failureQueue := none
  threads := 12
  maxBatchSize := none
  maxBatchTime := none

theorem ofJson_framed_list :
    ofJson "[\"w\",\"1\",\"q\",null,12]\n" = .ok listedSettings ∧
      (ofJson "[\"w\",\"1\",\"q\",null,1" = .error .truncated ∨
        ofJson "[\"w\",\"1\",\"q\",null,1" = .error .malformed) ∧
      ofJson ("[\"w\",\"1\",\"q\",null,12]\n" ++ "\t ") = .ok listedSettings ∧
      ofJson ("[\"w\",\"1\",\"q\",null,12]\n" ++ "2") = .error .malformed ∧
      ofJson ("[\"w\",\"1\",\"q\",null,0]" ++ "]") =
        .error (.mismatch (.refused (.invalidThreads 0))) := by
  obtain ⟨accepted, rejected⟩ := ofJson_framed
  have read : ofJson "[\"w\",\"1\",\"q\",null,12]\n" = .ok listedSettings := by rfl
  have refused : ofJson "[\"w\",\"1\",\"q\",null,0]" =
      .error (.mismatch (.refused (.invalidThreads 0))) := by rfl
  have front : IsFront "[\"w\",\"1\",\"q\",null,12".toList
      "[\"w\",\"1\",\"q\",null,12]\n".toList :=
    ⟨.list, [], _, ['\n'], .nil, by decide, rfl, rfl⟩
  obtain ⟨_, cut, continued⟩ := accepted _ _ read
  refine ⟨read, cut _ _ front ⟨['2'], rfl⟩, ?_, ?_, rejected _ _ (.inr rfl) refused _⟩
  · rw [continued, if_pos (by decide)]
  · rw [continued, if_neg (by decide)]

end WorkerSettings.Settings
