import WorkerSettings.Json.Reading

/-!
# Blanks and words of JSON

Between the tokens of JSON stand spaces, tabs, line feeds and carriage returns, and no
other blanks. A word (`null`, `true`, `false`) is read character by character.
-/

namespace WorkerSettings.Json

/-- The four blanks of JSON. -/
def isBlank (c : Char) : Bool :=
  c == ' ' || c == '\t' || c == '\n' || c == '\r'

def dropBlanks (cs : List Char) : List Char :=
  cs.dropWhile isBlank

theorem dropBlanks_length_le (cs : List Char) : (dropBlanks cs).length ≤ cs.length :=
  (List.dropWhile_suffix isBlank).length_le

/-- Reading on past the first character that is not blank shortens the text. -/
theorem length_lt_of_dropBlanks {cs rest : List Char} {c : Char}
    (found : dropBlanks cs = c :: rest) : rest.length < cs.length := by
  have bound := dropBlanks_length_le cs
  simp [found] at bound
  omega

/-- What follows a word that is due at the start of the text. -/
def readWord : List Char → List Char → Except Rejection (List Char)
  | [], cs => .ok cs
  | _ :: _, [] => .error .truncated
  | letter :: word, c :: cs => if c = letter then readWord word cs else .error .malformed

theorem readWord_length_le {word cs rest : List Char} (read : readWord word cs = .ok rest) :
    rest.length ≤ cs.length := by
  fun_induction readWord word cs with
  | case1 cs => cases read; exact Nat.le_refl _
  | case2 => cases read
  | case3 _ _ _ ih => exact Nat.le_succ_of_le (ih read)
  | case4 => cases read

end WorkerSettings.Json
