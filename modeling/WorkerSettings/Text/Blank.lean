import WorkerSettings.Text.CharSet

/-!
# Blank characters

The characters of the Unicode property `White_Space`, and the removal of blanks from
the ends of a text. Zero-width characters, the byte order mark and the information
separators `U+001C` to `U+001F` are not blank.
-/

namespace WorkerSettings.Text

/-- The twenty-five characters of the property `White_Space`. -/
def blanks : CharSet where
  ranges :=
    [(0x9, 0xD), (0x20, 0x20), (0x85, 0x85), (0xA0, 0xA0), (0x1680, 0x1680), (0x2000, 0x200A),
      (0x2028, 0x2029), (0x202F, 0x202F), (0x205F, 0x205F), (0x3000, 0x3000)]

def isBlank (c : Char) : Bool :=
  blanks.contains c

def trimStart (cs : List Char) : List Char :=
  cs.dropWhile isBlank

def trimEnd (cs : List Char) : List Char :=
  (cs.reverse.dropWhile isBlank).reverse

def trim (cs : List Char) : List Char :=
  trimEnd (trimStart cs)

/-- A visible character of ASCII is not blank. -/
theorem isBlank_eq_false {c : Char} (visible : 0x20 < c.toNat) (ascii : c.toNat < 0x7F) :
    isBlank c = false := by
  simp only [isBlank, CharSet.contains, List.any_eq_false, Bool.and_eq_true, decide_eq_true_eq]
  intro range member
  simp only [blanks, List.mem_cons, List.not_mem_nil, or_false] at member
  rcases member with rfl | rfl | rfl | rfl | rfl | rfl | rfl | rfl | rfl | rfl <;>
    dsimp only <;> omega

theorem trimStart_append {blank : List Char} (allBlank : ∀ c ∈ blank, isBlank c = true)
    (cs : List Char) : trimStart (blank ++ cs) = trimStart cs :=
  List.dropWhile_append_of_pos allBlank

theorem trimStart_cons {c : Char} (visible : isBlank c = false) (cs : List Char) :
    trimStart (c :: cs) = c :: cs :=
  List.dropWhile_cons_of_neg (by simp [visible])

theorem trimEnd_append {blank : List Char} (allBlank : ∀ c ∈ blank, isBlank c = true)
    (cs : List Char) : trimEnd (cs ++ blank) = trimEnd cs := by
  rw [trimEnd, List.reverse_append, List.dropWhile_append_of_pos, trimEnd]
  intro c member
  exact allBlank c (List.mem_reverse.mp member)

theorem trimEnd_concat {c : Char} (visible : isBlank c = false) (cs : List Char) :
    trimEnd (cs ++ [c]) = cs ++ [c] := by
  rw [trimEnd, List.reverse_concat, List.dropWhile_cons_of_neg (by simp [visible]),
    List.reverse_cons, List.reverse_reverse]

theorem exists_trimStart (cs : List Char) :
    ∃ blank, (∀ c ∈ blank, isBlank c = true) ∧ cs = blank ++ trimStart cs := by
  refine ⟨cs.takeWhile isBlank, ?_, List.takeWhile_append_dropWhile.symm⟩
  intro c member
  exact (List.all_eq_true.mp List.all_takeWhile) c member

theorem exists_trimEnd (cs : List Char) :
    ∃ blank, (∀ c ∈ blank, isBlank c = true) ∧ cs = trimEnd cs ++ blank := by
  obtain ⟨blank, allBlank, split⟩ := exists_trimStart cs.reverse
  refine ⟨blank.reverse, fun c member => allBlank c (List.mem_reverse.mp member), ?_⟩
  rw [← List.reverse_inj, split]
  simp [trimEnd, trimStart]

/-- What is between blanks stays if nothing in it is blank. -/
theorem trim_append {before middle after : List Char}
    (blankBefore : ∀ c ∈ before, isBlank c = true) (nonempty : middle ≠ [])
    (visible : ∀ c ∈ middle, isBlank c = false) (blankAfter : ∀ c ∈ after, isBlank c = true) :
    trim (before ++ (middle ++ after)) = middle := by
  have start : trimStart (middle ++ after) = middle ++ after := by
    obtain ⟨c, rest, rfl⟩ := List.exists_cons_of_ne_nil nonempty
    exact trimStart_cons (visible c List.mem_cons_self) _
  have last : trimEnd middle = middle := by
    rw [← List.dropLast_concat_getLast nonempty]
    exact trimEnd_concat (visible _ (List.getLast_mem nonempty)) _
  rw [trim, trimStart_append blankBefore, start, trimEnd_append blankAfter, last]

/-- Only blanks are trimmed. -/
theorem exists_trim (cs : List Char) :
    ∃ before after, (∀ c ∈ before, isBlank c = true) ∧ (∀ c ∈ after, isBlank c = true) ∧
      cs = before ++ (trim cs ++ after) := by
  obtain ⟨before, blankBefore, start⟩ := exists_trimStart cs
  obtain ⟨after, blankAfter, rest⟩ := exists_trimEnd (trimStart cs)
  refine ⟨before, after, blankBefore, blankAfter, ?_⟩
  rw [trim, ← rest, ← start]

end WorkerSettings.Text
