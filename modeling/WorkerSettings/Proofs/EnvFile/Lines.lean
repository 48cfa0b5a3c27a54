import WorkerSettings.Proofs.EnvFile.Progress

/-!
# The lines of a text

An environment file is cut into physical lines as bytes and put together to logical lines as
characters. The bytes of a text are cut exactly after its line feeds, since no other character
has a line feed among its bytes, and each physical line decodes to the characters it has in the
text.
-/

namespace WorkerSettings.EnvFile

def encode (cs : List Char) : List UInt8 :=
  cs.flatMap String.utf8EncodeChar

theorem encode_append (cs ds : List Char) : encode (cs ++ ds) = encode cs ++ encode ds :=
  List.flatMap_append

theorem encode_toList (s : String) : encode s.toList = s.toUTF8.data.toList := by
  have bytes : (String.ofList s.toList).toUTF8.data.toList = encode s.toList := by
    simp only [String.toUTF8_eq_toByteArray, String.toByteArray_ofList, List.utf8Encode,
      List.data_toByteArray, encode]
  rw [← bytes, String.ofList_toList]

theorem decodeLine_encode (cs : List Char) : decodeLine (encode cs) = some cs := by
  have bytes : (encode cs).toByteArray = (String.ofList cs).toUTF8 := by
    rw [String.toUTF8_eq_toByteArray, String.toByteArray_ofList]
    rfl
  rw [decodeLine, bytes, fromUTF8?_toUTF8, Option.map_some, String.toList_ofList]

theorem utf8EncodeChar_ascii {c : Char} (ascii : c.toNat < 128) :
    String.utf8EncodeChar c = [UInt8.ofNat c.toNat] :=
  if_pos (Nat.le_of_lt_succ ascii)

/-- The bytes of a character outside ASCII are outside ASCII. -/
theorem le_of_mem_utf8EncodeChar {c : Char} (other : 128 ≤ c.toNat) {byte : UInt8}
    (member : byte ∈ String.utf8EncodeChar c) : 128 ≤ byte.toNat := by
  have outside : ¬ c.val.toNat ≤ 127 := Nat.not_le_of_lt other
  rw [String.utf8EncodeChar, if_neg outside] at member
  split at member
  · simp only [List.mem_cons, List.not_mem_nil, or_false] at member
    rcases member with rfl | rfl <;> rw [UInt8.toNat_ofNat'] <;> omega
  · split at member
    · simp only [List.mem_cons, List.not_mem_nil, or_false] at member
      rcases member with rfl | rfl | rfl <;> rw [UInt8.toNat_ofNat'] <;> omega
    · simp only [List.mem_cons, List.not_mem_nil, or_false] at member
      rcases member with rfl | rfl | rfl | rfl <;> rw [UInt8.toNat_ofNat'] <;> omega

/-- No other character has a line feed among its bytes. -/
theorem lineFeed_not_mem_utf8EncodeChar {c : Char} (other : c ≠ '\n') :
    0x0A ∉ String.utf8EncodeChar c := by
  intro member
  by_cases ascii : c.toNat < 128
  · rw [utf8EncodeChar_ascii ascii, List.mem_singleton, ← UInt8.toNat_inj,
      UInt8.toNat_ofNat'] at member
    have code : c.toNat = 10 := by simpa [Nat.mod_eq_of_lt (Nat.lt_trans ascii _)] using member.symm
    exact other (Char.ext (UInt32.toNat_inj.mp code))
  · exact absurd (le_of_mem_utf8EncodeChar (Nat.not_lt.mp ascii) member) (by decide)

theorem lineFeed_not_mem_encode {cs : List Char} (oneLine : '\n' ∉ cs) : 0x0A ∉ encode cs := by
  intro member
  obtain ⟨c, inside, member⟩ := List.mem_flatMap.mp member
  exact lineFeed_not_mem_utf8EncodeChar (fun same => oneLine (same ▸ inside)) member

theorem physicalLines_append {bytes : List UInt8} (oneLine : 0x0A ∉ bytes) (rest : List UInt8) :
    physicalLines (bytes ++ 0x0A :: rest) = (bytes ++ [0x0A]) :: physicalLines rest := by
  induction bytes with
  | nil => simp [physicalLines]
  | cons byte bytes ih =>
    rw [List.mem_cons, not_or] at oneLine
    obtain ⟨differs, others⟩ := oneLine
    rw [List.cons_append, physicalLines, if_neg (Ne.symm differs), ih others]
    rfl

/-- The first physical line of a text ends with its first line feed. -/
theorem physicalLines_encode {cs : List Char} (oneLine : '\n' ∉ cs) (rest : List Char) :
    physicalLines (encode (cs ++ '\n' :: rest)) =
      encode (cs ++ ['\n']) :: physicalLines (encode rest) := by
  have feed : encode ('\n' :: rest) = 0x0A :: encode rest := rfl
  have last : encode ['\n'] = [0x0A] := rfl
  rw [encode_append, encode_append, feed, last,
    physicalLines_append (lineFeed_not_mem_encode oneLine)]

theorem scanLine_append {quoting next last : Quoting} {cs ds : List Char}
    (first : scanLine quoting cs = .quoting next) (second : scanLine next ds = .quoting last) :
    scanLine quoting (cs ++ ds) = .quoting last := by
  induction cs generalizing quoting with
  | nil =>
    cases first
    exact second
  | cons c cs ih =>
    rw [scanLine] at first
    rw [List.cons_append, scanLine]
    split at first
    · cases first
    · split at first
      · cases first
      · rename_i scanned
        cases first
        rw [ih scanned]

/-- The first character is neither blank nor the start of a comment. -/
def Opens (cs : List Char) : Prop :=
  ∃ c rest, cs = c :: rest ∧ Text.isBlank c = false ∧ c ≠ '#'

theorem Opens.append {cs : List Char} (opens : Opens cs) (ds : List Char) : Opens (cs ++ ds) := by
  obtain ⟨c, rest, rfl, visible, other⟩ := opens
  exact ⟨c, rest ++ ds, rfl, visible, other⟩

theorem Opens.extend {cs ds : List Char} (opens : Opens (cs ++ ds)) (es : List Char) :
    Opens (cs ++ (ds ++ es)) := by
  rw [← List.append_assoc]
  exact opens.append es

theorem Opens.trimStart_eq {cs : List Char} (opens : Opens cs) : Text.trimStart cs = cs := by
  obtain ⟨c, rest, rfl, visible, _⟩ := opens
  exact Text.trimStart_cons visible rest

theorem Opens.isComment_eq {cs : List Char} (opens : Opens cs) : isComment cs = false := by
  rw [isComment, opens.trimStart_eq]
  obtain ⟨c, rest, rfl, _, other⟩ := opens
  simp [other]

theorem Opens.isVoid_eq {cs : List Char} (opens : Opens cs) : Assignment.isVoid cs = false := by
  obtain ⟨c, rest, rfl, _, other⟩ := opens
  simp [Assignment.isVoid, other]

theorem dropLineBreak_concat {c : Char} (other : c ≠ '\r') (cs : List Char) :
    dropLineBreak (cs ++ [c, '\n']) = cs ++ [c] := by
  have reversed : (cs ++ [c, '\n']).reverse = '\n' :: c :: cs.reverse := by simp
  rw [dropLineBreak, reversed]
  split
  · rename_i same
    cases same
    exact (other rfl).elim
  · rename_i same
    cases same
    simp
  · rename_i none
    exact (none _ rfl).elim

/-- A physical line that leaves a quote open is gathered. -/
theorem logicalLines_gather {quoting next : Quoting} {gathered line : List Char}
    (oneLine : '\n' ∉ line) (opens : Opens (gathered ++ line))
    (scanned : scanLine quoting (line ++ ['\n']) = .quoting next) (going : next ≠ .plain)
    (rest : List Char) :
    logicalLines quoting gathered (physicalLines (encode (line ++ '\n' :: rest))) =
      logicalLines next (gathered ++ line ++ ['\n']) (physicalLines (encode rest)) := by
  have noComment := (opens.extend ['\n']).isComment_eq
  rw [physicalLines_encode oneLine, logicalLines, decodeLine_encode]
  simp only [noComment, scanned, Bool.false_eq_true, if_false, List.append_assoc]

/-- A physical line that leaves nothing open ends the logical line. -/
theorem logicalLines_finish {quoting : Quoting} {gathered line : List Char}
    (oneLine : '\n' ∉ line) (opens : Opens (gathered ++ line))
    (scanned : scanLine quoting (line ++ ['\n']) = .quoting .plain) (rest : List Char) :
    logicalLines quoting gathered (physicalLines (encode (line ++ '\n' :: rest))) =
      (dropLineBreak (gathered ++ line ++ ['\n']) ::
          (logicalLines .plain [] (physicalLines (encode rest))).1,
        (logicalLines .plain [] (physicalLines (encode rest))).2) := by
  have noComment := (opens.extend ['\n']).isComment_eq
  rw [physicalLines_encode oneLine, logicalLines, decodeLine_encode]
  simp only [noComment, scanned, Bool.false_eq_true, if_false, List.append_assoc]

end WorkerSettings.EnvFile
