import WorkerSettings.Json.Number
import WorkerSettings.Json.Quoted

/-!
# Passing over a value

The value of an unknown key is passed over without being kept: brackets may nest to any
depth, keys may repeat, code units need not pair up, and a number may be too large for
any binary fraction. It still has to be JSON.
-/

namespace WorkerSettings.Json

inductive Bracket
  | list
  | object

def Bracket.closer : Bracket → Char
  | .list => ']'
  | .object => '\x7d'

/-- Pass over a word, a string or a number at the start of the text. -/
def skipAtom (cs : List Char) : Except Rejection (List Char) :=
  match cs with
  | 'n' :: rest => readWord "ull".toList rest
  | 't' :: rest => readWord "rue".toList rest
  | 'f' :: rest => readWord "alse".toList rest
  | '"' :: rest => skipString rest
  | c :: rest => if c = '-' ∨ c.isDigit then skipNumber (c :: rest) else .error .malformed
  | [] => .error .truncated

theorem skipAtom_length_lt {cs rest : List Char} (read : skipAtom cs = .ok rest) :
    rest.length < cs.length := by
  unfold skipAtom at read
  split at read
  · exact Nat.lt_succ_of_le (readWord_length_le read)
  · exact Nat.lt_succ_of_le (readWord_length_le read)
  · exact Nat.lt_succ_of_le (readWord_length_le read)
  · exact Nat.lt_succ_of_lt (skipString_length_lt read)
  · split at read
    · exact skipNumber_length_lt read
    · cases read
  · cases read

-- The matches are named for the bounds under `decreasing_by`; not every branch needs them.
set_option linter.unusedVariables false in
mutual

/-- Pass over a value and then, outwards, over what is left between the brackets `around`
it, the innermost first. -/
def skipWithin (around : List Bracket) (cs : List Char) : Except Rejection (List Char) :=
  match start : dropBlanks cs with
  | [] => .error .truncated
  | '[' :: rest =>
    match first : dropBlanks rest with
    | [] => .error .truncated
    | ']' :: after => skipAfter around after
    | _ :: _ => skipWithin (.list :: around) rest
  | '\x7b' :: rest =>
    match first : dropBlanks rest with
    | [] => .error .truncated
    | '\x7d' :: after => skipAfter around after
    | _ :: _ => skipMember around rest
  | c :: rest =>
    match atom : skipAtom (c :: rest) with
    | .ok after => skipAfter around after
    | .error rejection => .error rejection
termination_by (cs.length, 1)
decreasing_by
  · have := length_lt_of_dropBlanks start
    have := length_lt_of_dropBlanks first
    exact .left _ _ (by omega)
  · exact .left _ _ (length_lt_of_dropBlanks start)
  · have := length_lt_of_dropBlanks start
    have := length_lt_of_dropBlanks first
    exact .left _ _ (by omega)
  · exact .left _ _ (length_lt_of_dropBlanks start)
  · have bound := dropBlanks_length_le cs
    have := skipAtom_length_lt atom
    rw [start] at bound
    exact .left _ _ (by omega)

/-- Pass over a member of an object inside the brackets `around` it, and then outwards. -/
def skipMember (around : List Bracket) (cs : List Char) : Except Rejection (List Char) :=
  match start : dropBlanks cs with
  | [] => .error .truncated
  | '"' :: rest =>
    match key : skipString rest with
    | .error rejection => .error rejection
    | .ok afterKey =>
      match colon : dropBlanks afterKey with
      | [] => .error .truncated
      | ':' :: after => skipWithin (.object :: around) after
      | _ :: _ => .error .malformed
  | _ :: _ => .error .malformed
termination_by (cs.length, 1)
decreasing_by
  have := length_lt_of_dropBlanks start
  have := skipString_length_lt key
  have := length_lt_of_dropBlanks colon
  exact .left _ _ (by omega)

/-- After a value, pass over what is left between the brackets `around` it. -/
def skipAfter (around : List Bracket) (cs : List Char) : Except Rejection (List Char) :=
  match around with
  | [] => .ok cs
  | bracket :: outer =>
    match start : dropBlanks cs with
    | [] => .error .truncated
    | c :: rest =>
      if c = ',' then
        match bracket with
        | .list => skipWithin (.list :: outer) rest
        | .object => skipMember outer rest
      else if c = bracket.closer then
        skipAfter outer rest
      else
        .error .malformed
termination_by (cs.length, 0)
decreasing_by
  all_goals exact .left _ _ (length_lt_of_dropBlanks start)

end

theorem skipWithin_step (around : List Bracket) (cs : List Char) :
    skipWithin around cs =
      match dropBlanks cs with
      | [] => .error .truncated
      | '[' :: rest =>
        match dropBlanks rest with
        | [] => .error .truncated
        | ']' :: after => skipAfter around after
        | _ :: _ => skipWithin (.list :: around) rest
      | '\x7b' :: rest =>
        match dropBlanks rest with
        | [] => .error .truncated
        | '\x7d' :: after => skipAfter around after
        | _ :: _ => skipMember around rest
      | c :: rest =>
        match skipAtom (c :: rest) with
        | .ok after => skipAfter around after
        | .error rejection => .error rejection := by
  rw [skipWithin.eq_def]
  split <;> simp [*]
  all_goals split <;> simp [*]

theorem skipMember_step (around : List Bracket) (cs : List Char) :
    skipMember around cs =
      match dropBlanks cs with
      | [] => .error .truncated
      | '"' :: rest =>
        match skipString rest with
        | .error rejection => .error rejection
        | .ok afterKey =>
          match dropBlanks afterKey with
          | [] => .error .truncated
          | ':' :: after => skipWithin (.object :: around) after
          | _ :: _ => .error .malformed
      | _ :: _ => .error .malformed := by
  rw [skipMember.eq_def]
  split <;> simp [*]
  split <;> simp [*]
  split <;> simp [*]

theorem skipAfter_step (bracket : Bracket) (outer : List Bracket) (cs : List Char) :
    skipAfter (bracket :: outer) cs =
      match dropBlanks cs with
      | [] => .error .truncated
      | c :: rest =>
        if c = ',' then
          match bracket with
          | .list => skipWithin (.list :: outer) rest
          | .object => skipMember outer rest
        else if c = bracket.closer then
          skipAfter outer rest
        else
          .error .malformed := by
  rw [skipAfter.eq_def]
  simp only
  split <;> simp only [*]

@[simp] theorem skipAfter_nil (cs : List Char) : skipAfter [] cs = .ok cs := by
  rw [skipAfter.eq_def]

theorem skipWithin_length_lt {around : List Bracket} {cs rest : List Char}
    (read : skipWithin around cs = .ok rest) : rest.length < cs.length := by
  revert rest
  apply skipWithin.induct
    (fun around cs => ∀ {rest}, skipWithin around cs = .ok rest → rest.length < cs.length)
    (fun around cs => ∀ {rest}, skipMember around cs = .ok rest → rest.length < cs.length)
    (fun around cs => ∀ {rest}, skipAfter around cs = .ok rest → rest.length ≤ cs.length)
  all_goals intros
  all_goals rename_i read
  all_goals first
    | rw [skipWithin_step] at read
    | rw [skipMember_step] at read
    | rw [skipAfter_step] at read
    | rw [skipAfter_nil] at read
  all_goals
    grind [length_lt_of_dropBlanks, dropBlanks_length_le, → skipAtom_length_lt,
      → skipString_length_lt]

def skipValue (cs : List Char) : Except Rejection (List Char) :=
  skipWithin [] cs

theorem skipValue_length_lt {cs rest : List Char} (read : skipValue cs = .ok rest) :
    rest.length < cs.length :=
  skipWithin_length_lt read

end WorkerSettings.Json
