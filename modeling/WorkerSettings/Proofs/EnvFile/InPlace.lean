import WorkerSettings.Proofs.EnvFile.Progress

/-!
# Values read in place

A value can also be read in one go: each reference is replaced as soon as it ends, so the text of
a variable is put among characters that were read, and reading goes on behind the reference. The
text that was put in is never read itself. In every mode and at every index, reading in place is
reading the template of the rest and expanding it, and so it stops at the same character with the
same flaw, whatever the variables hold. Loading a file by lines that are read in place is loading
it by their assignments.
-/

namespace WorkerSettings.EnvFile

namespace Template

/-- Read the rest of a value in place, where `sofar` is what came before it. -/
def readInPlace (text? : String → Option String) (mode : Mode) (sofar : String) (index : Nat) :
    List Char → Except Flaw String
  | [] =>
    match mode.finish? with
    | some pieces => .ok (sofar ++ expand text? pieces)
    | none => .error .unterminated
  | c :: cs =>
    match mode.step c with
    | .go pieces next => readInPlace text? next (sofar ++ expand text? pieces) (index + 1) cs
    | .stop => .ok sofar
    | .refuse => .error (.character index)

def parseInPlace (text? : String → Option String) (cs : List Char) : Except Nat String :=
  match readInPlace text? .plain "" 0 cs with
  | .ok value => .ok value
  | .error (.character index) => .error index
  | .error .unterminated => .error (Text.byteLength cs - 1)

variable (text? : String → Option String)

@[simp] theorem expand_nil : expand text? [] = "" := rfl

theorem expand_append (first second : Template) :
    expand text? (first ++ second) = expand text? first ++ expand text? second := by
  rw [expand, List.flatMap_append, String.ofList_append, expand, expand]

theorem readInPlace_eq (mode : Mode) (sofar : String) (index : Nat) (cs : List Char) :
    readInPlace text? mode sofar index cs =
      (read mode index cs).map (sofar ++ expand text? ·) := by
  induction cs generalizing mode sofar index with
  | nil =>
    rw [readInPlace, read]
    cases mode.finish? <;> rfl
  | cons c cs ih =>
    rw [readInPlace, read]
    cases mode.step c with
    | go pieces next =>
      simp only [ih]
      cases read next (index + 1) cs with
      | error flaw => rfl
      | ok rest => simp only [Except.map, expand_append, String.append_assoc]
    | stop => simp only [Except.map, expand_nil, String.append_empty]
    | refuse => rfl

theorem parseInPlace_eq (cs : List Char) :
    parseInPlace text? cs = (parse cs).map (expand text?) := by
  rw [parseInPlace, parse, readInPlace_eq]
  cases read .plain 0 cs with
  | ok template => simp only [Except.map, String.empty_append]
  | error flaw => cases flaw <;> rfl

end Template

namespace Assignment

def ofLineInPlace (text? : String → Option String) (line : List Char) :
    Except Nat (Option (String × String)) :=
  let line := Text.trimEnd line
  let start := Text.trimStart line
  if isVoid start then
    .ok none
  else
    match readTarget start with
    | .error left => .error (Text.byteLength line - Text.byteLength left)
    | .ok (name, rest) =>
      let value := Text.trimStart rest
      if isVoid value then
        .ok (some (String.ofList name, ""))
      else
        match Template.parseInPlace text? value with
        | .ok value => .ok (some (String.ofList name, value))
        | .error position => .error position

def expand (text? : String → Option String) (assignment : Assignment) : String × String :=
  (assignment.name, assignment.value.expand text?)

theorem ofLineInPlace_eq (text? : String → Option String) (line : List Char) :
    ofLineInPlace text? line = (ofLine line).map (Option.map (expand text?)) := by
  simp only [ofLineInPlace, ofLine, Template.parseInPlace_eq]
  split
  · rfl
  · cases readTarget (Text.trimStart (Text.trimEnd line)) with
    | error left => rfl
    | ok target =>
      simp only
      split
      · rfl
      · cases Template.parse (Text.trimStart target.2) <;> rfl

end Assignment

namespace Progress

/-- Yield a name with a value, and set the variable unless it has a text. -/
def yield (progress : Progress) (assigned : String × String) : Progress where
  environment :=
    match progress.environment.text? assigned.1 with
    | some _ => progress.environment
    | none => progress.environment.set assigned.1 assigned.2.toUTF8
  assigned := progress.assigned ++ [assigned]

def runInPlace (progress : Progress) (ending : Ending) : List (List Char) → Progress × Ending
  | [] => (progress, ending)
  | line :: lines =>
    match Assignment.ofLineInPlace progress.text? line with
    | .error position => (progress, .malformed position)
    | .ok none => progress.runInPlace ending lines
    | .ok (some assigned) => (progress.yield assigned).runInPlace ending lines

/-- Load a file into an environment, each line read in place. -/
def ofFileInPlace (env : Environment) (contents : ByteArray) : Progress × Ending :=
  let (lines, ending) :=
    logicalLines .plain [] (physicalLines (Document.dropMark contents.data.toList))
  runInPlace { environment := env, assigned := [] } ending lines

theorem yield_expand (progress : Progress) (assignment : Assignment) :
    progress.yield (assignment.expand progress.text?) = progress.take assignment := rfl

theorem runInPlace_eq (progress : Progress) (ending : Ending) (lines : List (List Char)) :
    progress.runInPlace ending lines = progress.run ending lines := by
  induction lines generalizing progress with
  | nil => rfl
  | cons line lines ih =>
    rw [runInPlace, run, Assignment.ofLineInPlace_eq]
    cases Assignment.ofLine line with
    | error position => rfl
    | ok assignment? =>
      cases assignment? with
      | none => exact ih progress
      | some assignment =>
        simp only [Except.map, Option.map_some, yield_expand, ih]

theorem ofFileInPlace_eq (env : Environment) (contents : ByteArray) :
    ofFileInPlace env contents = ofFile env contents :=
  runInPlace_eq _ _ _

end Progress

end WorkerSettings.EnvFile
