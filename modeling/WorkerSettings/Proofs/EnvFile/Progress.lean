import Mathlib.Data.List.TakeWhile
import WorkerSettings.FileTree
import WorkerSettings.Layers

/-!
# The effect of loading an environment file

A file is loaded line by line, and each assignment changes the environment that the next
lines see: `Progress` is such a load with the assignments that it has yielded so far, each
with the value that it had when its line was reached. What holds at every stage is
`FirstWins`: a variable that had a text keeps its value, any other that was assigned has
its first value, and the rest are as they were. The loader of whole documents ends where
the loader of lines does, with the same environment and the same verdict.
-/

namespace WorkerSettings

theorem fromUTF8?_toUTF8 (s : String) : String.fromUTF8? s.toUTF8 = some s := by
  simp [String.fromUTF8?, String.fromUTF8, s.isValidUTF8]

namespace Environment

def HasText (env : Environment) (name : String) : Prop :=
  ∃ text, (env.value? name).bind String.fromUTF8? = some text

/-- Two environments agree on whether a variable has a text if they agree on its value. -/
theorem hasText_congr {env env' : Environment} {name : String}
    (same : env.value? name = env'.value? name) : env.HasText name ↔ env'.HasText name := by
  rw [HasText, HasText, same]

theorem hasText_iff {env : Environment} {name : String} (plain : '=' ∉ name.toList) :
    env.HasText name ↔ (env.text? name).isSome = true := by
  rw [text?_eq env plain, Option.isSome_iff_exists]
  rfl

theorem hasText_of_value? {env : Environment} {name text : String}
    (value : env.value? name = some text.toUTF8) : env.HasText name := by
  refine ⟨text, ?_⟩
  rw [value, Option.bind_some, fromUTF8?_toUTF8]

end Environment

theorem mem_of_lookup {pairs : List (String × String)} {name value : String}
    (found : pairs.lookup name = some value) : (name, value) ∈ pairs := by
  obtain ⟨earlier, later, rfl, _⟩ := List.lookup_eq_some_iff.mp found
  exact List.mem_append_right earlier List.mem_cons_self

namespace EnvFile

/-- How an environment comes out of assignments with their values: what had a text keeps its
value, any other name has its first value, and no name is touched that is not assigned. -/
structure FirstWins (before : Environment) (assigned : List (String × String))
    (after : Environment) : Prop where
  kept : ∀ name, before.HasText name → after.value? name = before.value? name
  first : ∀ name value, ¬ before.HasText name → assigned.lookup name = some value →
    after.value? name = some value.toUTF8
  other : ∀ name, assigned.lookup name = none → after.value? name = before.value? name

theorem FirstWins.start (env : Environment) : FirstWins env [] env where
  kept _ _ := rfl
  first _ _ _ found := by cases found
  other _ _ := rfl

/-- A name that was assigned has a text, whatever it had before. -/
theorem FirstWins.hasText {before after : Environment} {assigned : List (String × String)}
    (wins : FirstWins before assigned after) {name value : String}
    (found : assigned.lookup name = some value) : after.HasText name := by
  by_cases had : before.HasText name
  · exact (Environment.hasText_congr (wins.kept name had)).mpr had
  · exact Environment.hasText_of_value? (wins.first name value had found)

theorem lookup_append_singleton (assigned : List (String × String)) (name other value : String) :
    (assigned ++ [(name, value)]).lookup other =
      (assigned.lookup other).or (if other = name then some value else none) := by
  rw [List.lookup_append, List.lookup_cons, List.lookup_nil]
  by_cases same : other = name
  · simp [same]
  · have differs : (other == name) = false := by simp [same]
    simp [same, differs]

/-- An assignment to a name that has a text is yielded and changes nothing. -/
theorem FirstWins.keep {before after : Environment} {assigned : List (String × String)}
    (wins : FirstWins before assigned after) {name : String} (value : String)
    (has : after.HasText name) : FirstWins before (assigned ++ [(name, value)]) after where
  kept := wins.kept
  first other text fresh found := by
    rw [lookup_append_singleton] at found
    cases earlier : assigned.lookup other with
    | some first =>
      rw [earlier, Option.some_or] at found
      exact wins.first other text fresh (earlier.trans found)
    | none =>
      rw [earlier, Option.none_or] at found
      split at found
      · rename_i same
        subst same
        exact (fresh ((Environment.hasText_congr (wins.other other earlier)).mp has)).elim
      · cases found
  other other missing := by
    rw [lookup_append_singleton, Option.or_eq_none_iff] at missing
    exact wins.other other missing.1

/-- An assignment to a name without a text sets it, and is the first one to it. -/
theorem FirstWins.set {before after : Environment} {assigned : List (String × String)}
    (wins : FirstWins before assigned after) {name : String} (value : String)
    (hasNot : ¬ after.HasText name) :
    FirstWins before (assigned ++ [(name, value)]) (after.set name value.toUTF8) := by
  have fresh : assigned.lookup name = none := by
    cases earlier : assigned.lookup name with
    | none => rfl
    | some first => exact (hasNot (wins.hasText earlier)).elim
  have hadNot : ¬ before.HasText name := fun had =>
    hasNot ((Environment.hasText_congr (wins.kept name had)).mpr had)
  refine ⟨?_, ?_, ?_⟩
  · intro other had
    have ne : other ≠ name := fun same => hadNot (same ▸ had)
    rw [Environment.value?_set_of_ne after _ ne]
    exact wins.kept other had
  · intro other text otherHadNot found
    rw [lookup_append_singleton] at found
    by_cases same : other = name
    · subst same
      rw [fresh, Option.none_or, if_pos rfl] at found
      cases found
      exact Environment.value?_set_self after other _
    · rw [if_neg same, Option.or_none] at found
      rw [Environment.value?_set_of_ne after _ same]
      exact wins.first other text otherHadNot found
  · intro other missing
    rw [lookup_append_singleton, Option.or_eq_none_iff] at missing
    have ne : other ≠ name := by
      intro same
      rw [if_pos same] at missing
      cases missing.2
    rw [Environment.value?_set_of_ne after _ ne]
    exact wins.other other missing.1

/-- Where no assigned name had a text before, each has its first value, and any other name has
what it had. -/
theorem FirstWins.text?_eq {before after : Environment} {assigned : List (String × String)}
    (wins : FirstWins before assigned after)
    (fresh : ∀ pair ∈ assigned, ¬ before.HasText pair.1) {name : String}
    (plain : '=' ∉ name.toList) :
    after.text? name = (assigned.lookup name).or (before.text? name) := by
  rw [Environment.text?_eq after plain, Environment.text?_eq before plain]
  cases found : assigned.lookup name with
  | none => rw [wins.other name found, Option.none_or]
  | some value =>
    have hadNot := fresh (name, value) (mem_of_lookup found)
    rw [wins.first name value hadNot found, Option.bind_some, fromUTF8?_toUTF8, Option.some_or]

/-- A load in progress: the environment, and the assignments so far with their values. -/
structure Progress where
  environment : Environment
  assigned : List (String × String)

namespace Progress

/-- What a reference stands for: the text of the variable, else the last value that the file
has given it. -/
def text? (progress : Progress) (name : String) : Option String :=
  (progress.environment.text? name).or (progress.assigned.reverse.lookup name)

/-- Yield an assignment with its value, and set its variable unless that has a text. -/
def take (progress : Progress) (assignment : Assignment) : Progress :=
  let value := assignment.value.expand progress.text?
  { environment :=
      match progress.environment.text? assignment.name with
      | some _ => progress.environment
      | none => progress.environment.set assignment.name value.toUTF8
    assigned := progress.assigned ++ [(assignment.name, value)] }

def run (progress : Progress) (ending : Ending) : List (List Char) → Progress × Ending
  | [] => (progress, ending)
  | line :: lines =>
    match Assignment.ofLine line with
    | .error position => (progress, .malformed position)
    | .ok none => progress.run ending lines
    | .ok (some assignment) => (progress.take assignment).run ending lines

def ofFile (env : Environment) (contents : ByteArray) : Progress × Ending :=
  let (lines, ending) :=
    logicalLines .plain [] (physicalLines (Document.dropMark contents.data.toList))
  run { environment := env, assigned := [] } ending lines

/-- What holds throughout a load into `before`. -/
structure Sound (before : Environment) (progress : Progress) : Prop where
  plain : ∀ pair ∈ progress.assigned, '=' ∉ pair.1.toList
  wins : FirstWins before progress.assigned progress.environment

theorem Sound.start (env : Environment) : Sound env { environment := env, assigned := [] } where
  plain _ member := by cases member
  wins := .start env

/-- Every name that the file has given a value has a text, so no reference gets as far as
that value. -/
theorem Sound.text?_eq {before : Environment} {progress : Progress}
    (sound : progress.Sound before) : progress.text? = progress.environment.text? := by
  funext name
  rw [text?]
  cases found : progress.environment.text? name with
  | some text => rfl
  | none =>
    rw [Option.none_or, List.lookup_eq_none_iff]
    intro pair member
    rw [List.mem_reverse] at member
    have plain := sound.plain pair member
    rw [bne_iff_ne]
    rintro rfl
    obtain ⟨first, earlier⟩ := Option.isSome_iff_exists.mp
      (List.lookup_isSome_iff.mpr ⟨pair, member, beq_self_eq_true _⟩)
    have has := (Environment.hasText_iff plain).mp (sound.wins.hasText earlier)
    rw [found] at has
    cases has

theorem take_environment {before : Environment} {progress : Progress}
    (sound : progress.Sound before) (assignment : Assignment) :
    (progress.take assignment).environment = assign progress.environment assignment := by
  cases found : progress.environment.text? assignment.name with
  | some text => simp only [take, assign, found]
  | none => simp only [take, assign, found, sound.text?_eq]

theorem Sound.take {before : Environment} {progress : Progress}
    (sound : progress.Sound before) {assignment : Assignment}
    (plain : '=' ∉ assignment.name.toList) : (progress.take assignment).Sound before where
  plain pair member := by
    rw [Progress.take, List.mem_append, List.mem_singleton] at member
    rcases member with member | rfl
    · exact sound.plain pair member
    · exact plain
  wins := by
    rw [Progress.take]
    cases found : progress.environment.text? assignment.name with
    | some text =>
      refine sound.wins.keep _ ((Environment.hasText_iff plain).mpr ?_)
      rw [found]
      rfl
    | none =>
      refine sound.wins.set _ fun has => ?_
      have some := (Environment.hasText_iff plain).mp has
      rw [found] at some
      cases some

end Progress

theorem plain_of_readName {cs name rest : List Char}
    (read : Assignment.readName cs = .ok (name, rest)) : '=' ∉ name := by
  unfold Assignment.readName at read
  split at read
  · cases read
  · split at read
    · rename_i start
      cases read
      rw [List.mem_cons, not_or]
      constructor
      · rintro rfl
        cases start
      · intro member
        cases List.mem_takeWhile_imp member
    · cases read

theorem plain_of_readTarget {cs name rest : List Char}
    (read : Assignment.readTarget cs = .ok (name, rest)) : '=' ∉ name := by
  simp only [Assignment.readTarget, bind, Except.bind] at read
  split at read
  · cases read
  · rename_i first
    split at read
    · cases read
      exact plain_of_readName first
    · split at read
      · split at read
        · cases read
        · rename_i second
          split at read
          · cases read
          · cases read
            exact plain_of_readName second
      · cases read

/-- No name that a line assigns holds an equals sign. -/
theorem plain_of_ofLine {line : List Char} {assignment : Assignment}
    (parsed : Assignment.ofLine line = .ok (some assignment)) :
    '=' ∉ assignment.name.toList := by
  simp only [Assignment.ofLine] at parsed
  split at parsed
  · cases parsed
  · split at parsed
    · cases parsed
    · rename_i target
      have plain := plain_of_readTarget target
      split at parsed
      · cases parsed
        rwa [String.toList_ofList]
      · split at parsed
        · cases parsed
          rwa [String.toList_ofList]
        · cases parsed

namespace Progress

/-- Taking line by line ends where carrying out the document does, and what holds throughout
a load holds at the end. -/
theorem Sound.run {before : Environment} {progress : Progress} (sound : progress.Sound before)
    (ending : Ending) (lines : List (List Char)) :
    (progress.run ending lines).1.Sound before ∧
      (progress.run ending lines).1.environment =
        (Document.ofLines ending lines).apply progress.environment ∧
      (progress.run ending lines).2 = (Document.ofLines ending lines).ending := by
  induction lines generalizing progress with
  | nil => exact ⟨sound, rfl, rfl⟩
  | cons line lines ih =>
    simp only [Progress.run, Document.ofLines]
    cases parsed : Assignment.ofLine line with
    | error position => exact ⟨sound, rfl, rfl⟩
    | ok assignment? =>
      cases assignment? with
      | none => exact ih sound
      | some assignment =>
        obtain ⟨sound', environment, ending⟩ := ih (sound.take (plain_of_ofLine parsed))
        refine ⟨sound', ?_, ending⟩
        rw [environment, take_environment sound]
        rfl

/-- A load line by line ends where carrying out the document of the file does. -/
theorem ofFile_document (env : Environment) (contents : ByteArray) :
    (ofFile env contents).1.environment = (Document.ofBytes contents).apply env ∧
      (ofFile env contents).2 = (Document.ofBytes contents).ending :=
  ((Sound.start env).run _ _).2

theorem names_run (progress : Progress) (ending : Ending) (lines : List (List Char)) :
    (progress.run ending lines).1.assigned.map Prod.fst =
      progress.assigned.map Prod.fst ++
        (Document.ofLines ending lines).assignments.map Assignment.name := by
  induction lines generalizing progress with
  | nil => simp [Progress.run, Document.ofLines]
  | cons line lines ih =>
    simp only [Progress.run, Document.ofLines]
    cases Assignment.ofLine line with
    | error position => simp
    | ok assignment? =>
      cases assignment? with
      | none => exact ih progress
      | some assignment => simp [ih, Progress.take]

/-- The names that a load yields are those of the document, in its order. -/
theorem names_ofFile (env : Environment) (contents : ByteArray) :
    (ofFile env contents).1.assigned.map Prod.fst =
      (Document.ofBytes contents).assignments.map Assignment.name :=
  names_run { environment := env, assigned := [] } _ _

theorem sound_ofFile (env : Environment) (contents : ByteArray) :
    (ofFile env contents).1.Sound env :=
  ((Sound.start env).run _ _).1

/-- What a load of a file does to an environment. -/
theorem firstWins_ofFile (env : Environment) (contents : ByteArray) :
    FirstWins env (ofFile env contents).1.assigned (ofFile env contents).1.environment :=
  (sound_ofFile env contents).wins

end Progress

/-- A load is a load line by line, unless it is switched off or finds no file. -/
theorem load_some {env : Environment} (enabled : isDisabled env = false) (contents : ByteArray) :
    load env (.ok (some contents)) =
      ((Progress.ofFile env contents).2.verdict,
        (Progress.ofFile env contents).1.environment) := by
  obtain ⟨environment, ending⟩ := Progress.ofFile_document env contents
  rw [load, enabled, environment, ending]
  rfl

end EnvFile

end WorkerSettings
