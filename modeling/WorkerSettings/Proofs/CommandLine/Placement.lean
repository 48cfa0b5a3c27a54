import WorkerSettings.Proofs.CommandLine.Options
import WorkerSettings.Proofs.CommandLine.Run

/-!
# Where the flags of a line stand

The options for the identity may stand on either side of the subcommand, in any order, among
the options of the subcommand and in either spelling. A line is laid out here with every one of
these choices, and what it asks for depends on none of them: it is the command of its subcommand
and the values of its options. An option that stands on both sides has the value from behind the
subcommand, so which side it is on makes no difference only for an option that stands there once.
-/

namespace WorkerSettings.CommandLine

/-- A subcommand, with the option for the format where it is given. -/
inductive Subcommand
  | render (format : Option FormatOption)
  | check

namespace Subcommand

def word : Subcommand → String
  | .render _ => "show"
  | .check => "check"

def side : Subcommand → Side
  | .render _ => .afterShow
  | .check => .afterCheck

def uses : Subcommand → List Use
  | .render format => format.toList.map .format
  | .check => []

/-- The command that is asked for. JSON is shown where no format is given. -/
def command : Subcommand → Command
  | .render none => .render .json
  | .render (some option) => .render option.format
  | .check => .check

end Subcommand

/-- A line of a subcommand and flags: those before the subcommand, and those behind it, which
stand before and after the option of its own. -/
structure Line where
  front : List Flag
  subcommand : Subcommand
  middle : List Flag
  back : List Flag

namespace Line

def usesBefore (line : Line) : List Use :=
  line.front.map .flag

def usesAfter (line : Line) : List Use :=
  line.middle.map .flag ++ line.subcommand.uses ++ line.back.map .flag

def arguments (line : Line) : List String :=
  line.usesBefore.flatMap Use.arguments ++
    line.subcommand.word :: line.usesAfter.flatMap Use.arguments

def values (line : Line) (option : OptionName) : List String :=
  valuesOf option (line.usesBefore ++ line.usesAfter)

end Line

theorem valuesOf_format_flags (flags : List Flag) : valuesOf .format (flags.map .flag) = [] := by
  rw [valuesOf, List.filterMap_map, List.filterMap_eq_nil_iff]
  intro flag _
  exact if_neg (identityOption_ne_format flag.field)

theorem fits_flags (side : Side) (flags : List Flag) :
    ∀ use ∈ flags.map Use.flag, use.Fits side := by
  intro use member
  obtain ⟨flag, _, rfl⟩ := List.mem_map.mp member
  trivial

theorem Subcommand.fits_uses (subcommand : Subcommand) :
    ∀ use ∈ subcommand.uses, use.Fits subcommand.side := by
  intro use member
  cases subcommand with
  | render format =>
    obtain ⟨option, _, rfl⟩ := List.mem_map.mp member
    rfl
  | check => cases member

theorem Line.fits_usesAfter (line : Line) :
    ∀ use ∈ line.usesAfter, use.Fits line.subcommand.side := by
  intro use member
  rcases List.mem_append.mp member with member | back
  · rcases List.mem_append.mp member with middle | own
    · exact fits_flags _ line.middle use middle
    · exact line.subcommand.fits_uses use own
  · exact fits_flags _ line.back use back

theorem Line.valuesOf_format (line : Line) :
    valuesOf .format line.usesAfter = valuesOf .format line.subcommand.uses := by
  rw [usesAfter, valuesOf_append, valuesOf_append, valuesOf_format_flags, valuesOf_format_flags,
    List.nil_append, List.append_nil]

theorem Subcommand.format_once (subcommand : Subcommand) :
    (valuesOf .format subcommand.uses).length ≤ 1 := by
  cases subcommand with
  | check => exact Nat.zero_le 1
  | render format =>
    cases format with
    | none => exact Nat.zero_le 1
    | some option => exact Nat.le_refl 1

/-- The subcommand ends the side before it, unless an option waits for its value. -/
theorem readSide_subcommand {given : Given} (idle : given.waiting? = none)
    (subcommand : Subcommand) (arguments : List String) :
    readSide .before given (subcommand.word :: arguments) =
      .ok (given, some (subcommand.side, arguments)) := by
  have plain : subcommand.word.toList.head? ≠ some '-' := by
    cases subcommand with
    | render _ => exact (by decide : "show".toList.head? ≠ some '-')
    | check => decide
  have known : subcommand? subcommand.word = some subcommand.side := by
    cases subcommand <;> rfl
  conv_lhs => unfold readSide
  simp only [Token.ofArgument_word plain, idle, known]

/-- The format that is settled behind the subcommand is the one of its own option. -/
theorem Line.commandOf_eq (line : Line) :
    commandOf line.subcommand.side { values := (line.usesAfter.map Use.entry).reverse } =
      line.subcommand.command := by
  have settled := lookup_entries .format line.usesAfter
  rw [line.valuesOf_format] at settled
  cases subcommand : line.subcommand with
  | check => rfl
  | render format =>
    rw [subcommand] at settled
    change Command.render (((List.lookup OptionName.format _).bind format?).getD .json) = _
    rw [settled]
    cases format with
    | none => rfl
    | some option =>
      have named : (valuesOf .format [Use.format option]).getLast?.bind format? =
          some option.format := format?_formatName option.format
      exact congrArg (fun format => Command.render (format.getD .json)) named

/-- Where no option is used twice on one side, the last use of an option on the line decides. -/
theorem Line.parse_last {line : Line}
    (onceBefore : ∀ option, (valuesOf option line.usesBefore).length ≤ 1)
    (onceAfter : ∀ option, (valuesOf option line.usesAfter).length ≤ 1) :
    parse line.arguments = .ok {
      workerName := (line.values .workerName).getLast?
      workerVersion := (line.values .workerVersion).getLast?
      command := line.subcommand.command } := by
  obtain ⟨before, holdsBefore, readBefore⟩ :=
    settles_uses (fits_flags .before line.front) onceBefore .nothing Given.holds_nothing
  obtain ⟨after, holdsAfter, readAfter⟩ :=
    settles_uses line.fits_usesAfter onceAfter .nothing Given.holds_nothing
  have subcommandRead := readSide_subcommand holdsBefore.idle line.subcommand
    (line.usesAfter.flatMap Use.arguments)
  have afterRead : readSide line.subcommand.side .nothing
      (line.usesAfter.flatMap Use.arguments) = .ok (after, none) := by
    rw [← List.append_nil (line.usesAfter.flatMap Use.arguments), readAfter, readSide]
  have lastValue (option : OptionName) : (line.values option).getLast? =
      ((valuesOf option line.usesAfter).getLast?).or (valuesOf option line.usesBefore).getLast? := by
    rw [values, valuesOf_append, List.getLast?_append]
  rw [parse, arguments, usesBefore, readBefore, subcommandRead, lastValue, lastValue,
    ← line.commandOf_eq]
  simp only [bind, Except.bind, afterRead, holdsAfter.closed, holdsBefore.closed, Given.value?,
    lookup_entries]
  rfl

theorem answer_of_identity {arguments : List String} {invocation : Invocation}
    {identity : Identity} (parsed : parse arguments = .ok invocation)
    (settled : invocation.identity = .ok identity) (env : Environment) (found : EnvFile.Search) :
    answer arguments env found = invocation.command.outcome identity env found := by
  rw [answer_of_parse parsed, run_of_identity settled]

theorem answerWith_of_fault {m : Type → Type} [Monad m] {arguments : List String}
    {invocation : Invocation} {fault : Fault} (parsed : parse arguments = .ok invocation)
    (failed : invocation.identity = .error fault) (env : Environment)
    (find : m EnvFile.Search) :
    answerWith arguments env find = pure (.ofReport (.ofFault fault)) := by
  rw [answerWith, parsed]
  exact runWith_of_fault failed env find

theorem Line.parse_arguments {line : Line} {name version : Option String}
    (nameGiven : line.values .workerName = name.toList)
    (versionGiven : line.values .workerVersion = version.toList) :
    parse line.arguments = .ok {
      workerName := name
      workerVersion := version
      command := line.subcommand.command } := by
  -- Once on the whole line is once on either side, and the format has only one place to stand.
  have once (option : OptionName) :
      (valuesOf option line.usesBefore).length + (valuesOf option line.usesAfter).length ≤ 1 := by
    cases option with
    | workerName =>
      rw [← List.length_append, ← valuesOf_append, ← values, nameGiven]
      exact Option.length_toList_le
    | workerVersion =>
      rw [← List.length_append, ← valuesOf_append, ← values, versionGiven]
      exact Option.length_toList_le
    | format =>
      rw [usesBefore, valuesOf_format_flags, line.valuesOf_format, List.length_nil, Nat.zero_add]
      exact line.subcommand.format_once
  have last := line.parse_last (fun option => Nat.le_trans (Nat.le_add_right _ _) (once option))
    (fun option => Nat.le_trans (Nat.le_add_left _ _) (once option))
  rw [last, nameGiven, versionGiven]
  cases name <;> cases version <;> rfl

/-- A line that gives the name and the version once at most asks for its command with these
values, wherever they stand on it and however they are written. It is run for the identity of
these values, with the tool's own where there is none, and every other line of the same values
and command has the same answer. -/
theorem Line.answer_arranged {line : Line} {name version : Option String}
    (nameGiven : line.values .workerName = name.toList)
    (versionGiven : line.values .workerVersion = version.toList) :
    parse line.arguments = .ok {
      workerName := name
      workerVersion := version
      command := line.subcommand.command } ∧
    (∀ identity, Identity.ofTexts (name.getD packageName) (version.getD packageVersion) =
        .ok identity →
      ∀ env found, answer line.arguments env found =
        line.subcommand.command.outcome identity env found) ∧
    (∀ fault, Identity.ofTexts (name.getD packageName) (version.getD packageVersion) =
        .error fault →
      ∀ (m : Type → Type) [Monad m] env (find : m EnvFile.Search),
        answerWith line.arguments env find = pure (.ofReport (.ofFault fault))) ∧
    ∀ other : Line, other.values .workerName = line.values .workerName →
      other.values .workerVersion = line.values .workerVersion →
      other.subcommand.command = line.subcommand.command →
      ∀ (m : Type → Type) [Monad m] env (find : m EnvFile.Search),
        answerWith other.arguments env find = answerWith line.arguments env find := by
  have parsed := parse_arguments nameGiven versionGiven
  refine ⟨parsed, ?_, ?_, ?_⟩
  · intro identity settled env found
    exact answer_of_identity parsed settled env found
  · intro fault failed m _ env find
    exact answerWith_of_fault parsed failed env find
  · intro other sameName sameVersion sameCommand m _ env find
    have parsedOther := other.parse_arguments (sameName.trans nameGiven)
      (sameVersion.trans versionGiven)
    rw [answerWith, answerWith, parsed, parsedOther, sameCommand]

/-- A line whose values are the words of the subcommands. -/
def misleadingLine : Line where
  front := [{ field := .version, value := "show", spelling := .separate }]
  subcommand := .render (some { format := .text, spelling := .attached })
  middle := []
  back := [{ field := .name, value := "check", spelling := .separate }]

def rearrangedLine : Line where
  front := []
  subcommand := .render (some { format := .text, spelling := .long .separate })
  middle := [{ field := .name, value := "check", spelling := .joined }]
  back := [{ field := .version, value := "show", spelling := .joined }]

theorem Line.answer_arranged_misleading :
    parse ["--worker-version", "show", "show", "-ftext", "--worker-name", "check"] =
      .ok { workerName := some "check", workerVersion := some "show", command := .render .text } ∧
    answer ["--worker-version", "show", "show", "-ftext", "--worker-name", "check"] .empty (.ok none) =
      (Command.render .text).outcome
        { name := "check", version := "show", name_filled := by rfl, version_filled := by rfl }
        .empty (.ok none) ∧
    answerWith ["show", "--worker-name=check", "--format", "text", "--worker-version=show"] .empty
        (none : Option EnvFile.Search) =
      answerWith ["--worker-version", "show", "show", "-ftext", "--worker-name", "check"] .empty
        none := by
  have name : misleadingLine.values .workerName = (some "check").toList := rfl
  have version : misleadingLine.values .workerVersion = (some "show").toList := rfl
  obtain ⟨parsed, answered, _, same⟩ := Line.answer_arranged name version
  exact ⟨parsed, answered _ rfl .empty (.ok none),
    same rearrangedLine rfl rfl rfl Option .empty none⟩

end WorkerSettings.CommandLine
