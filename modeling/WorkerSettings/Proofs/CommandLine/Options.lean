import Mathlib.Data.List.Induction
import Mathlib.Data.List.TakeWhile
import WorkerSettings.CommandLine.Arguments

/-!
# Options as they stand on a line

An option can be written with a long name or, the format, with a short one, and its value is the
next argument or part of the one that has the name. Reading does not tell these spellings apart:
each of them settles the same value on its side, whatever follows. What a run of options settles
is then known from the options alone, if none of them stands there twice.
-/

namespace WorkerSettings.CommandLine

/-- Where the value of an option stands. -/
inductive Spelling
  /-- It is the argument after the name. -/
  | separate
  /-- It is behind the name and an equals sign. -/
  | joined
  deriving DecidableEq

def OptionName.long : OptionName → String
  | .workerName => "worker-name"
  | .workerVersion => "worker-version"
  | .format => "format"

def OptionName.arguments (option : OptionName) (value : String) : Spelling → List String
  | .separate => ["--" ++ option.long, value]
  | .joined => ["--" ++ option.long ++ "=" ++ value]

def identityOption : IdentityField → OptionName
  | .name => .workerName
  | .version => .workerVersion

theorem identityOption_ne_format (field : IdentityField) : identityOption field ≠ .format := by
  cases field <;> decide

/-- An option for the identity. A value that is an argument of its own may not start with a
hyphen. -/
structure Flag where
  field : IdentityField
  value : String
  spelling : Spelling
  plain : spelling = .separate → value.toList.head? ≠ some '-' := by decide

inductive FormatSpelling
  | long (spelling : Spelling)
  | short (spelling : Spelling)
  /-- The value is right behind the short name. -/
  | attached

structure FormatOption where
  format : OutputFormat
  spelling : FormatSpelling

def formatName : OutputFormat → String
  | .json => "json"
  | .text => "text"

def FormatOption.arguments (option : FormatOption) : List String :=
  match option.spelling with
  | .long spelling => OptionName.format.arguments (formatName option.format) spelling
  | .short .separate => ["-f", formatName option.format]
  | .short .joined => ["-f=" ++ formatName option.format]
  | .attached => ["-f" ++ formatName option.format]

/-- An option with its value, as it stands on a line. -/
inductive Use
  | flag (flag : Flag)
  | format (option : FormatOption)

namespace Use

def option : Use → OptionName
  | .flag written => identityOption written.field
  | .format _ => .format

def value : Use → String
  | .flag written => written.value
  | .format written => formatName written.format

def arguments : Use → List String
  | .flag written => (identityOption written.field).arguments written.value written.spelling
  | .format written => written.arguments

/-- The side knows the option. The format is for `show` alone. -/
def Fits (side : Side) : Use → Prop
  | .flag _ => True
  | .format _ => side = .afterShow

end Use

/-- The values that uses give an option, in their order. -/
def valuesOf (option : OptionName) (uses : List Use) : List String :=
  uses.filterMap fun use => if use.option = option then some use.value else none

@[simp] theorem valuesOf_append (option : OptionName) (uses more : List Use) :
    valuesOf option (uses ++ more) = valuesOf option uses ++ valuesOf option more :=
  List.filterMap_append

theorem valuesOf_self (use : Use) : valuesOf use.option [use] = [use.value] := by
  simp [valuesOf]

theorem valuesOf_of_ne {option : OptionName} {use : Use} (ne : use.option ≠ option) :
    valuesOf option [use] = [] := by
  simp [valuesOf, ne]

theorem bne_of_not_mem {cs : List Char} {c : Char} (absent : c ∉ cs) :
    ∀ other ∈ cs, (other != c) = true :=
  fun _ member => bne_iff_ne.mpr (ne_of_mem_of_not_mem member absent)

theorem splitValue_bare {name : List Char} (noEquals : '=' ∉ name) :
    splitValue name = (String.ofList name, none) := by
  have all := bne_of_not_mem noEquals
  rw [splitValue, List.takeWhile_eq_self_iff.mpr all, List.dropWhile_eq_nil_iff.mpr all]

/-- The name of a long option ends at the first equals sign, and its value is all that follows. -/
theorem splitValue_joined {name : List Char} (noEquals : '=' ∉ name) (value : List Char) :
    splitValue (name ++ '=' :: value) = (String.ofList name, some (String.ofList value)) := by
  have all := bne_of_not_mem noEquals
  rw [splitValue, List.takeWhile_append_of_pos all, List.dropWhile_append_of_pos all]
  simp

theorem Token.ofArgument_long {argument : String} {first : Char} {rest : List Char}
    (text : argument.toList = '-' :: '-' :: first :: rest) :
    Token.ofArgument argument =
      .long (splitValue (first :: rest)).1 (splitValue (first :: rest)).2 := by
  rw [Token.ofArgument, text]
  rfl

/-- An argument that does not start with a hyphen is a word. -/
theorem Token.ofArgument_word {argument : String} (plain : argument.toList.head? ≠ some '-') :
    Token.ofArgument argument = .word argument := by
  unfold Token.ofArgument
  split
  · rename_i text
    exact (plain (by rw [text]; rfl)).elim
  · rename_i text
    exact (plain (by rw [text]; rfl)).elim
  · rename_i text
    exact (plain (by rw [text]; rfl)).elim
  · rfl

theorem OptionName.exists_long (option : OptionName) :
    ∃ first rest, option.long.toList = first :: rest ∧ '=' ∉ first :: rest := by
  cases option <;> exact ⟨_, _, rfl, by decide⟩

theorem OptionName.ofArgument_bare (option : OptionName) :
    Token.ofArgument ("--" ++ option.long) = .long option.long none := by
  obtain ⟨first, rest, name, noEquals⟩ := option.exists_long
  have text : ("--" ++ option.long).toList = '-' :: '-' :: first :: rest := by
    rw [String.toList_append, name]
    rfl
  rw [Token.ofArgument_long text, splitValue_bare noEquals, ← name, String.ofList_toList]

theorem OptionName.ofArgument_joined (option : OptionName) (value : String) :
    Token.ofArgument ("--" ++ option.long ++ "=" ++ value) = .long option.long (some value) := by
  obtain ⟨first, rest, name, noEquals⟩ := option.exists_long
  have text : ("--" ++ option.long ++ "=" ++ value).toList =
      '-' :: '-' :: first :: (rest ++ '=' :: value.toList) := by
    simp only [String.toList_append, name]
    simp
  rw [Token.ofArgument_long text, ← List.cons_append, splitValue_joined noEquals, ← name,
    String.ofList_toList, String.ofList_toList]

/-- The argument names an option on the side, with a value joined to it or without one: to read
it is to meet the option. -/
def Names (side : Side) (argument : String) (option : OptionName) (joined : Option String) :
    Prop :=
  ∀ given arguments, readSide side given (argument :: arguments) =
    (given.meet option joined).bind fun given => readSide side given arguments

theorem names_of_long {side : Side} {argument name : String} {option : OptionName}
    {joined : Option String} (token : Token.ofArgument argument = .long name joined)
    (noFlag : side.longFlag? name = none) (known : side.long? name = some option) :
    Names side argument option joined := by
  intro given arguments
  -- Its equations tell a last argument from one with more behind it, which does not matter here.
  conv_lhs => unfold readSide
  simp only [token, noFlag, known]
  cases given.meet option joined <;> rfl

theorem names_of_short {side : Side} {argument : String} {name : Char} {rest : List Char}
    {option : OptionName} (token : Token.ofArgument argument = .short name rest)
    (noFlag : side.shortFlag? name = none) (known : side.short? name = some option) :
    Names side argument option (joinedShort rest) := by
  intro given arguments
  conv_lhs => unfold readSide
  simp only [token, noFlag, known]
  cases given.meet option (joinedShort rest) <;> rfl

/-- The next argument is the value of the option that waits for it, if it is a word. -/
theorem readSide_value {side : Side} {option : OptionName} {given : Given} {value : String}
    (waits : given.waiting? = some option) (plain : value.toList.head? ≠ some '-')
    (arguments : List String) :
    readSide side given (value :: arguments) =
      readSide side { given with pending := some (option, some value) } arguments := by
  conv_lhs => unfold readSide
  simp only [Token.ofArgument_word plain, waits]

/-- Between two options: none waits for its value, and these values stand once the last one is
settled. -/
structure Given.Holds (given : Given) (values : List (OptionName × String)) : Prop where
  idle : given.waiting? = none
  closed : given.close = .ok { values }

theorem Given.holds_nothing : Given.nothing.Holds [] :=
  ⟨rfl, rfl⟩

/-- The value can be settled over these: the option has none yet, and a format is one there is. -/
structure Settleable (values : List (OptionName × String)) (option : OptionName)
    (value : String) : Prop where
  fresh : values.lookup option = none
  named : option = .format → (format? value).isSome = true

theorem Settleable.settle {values : List (OptionName × String)} {option : OptionName}
    {value : String} (settleable : Settleable values option value) :
    Given.settle { values } option (some value) = .ok { values := (option, value) :: values } := by
  have unsettled : (({ values } : Given).value? option).isSome = false := by
    rw [Given.value?, settleable.fresh]
    rfl
  have isNamed : ¬ (option = .format ∧ (format? value).isNone = true) := by
    rintro ⟨format, unknown⟩
    have known := settleable.named format
    rw [Option.isNone_iff_eq_none.mp unknown] at known
    cases known
  simp only [Given.settle, unsettled, Bool.false_eq_true, if_false, if_neg isNamed]

/-- Reading the arguments settles further values over those that are settled, whatever follows
the arguments. -/
def Settles (side : Side) (arguments : List String) (values more : List (OptionName × String)) :
    Prop :=
  ∀ given, given.Holds values → ∃ given' : Given, given'.Holds more ∧
    ∀ rest, readSide side given (arguments ++ rest) = readSide side given' rest

namespace Settles

variable {side : Side} {values : List (OptionName × String)} {option : OptionName}
  {argument value : String}

theorem nil (side : Side) (values : List (OptionName × String)) : Settles side [] values values :=
  fun given holds => ⟨given, holds, fun _ => rfl⟩

theorem append {arguments arguments' : List String} {more most : List (OptionName × String)}
    (first : Settles side arguments values more) (second : Settles side arguments' more most) :
    Settles side (arguments ++ arguments') values most := by
  intro given holds
  obtain ⟨middle, holdsMore, readFirst⟩ := first given holds
  obtain ⟨last, holdsMost, readSecond⟩ := second middle holdsMore
  refine ⟨last, holdsMost, fun rest => ?_⟩
  rw [List.append_assoc, readFirst, readSecond]

theorem joined (names : Names side argument option (some value))
    (settleable : Settleable values option value) :
    Settles side [argument] values ((option, value) :: values) := by
  intro given holds
  refine ⟨{ values := (option, value) :: values }, ⟨rfl, rfl⟩, fun rest => ?_⟩
  have met : given.meet option (some value) = .ok { values := (option, value) :: values } := by
    rw [Given.meet, holds.closed]
    exact settleable.settle
  rw [List.singleton_append, names, met]
  rfl

theorem separate (names : Names side argument option none)
    (plain : value.toList.head? ≠ some '-') (settleable : Settleable values option value) :
    Settles side [argument, value] values ((option, value) :: values) := by
  intro given holds
  refine ⟨{ values, pending := some (option, some value) }, ⟨rfl, settleable.settle⟩,
    fun rest => ?_⟩
  have met : given.meet option none = .ok { values, pending := some (option, none) } := by
    rw [Given.meet, holds.closed]
    rfl
  rw [List.cons_append, List.singleton_append, names, met]
  exact readSide_value rfl plain rest

end Settles

/-- No flag has the long name of an option. -/
theorem longFlag?_long (side : Side) (option : OptionName) : side.longFlag? option.long = none := by
  cases option <;> rfl

theorem long?_long {side : Side} {option : OptionName}
    (known : option = .format → side = .afterShow) : side.long? option.long = some option := by
  cases option with
  | workerName => rfl
  | workerVersion => rfl
  | format =>
    rw [known rfl]
    rfl

theorem OptionName.settles_arguments {side : Side} {values : List (OptionName × String)}
    {option : OptionName} {value : String} {spelling : Spelling}
    (known : option = .format → side = .afterShow)
    (plain : spelling = .separate → value.toList.head? ≠ some '-')
    (settleable : Settleable values option value) :
    Settles side (option.arguments value spelling) values ((option, value) :: values) := by
  have noFlag := longFlag?_long side option
  cases spelling with
  | separate =>
    exact .separate (names_of_long option.ofArgument_bare noFlag (long?_long known)) (plain rfl)
      settleable
  | joined =>
    exact .joined (names_of_long (option.ofArgument_joined value) noFlag (long?_long known))
      settleable

theorem format?_formatName (format : OutputFormat) : format? (formatName format) = some format := by
  cases format <;> rfl

theorem formatName_plain (format : OutputFormat) :
    (formatName format).toList.head? ≠ some '-' := by
  cases format <;> decide

/-- The short name of the format with anything behind it. -/
theorem names_short (rest : String) :
    Names .afterShow ("-f" ++ rest) .format (joinedShort rest.toList) := by
  have text : ("-f" ++ rest).toList = '-' :: 'f' :: rest.toList := by
    rw [String.toList_append]
    rfl
  have token : Token.ofArgument ("-f" ++ rest) = .short 'f' rest.toList := by
    rw [Token.ofArgument, text]
    rfl
  exact names_of_short token rfl rfl

theorem FormatOption.settles_arguments {values : List (OptionName × String)}
    (option : FormatOption) (fresh : values.lookup .format = none) :
    Settles .afterShow option.arguments values ((.format, formatName option.format) :: values) := by
  obtain ⟨format, spelling⟩ := option
  have plain := formatName_plain format
  have settleable : Settleable values .format (formatName format) :=
    ⟨fresh, fun _ => by rw [format?_formatName]; rfl⟩
  cases spelling with
  | long spelling =>
    exact OptionName.settles_arguments (fun _ => rfl) (fun _ => plain) settleable
  | short spelling =>
    cases spelling with
    | separate => exact .separate (names_short "") plain settleable
    | joined =>
      refine .joined ?_ settleable
      cases format with
      | json => exact names_short "=json"
      | text => exact names_short "=text"
  | attached =>
    refine .joined ?_ settleable
    cases format with
    | json => exact names_short "json"
    | text => exact names_short "text"

def Use.entry (use : Use) : OptionName × String :=
  (use.option, use.value)

theorem Use.settles_arguments {side : Side} {values : List (OptionName × String)} {use : Use}
    (fits : use.Fits side) (fresh : values.lookup use.option = none) :
    Settles side use.arguments values (use.entry :: values) := by
  cases use with
  | flag written =>
    have other := identityOption_ne_format written.field
    exact OptionName.settles_arguments (fun format => (other format).elim) written.plain
      ⟨fresh, fun format => (other format).elim⟩
  | format written =>
    cases fits
    exact written.settles_arguments fresh

/-- What stands for an option among settled uses is the value of its last use. -/
theorem lookup_entries (option : OptionName) (uses : List Use) :
    (uses.map Use.entry).reverse.lookup option = (valuesOf option uses).getLast? := by
  induction uses using List.reverseRecOn with
  | nil => rfl
  | append_singleton uses use ih =>
    rw [List.map_append, List.map_singleton, List.reverse_concat, valuesOf_append]
    by_cases same : use.option = option
    · subst same
      rw [valuesOf_self, List.getLast?_concat, Use.entry, List.lookup_cons_self]
    · have other : (option == use.option) = false := beq_false_of_ne (Ne.symm same)
      rw [valuesOf_of_ne same, List.append_nil, ← ih, Use.entry, List.lookup_cons, other]

/-- Uses that give each option one value at most are settled one after the other. -/
theorem settles_uses {side : Side} {uses : List Use} (fits : ∀ use ∈ uses, use.Fits side)
    (once : ∀ option, (valuesOf option uses).length ≤ 1) :
    Settles side (uses.flatMap Use.arguments) [] (uses.map Use.entry).reverse := by
  -- From the end: the last use finds no value of its option among those of the uses before it.
  induction uses using List.reverseRecOn with
  | nil => exact .nil side []
  | append_singleton uses use ih =>
    simp only [valuesOf_append, List.length_append] at once
    have first : Settles side (uses.flatMap Use.arguments) [] (uses.map Use.entry).reverse := by
      refine ih (fun use member => fits use (List.mem_append_left _ member)) fun option => ?_
      exact Nat.le_trans (Nat.le_add_right _ _) (once option)
    have fresh : (uses.map Use.entry).reverse.lookup use.option = none := by
      have alone := once use.option
      rw [valuesOf_self, List.length_singleton] at alone
      have none : valuesOf use.option uses = [] := List.eq_nil_of_length_eq_zero (by omega)
      rw [lookup_entries, none, List.getLast?_nil]
    have last := Use.settles_arguments (fits use (List.mem_append_right _ List.mem_cons_self)) fresh
    rw [List.flatMap_append, List.flatMap_singleton, List.map_append, List.map_singleton,
      List.reverse_concat]
    exact first.append last

end WorkerSettings.CommandLine
