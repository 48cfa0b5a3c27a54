import WorkerSettings.Settings.Render

/-!
# Arguments of the command line

A line names a subcommand, `show` or `check`. The options for the identity may stand
before or after it, each once on either side, and the one after it decides; `show` has an
option for the format. The value of an option is joined to it by `=` or is the next
argument, which may not start with `-`.

An option is settled, and its value looked at, when the next option is met or the
arguments of its side end. The side before the subcommand ends after the other one.
-/

namespace WorkerSettings.CommandLine

inductive Command
  | render (format : OutputFormat)
  | check
  deriving DecidableEq

structure Invocation where
  workerName : Option String
  workerVersion : Option String
  command : Command
  deriving DecidableEq

/-- Why a command line asks for nothing that can be run. -/
inductive Refusal
  | displayHelp
  | displayVersion
  /-- There are no arguments. -/
  | nothingGiven
  | missingSubcommand
  | invalidSubcommand
  | unknownArgument
  /-- A value is missing or not one of those allowed. -/
  | invalidValue
  /-- A flag is given a value. -/
  | tooManyValues
  /-- An option is given twice on one side. -/
  | repeatedOption
  deriving DecidableEq

def Refusal.exitStatus : Refusal → UInt32
  | .displayHelp | .displayVersion => 0
  | _ => 2

inductive Token
  /-- The two hyphens after which nothing is an option. -/
  | escape
  | long (name : String) (value : Option String)
  | short (name : Char) (rest : List Char)
  | word (text : String)

def splitValue (cs : List Char) : String × Option String :=
  let name := String.ofList (cs.takeWhile (· != '='))
  match cs.dropWhile (· != '=') with
  | [] => (name, none)
  | _ :: value => (name, some (String.ofList value))

def Token.ofArgument (argument : String) : Token :=
  match argument.toList with
  | ['-', '-'] => .escape
  | '-' :: '-' :: rest => .long (splitValue rest).1 (splitValue rest).2
  | '-' :: name :: rest => .short name rest
  | _ => .word argument

/-- The two sides of a command line: before the subcommand, and after each of them. -/
inductive Side
  | before
  | afterShow
  | afterCheck
  deriving DecidableEq

inductive OptionName
  | workerName
  | workerVersion
  | format
  deriving DecidableEq

namespace Side

def long? (side : Side) (name : String) : Option OptionName :=
  if name = "worker-name" then some .workerName
  else if name = "worker-version" then some .workerVersion
  else if name = "format" ∧ side = .afterShow then some .format
  else none

def short? (side : Side) (name : Char) : Option OptionName :=
  if name = 'f' ∧ side = .afterShow then some .format else none

/-- The flag with a long name: what it asks for. -/
def longFlag? (side : Side) (name : String) : Option Refusal :=
  if name = "help" then some .displayHelp
  else if name = "version" ∧ side = .before then some .displayVersion
  else none

def shortFlag? (side : Side) (name : Char) : Option Refusal :=
  if name = 'h' then some .displayHelp
  else if name = 'V' ∧ side = .before then some .displayVersion
  else none

end Side

/-- The side after a subcommand. -/
def subcommand? (word : String) : Option Side :=
  if word = "show" then some .afterShow
  else if word = "check" then some .afterCheck
  else none

/-- The word names a subcommand, the one for help included. -/
def isSubcommand (word : String) : Bool :=
  (subcommand? word).isSome || word == "help"

/-- What the subcommand for help answers. It may name one subcommand. -/
def helpFor : List String → Refusal
  | [] => .displayHelp
  | [word] => if isSubcommand word then .displayHelp else .invalidSubcommand
  | _ :: _ :: _ => .invalidSubcommand

def format? (name : String) : Option OutputFormat :=
  if name = "json" then some .json else if name = "text" then some .text else none

/-- The options of one side as far as it is read. -/
structure Given where
  /-- The options that are settled. -/
  values : List (OptionName × String) := []
  /-- The last option, with its value once that is read. -/
  pending : Option (OptionName × Option String) := none

namespace Given

def nothing : Given where

def value? (given : Given) (name : OptionName) : Option String :=
  given.values.lookup name

/-- Settle an option: it needs a value, may not be settled already, and a format has to
have one of its names. -/
def settle (given : Given) (name : OptionName) (value : Option String) : Except Refusal Given :=
  match value with
  | none => .error .invalidValue
  | some value =>
    if (given.value? name).isSome then
      .error .repeatedOption
    else if name = .format ∧ (format? value).isNone then
      .error .invalidValue
    else
      .ok { given with values := (name, value) :: given.values }

/-- Settle the last option. -/
def close (given : Given) : Except Refusal Given :=
  match given.pending with
  | none => .ok given
  | some (name, value) => settle { given with pending := none } name value

/-- An option is met: the last one is settled, and so is this one if its value is joined
to it. -/
def meet (given : Given) (name : OptionName) (joined : Option String) : Except Refusal Given := do
  let given ← given.close
  match joined with
  | some value => given.settle name (some value)
  | none => return { given with pending := some (name, none) }

/-- A flag is met: it takes no value, and the last option is settled before it is answered. -/
def answer (given : Given) (flag : Refusal) (joined : Option String) : Refusal :=
  if joined.isSome then
    .tooManyValues
  else
    match given.close with
    | .error refusal => refusal
    | .ok _ => flag

def waiting? (given : Given) : Option OptionName :=
  match given.pending with
  | some (name, none) => some name
  | _ => none

end Given

/-- What is wrong with an argument that is neither option nor value. -/
def Side.leftover (side : Side) (escaped : Bool) (word : String) : Refusal :=
  match side with
  | .before => if escaped && isSubcommand word then .unknownArgument else .invalidSubcommand
  | _ => .unknownArgument

/-- The value joined to a short option: the rest of the argument, less an equals sign. -/
def joinedShort : List Char → Option String
  | [] => none
  | '=' :: rest => some (String.ofList rest)
  | rest => some (String.ofList rest)

/-- Read one side: its options, and the subcommand that ends it with the arguments after
that. -/
def readSide (side : Side) (given : Given) :
    List String → Except Refusal (Given × Option (Side × List String))
  | [] => .ok (given, none)
  | argument :: arguments =>
    match Token.ofArgument argument with
    | .escape =>
      match arguments with
      | [] => .ok (given, none)
      | word :: _ => .error (side.leftover true word)
    | .long name joined =>
      match side.longFlag? name, side.long? name with
      | some flag, _ => .error (given.answer flag joined)
      | none, some option =>
        match given.meet option joined with
        | .ok given => readSide side given arguments
        | .error refusal => .error refusal
      | none, none => .error .unknownArgument
    | .short name rest =>
      match side.shortFlag? name, side.short? name with
      | some flag, _ => .error (given.answer flag none)
      | none, some option =>
        match given.meet option (joinedShort rest) with
        | .ok given => readSide side given arguments
        | .error refusal => .error refusal
      | none, none => .error .unknownArgument
    | .word word =>
      match given.waiting? with
      | some option => readSide side { given with pending := some (option, some word) } arguments
      | none =>
        match side, subcommand? word with
        | .before, some side => .ok (given, some (side, arguments))
        | side, _ =>
          if side = .before ∧ word = "help" then
            .error (helpFor arguments)
          else
            .error (side.leftover false word)

def commandOf (side : Side) (given : Given) : Command :=
  match side with
  | .afterCheck => .check
  | _ => .render (((given.value? .format).bind format?).getD .json)

def parse (arguments : List String) : Except Refusal Invocation := do
  match ← readSide .before .nothing arguments with
  | (before, none) =>
    let before ← before.close
    throw (if before.values.isEmpty then .nothingGiven else .missingSubcommand)
  | (before, some (side, arguments)) =>
    let (after, _) ← readSide side .nothing arguments
    let after ← after.close
    let before ← before.close
    return {
      workerName := (after.value? .workerName).or (before.value? .workerName)
      workerVersion := (after.value? .workerVersion).or (before.value? .workerVersion)
      command := commandOf side after }

end WorkerSettings.CommandLine
