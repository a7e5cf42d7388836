import ClassDiagram.Sql.Dialect
import ClassDiagram.Text.Split

/-!
# Arguments of the command line

`check`, `sql` and `generate` read a model and say, write or build what it leads to. Options have a
long name (`--output file`, `--output=file`) and most of them a letter (`-o file`, `-ofile`,
`-o=file`); letters of options without a value may be put together. No option may be given twice.
Behind `--` everything is an operand.
-/

namespace ClassDiagram

open Text

structure SqlCommand where
  input : String
  baseline : Option String
  dialect : Dialect
  /-- The file to write; the standard output if there is none. -/
  output : Option String
  deriving DecidableEq, Repr

structure GenerateCommand where
  input : String
  baseline : Option String
  basePackage : Option String
  projectName : Option String
  withScaffold : Bool
  dialect : Dialect
  /-- The directory to write to. -/
  output : String
  deriving DecidableEq, Repr

inductive Command where
  | check (input : String)
  | sql (command : SqlCommand)
  | generate (command : GenerateCommand)
  deriving DecidableEq, Repr

structure Invocation where
  verbose : Bool
  command : Command
  deriving DecidableEq, Repr

inductive UsageFault where
  | missingCommand
  | unknownCommand (word : String)
  | unexpectedArgument (word : String)
  | repeatedOption (name : String)
  | missingValue (name : String)
  | unexpectedValue (name : String)
  | unknownDialect (word : String)
  | missingInput
  deriving DecidableEq, Repr

def UsageFault.message : UsageFault → String
  | .missingCommand => "a command is required: check, sql or generate"
  | .unknownCommand word => s!"unrecognized command `{word}`"
  | .unexpectedArgument word => s!"unexpected argument `{word}`"
  | .repeatedOption name => s!"the option --{name} cannot be used multiple times"
  | .missingValue name => s!"the option --{name} requires a value"
  | .unexpectedValue name => s!"the option --{name} takes no value"
  | .unknownDialect word => s!"unknown dialect `{word}`"
  | .missingInput => "an input model is required"

/-- Why the arguments ask for no command to be run. -/
inductive Stop where
  | version
  | help
  | misuse (fault : UsageFault)
  deriving DecidableEq, Repr

structure CommandOption where
  name : String
  letter : Option Char
  takesValue : Bool
  deriving DecidableEq, Repr

namespace CommandOption

def verbose : CommandOption := { name := "verbose", letter := some 'v', takesValue := false }
def version : CommandOption := { name := "version", letter := some 'V', takesValue := false }
def help : CommandOption := { name := "help", letter := some 'h', takesValue := false }
def baseline : CommandOption := { name := "baseline", letter := some 'b', takesValue := true }
def dialect : CommandOption := { name := "dialect", letter := some 'd', takesValue := true }
def output : CommandOption := { name := "output", letter := some 'o', takesValue := true }
def basePackage : CommandOption := { name := "package", letter := some 'p', takesValue := true }
def projectName : CommandOption := { name := "project", letter := none, takesValue := true }
def scaffold : CommandOption := { name := "scaffold", letter := none, takesValue := false }

end CommandOption

/-- The options given so far, with their values, and the operands. -/
structure Arguments where
  settings : List (String × String)
  operands : List String
  deriving DecidableEq, Repr

namespace Arguments

def none : Arguments := { settings := [], operands := [] }

def value? (arguments : Arguments) (option : CommandOption) : Option String :=
  arguments.settings.lookup option.name

def has (arguments : Arguments) (option : CommandOption) : Bool :=
  (arguments.value? option).isSome

/-- Takes note of an option. Those that ask for information end the reading. -/
def set (arguments : Arguments) (option : CommandOption) (value : String) :
    Except Stop Arguments :=
  if option = .version then .error .version
  else if option = .help then .error .help
  else if arguments.has option then .error (.misuse (.repeatedOption option.name))
  else .ok { arguments with settings := (option.name, value) :: arguments.settings }

/-- Reads the letters behind a dash. An option whose value must be the next argument is given
back. -/
def readLetters (options : List CommandOption) (arguments : Arguments) :
    List Char → Except Stop (Arguments × Option CommandOption)
  | [] => .ok (arguments, Option.none)
  | letter :: rest =>
    match options.find? fun option => option.letter == some letter with
    | .none => .error (.misuse (.unexpectedArgument ("-" ++ String.singleton letter)))
    | some option =>
      if option.takesValue then
        match rest with
        | [] => .ok (arguments, some option)
        | '=' :: value => do return (← arguments.set option (String.ofList value), Option.none)
        | value => do return (← arguments.set option (String.ofList value), Option.none)
      else do readLetters options (← arguments.set option "") rest

/-- Reads what stands behind two dashes. -/
def readName (options : List CommandOption) (arguments : Arguments) (text : List Char) :
    Except Stop (Arguments × Option CommandOption) :=
  let (name, value) := match splitFirst '=' text with
    | some (name, value) => (String.ofList name, some (String.ofList value))
    | .none => (String.ofList text, Option.none)
  match options.find? fun option => option.name == name with
  | .none => .error (.misuse (.unexpectedArgument ("--" ++ name)))
  | some option =>
    match option.takesValue, value with
    | true, some value => do return (← arguments.set option value, Option.none)
    | true, .none => .ok (arguments, some option)
    | false, .none => do return (← arguments.set option "", Option.none)
    | false, some _ => .error (.misuse (.unexpectedValue name))

/-- Arguments that start with a dash are options; a dash alone is not. -/
def isDashed (argument : String) : Bool :=
  match argument.toList with
  | '-' :: _ :: _ => true
  | _ => false

def read (options : List CommandOption) (arguments : Arguments) :
    List String → Except Stop Arguments
  | [] => .ok arguments
  | argument :: rest => do
    if argument = "--" then
      return { arguments with operands := arguments.operands ++ rest }
    else
      let (arguments, waiting) ← match argument.toList with
        | '-' :: '-' :: text => readName options arguments text
        | '-' :: letter :: letters => readLetters options arguments (letter :: letters)
        | _ => .ok ({ arguments with operands := arguments.operands ++ [argument] }, Option.none)
      match waiting with
      | .none => read options arguments rest
      | some option =>
        match rest with
        | [] => .error (.misuse (.missingValue option.name))
        | value :: others =>
          if isDashed value then .error (.misuse (.missingValue option.name))
          else do read options (← arguments.set option value) others

/-- The value of an option that names a file or a directory. -/
def path? (arguments : Arguments) (option : CommandOption) : Except Stop (Option String) :=
  match arguments.value? option with
  | some "" => .error (.misuse (.missingValue option.name))
  | value => .ok value

def dialect (arguments : Arguments) : Except Stop Dialect :=
  match arguments.value? .dialect with
  | .none => .ok Dialect.standard
  | some word =>
    match Dialect.ofWord? word with
    | some dialect => .ok dialect
    | .none => .error (.misuse (.unknownDialect word))

/-- The only operand of a command, which names its input. -/
def input (arguments : Arguments) : Except Stop String :=
  match arguments.operands with
  | [] | "" :: _ => .error (.misuse .missingInput)
  | [path] => .ok path
  | _ :: surplus :: _ => .error (.misuse (.unexpectedArgument surplus))

end Arguments

def commonOptions : List CommandOption := [.verbose, .help]

def checkOptions : List CommandOption := commonOptions

def sqlOptions : List CommandOption := commonOptions ++ [.baseline, .dialect, .output]

def generateOptions : List CommandOption :=
  sqlOptions ++ [.basePackage, .projectName, .scaffold]

def SqlCommand.ofArguments (arguments : Arguments) : Except Stop SqlCommand := do
  return {
    input := ← arguments.input
    baseline := ← arguments.path? .baseline
    dialect := ← arguments.dialect
    output := ← arguments.path? .output }

def GenerateCommand.ofArguments (arguments : Arguments) : Except Stop GenerateCommand := do
  return {
    input := ← arguments.input
    baseline := ← arguments.path? .baseline
    basePackage := arguments.value? .basePackage
    projectName := arguments.value? .projectName
    withScaffold := arguments.has .scaffold
    dialect := ← arguments.dialect
    output := (← arguments.path? .output).getD "generated" }

/-- Help is given on the program, or on one of its commands. -/
def helpAbout (words : List String) : Stop :=
  match words.span (["check", "sql", "generate", "help"].contains ·) with
  | ([], []) | ([_], []) => .help
  | (_ :: word :: _, _) | (_, word :: _) => .misuse (.unknownCommand word)

/-- Reads a command and what follows its name. -/
def Invocation.ofCommand (verbose : Bool) (name : String) (rest : List String) :
    Except Stop Invocation := do
  let read (options : List CommandOption) := Arguments.read options Arguments.none rest
  let (arguments, command) ← match name with
    | "check" => do
      let arguments ← read checkOptions
      pure (arguments, Command.check (← arguments.input))
    | "sql" => do
      let arguments ← read sqlOptions
      pure (arguments, Command.sql (← SqlCommand.ofArguments arguments))
    | "generate" => do
      let arguments ← read generateOptions
      pure (arguments, Command.generate (← GenerateCommand.ofArguments arguments))
    | "help" => .error (helpAbout rest)
    | word => .error (.misuse (.unknownCommand word))
  return { verbose := verbose || arguments.has .verbose, command }

/-- Reads all arguments. Only options without a value may stand in front of the command. -/
def Invocation.ofArguments (arguments : List String) : Except Stop Invocation := do
  let (leading, rest) := arguments.span Arguments.isDashed
  let leadingOptions := leading.takeWhile fun argument => argument != "--"
  let common ← Arguments.read [.verbose, .version, .help] Arguments.none leadingOptions
  if leading.length ≠ leadingOptions.length then .error (.misuse .missingCommand)
  else
    match rest with
    | [] => .error (.misuse .missingCommand)
    | name :: rest => Invocation.ofCommand (common.has .verbose) name rest

end ClassDiagram
