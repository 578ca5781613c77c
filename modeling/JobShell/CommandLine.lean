import JobShell.Decimal.Integer

/-!
# The command line

Three options take a value, in the next argument or after an equals sign, and each may be given
once. A value in the next argument is looked at only when the next option or the end comes, so that
of two faults the later one can be the one that is found. `parse` reads the arguments from left to
right and stops at the first fault or at the request for help.
-/

namespace JobShell

/-- The options of the command line. -/
inductive Flag where
  | config
  | prompt
  | maxJobs
  deriving DecidableEq, Repr

namespace Flag

def all : List Flag :=
  [.config, .prompt, .maxJobs]

def name : Flag → String
  | .config => "config"
  | .prompt => "prompt"
  | .maxJobs => "max-jobs"

/-- The option of a name. -/
def ofName? (name : String) : Option Flag :=
  all.find? fun f => f.name == name

end Flag

/-- What is wrong with a command line. -/
inductive UsageError where
  | unknownArgument
  /-- An option has no value, or an empty one that it cannot take. -/
  | missingValue
  /-- A value is not a number of jobs. -/
  | badValue
  | repeatedOption
  /-- A value is given to an option that takes none. -/
  | unexpectedValue
  deriving DecidableEq, Repr

/-- The values that a command line gives. -/
structure Arguments where
  config : Option String := none
  prompt : Option String := none
  maxJobs : Option Nat := none
  deriving DecidableEq, Repr

namespace Arguments

/-- Whether an option is given. -/
def gives (a : Arguments) : Flag → Bool
  | .config => a.config.isSome
  | .prompt => a.prompt.isSome
  | .maxJobs => a.maxJobs.isSome

/-- Gives a value to an option. -/
def give (a : Arguments) (flag : Flag) (value : String) : Except UsageError Arguments :=
  if a.gives flag then .error .repeatedOption
  else match flag with
    | .config => if value.isEmpty then .error .missingValue else .ok { a with config := value }
    | .prompt => .ok { a with prompt := value }
    | .maxJobs =>
      match Decimal.size? value with
      | some n => .ok { a with maxJobs := n }
      | none => .error .badValue

end Arguments

namespace CommandLine

/-! ## Arguments -/

/-- The kinds of arguments. -/
inductive Word where
  /-- Two dashes, after which nothing is an option. -/
  | escape
  | long (name : String) (value : Option String)
  /-- A dash and letters, given by the first of them. -/
  | short (letter : Char)
  | plain
  deriving DecidableEq, Repr

namespace Word

/-- The kind of a long option: its name, and the value after the first equals sign. -/
def ofLong (cs : List Char) : Word :=
  .long (String.ofList (cs.takeWhile (· != '=')))
    (match cs.dropWhile (· != '=') with
      | [] => none
      | _ :: value => some (String.ofList value))

/-- The kind of an argument. -/
def ofArgument (argument : String) : Word :=
  match argument.toList with
  | ['-', '-'] => .escape
  | '-' :: '-' :: cs => ofLong cs
  | '-' :: c :: _ => .short c
  | _ => .plain

end Word

/-! ## Reading from left to right -/

/-- An option whose value has yet to be looked at, with the argument that holds it if that has been
met. -/
structure Pending where
  flag : Flag
  value : Option String
  deriving DecidableEq, Repr

/-- The arguments read so far. -/
structure Progress where
  arguments : Arguments := {}
  pending : Option Pending := none
  escaped : Bool := false
  deriving DecidableEq, Repr

/-- What a command line asks for. -/
inductive Request where
  | help
  | shell (arguments : Arguments)
  deriving DecidableEq, Repr

namespace Progress

/-- The arguments with the pending option, if there is one. -/
def settled (p : Progress) : Except UsageError Arguments :=
  match p.pending with
  | none => .ok p.arguments
  | some ⟨_, none⟩ => .error .missingValue
  | some ⟨flag, some value⟩ => p.arguments.give flag value

/-- The request for help. -/
def help (p : Progress) : Except UsageError (Option Progress) :=
  match p.settled with
  | .error e => .error e
  | .ok _ => .ok none

/-- An option with its value, or with one to come. -/
def option (p : Progress) (flag : Flag) (value : Option String) : Except UsageError Progress :=
  match p.settled with
  | .error e => .error e
  | .ok arguments =>
    match value with
    | none => .ok { arguments, pending := some ⟨flag, none⟩ }
    | some value => (arguments.give flag value).map fun arguments => { arguments }

/-- A long option. -/
def long (p : Progress) (name : String) (value : Option String) :
    Except UsageError (Option Progress) :=
  if name = "help" then
    if value.isSome then .error .unexpectedValue else p.help
  else match Flag.ofName? name with
    | none => .error .unknownArgument
    | some flag => (p.option flag value).map some

/-- One more argument; nothing if it asks for help. -/
def step (p : Progress) (argument : String) : Except UsageError (Option Progress) :=
  if p.escaped then .error .unknownArgument
  else match Word.ofArgument argument with
    | .escape => .ok (some { p with escaped := true })
    | .long name value => p.long name value
    | .short letter => if letter = 'h' then p.help else .error .unknownArgument
    | .plain =>
      match p.pending with
      | some ⟨flag, none⟩ => .ok (some { p with pending := some ⟨flag, some argument⟩ })
      | _ => .error .unknownArgument

/-- The rest of the arguments. -/
def parse (p : Progress) : List String → Except UsageError Request
  | [] => p.settled.map .shell
  | argument :: arguments =>
    match p.step argument with
    | .error e => .error e
    | .ok none => .ok .help
    | .ok (some p) => p.parse arguments

end Progress

/-- What the arguments of a command line, without the name of the program, ask for. -/
def parse (arguments : List String) : Except UsageError Request :=
  Progress.parse {} arguments

/-! ## Texts -/

/-- How the program is called. -/
def usage : String :=
  "Usage: smallsh [OPTIONS]\n"

/-- The answer to the request for help. -/
def helpText : String :=
  "A small interactive shell\n\n" ++ usage ++ "\nOptions:\n" ++
  "      --config <FILE>  JSON file with shell options\n" ++
  "      --prompt <STR>   Prompt printed before each line of input\n" ++
  "      --max-jobs <N>   Number of background jobs that can be tracked at once\n" ++
  "  -h, --help           Print help\n"

end CommandLine

namespace UsageError

/-- What is wrong, in words. -/
def reason : UsageError → String
  | .unknownArgument => "unexpected argument found"
  | .missingValue => "a value is required"
  | .badValue => "invalid value"
  | .repeatedOption => "an argument cannot be used multiple times"
  | .unexpectedValue => "unexpected value found"

/-- The text of a usage error. -/
def message (e : UsageError) : String :=
  "error: " ++ e.reason ++ "\n\n" ++ CommandLine.usage ++
    "\nFor more information, try '--help'.\n"

end UsageError

end JobShell
