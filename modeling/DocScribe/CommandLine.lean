import DocScribe.Settings

/-! The command line: how to serve, on which port, and how much to log. -/

namespace DocScribe.CommandLine
open DocScribe

/-- What the command line asks for. -/
structure Options where
  transport : String
  port : Int
  logLevel : String
  deriving DecidableEq

/-- How the program starts: with some options, with a text that explains them, or not at all. -/
inductive Start where
  | serve (options : Options)
  | help
  | refused (reason : String)

inductive OptionName where
  | help
  | transport
  | port
  | logLevel
  deriving DecidableEq

def longNames : List (String × OptionName) :=
  [("--help", .help), ("--transport", .transport), ("--port", .port), ("--log-level", .logLevel)]

/-- What an argument is by its form. -/
inductive Argument where
  | value (text : String)
  | option (name : OptionName) (written : String) (value : Option String)
  /-- Help by its short name, and what follows it in the same argument. -/
  | shortHelp (rest : List Char)
  /-- An option that does not exist. -/
  | unknown (text : String)

/-- A number with a minus sign is a value and no option. -/
def isNegativeNumber (argument : List Char) : Bool :=
  -- a line end behind the number does not count
  let body := if argument.getLast? == some '\n' then argument.dropLast else argument
  match body with
  | '-' :: rest =>
    let whole := rest.takeWhile Text.isDigit
    match rest.drop whole.length with
    | [] => !whole.isEmpty
    -- the digits in front of the point may be missing
    | '.' :: places => !places.isEmpty && places.all Text.isDigit
    | _ => false
  | _ => false

/-- An argument that starts like an option but names none. A number or a text with a blank is a
value. -/
def unnamed (argument : String) : Argument :=
  if isNegativeNumber argument.toList || argument.toList.contains ' ' then .value argument
  else .unknown argument

/-- An argument that starts with two hyphens. Its value may follow an equality sign. -/
def readLong (argument : String) : Except String Argument :=
  let chars := argument.toList
  let name : String := .ofList (chars.takeWhile (· != '='))
  let value : Option String :=
    if chars.contains '=' then some (.ofList (chars.drop (name.length + 1))) else none
  match longNames.lookup name with
  | some found => .ok (.option found name value)
  -- a name may be cut short as long as only one option starts that way
  | none => match longNames.filter fun known => known.1.startsWith name with
    | [] => .ok (unnamed argument)
    | [(_, found)] => .ok (.option found name value)
    | several =>
      let listed := ", ".intercalate (several.map Prod.fst)
      .error s!"ambiguous option: {argument} could match {listed}"

def readArgument (argument : String) : Except String Argument :=
  match argument.toList with
  | '-' :: '-' :: _ => readLong argument
  | '-' :: 'h' :: rest => .ok (.shortHelp rest)
  | '-' :: _ :: _ => .ok (unnamed argument)
  | _ => .ok (.value argument)

/-- Reads the arguments in front of a pair of hyphens, and tells whether there is such a pair. -/
def readArguments : List String → Except String (List Argument × Bool)
  | [] => .ok ([], false)
  | argument :: rest =>
    if argument == "--" then .ok ([], true)
    else do
      let first ← readArgument argument
      let (others, ended) ← readArguments rest
      return (first :: others, ended)

def set (options : Options) (name : OptionName) (value : String) : Except String Options :=
  match name with
  | .transport =>
    if Settings.transports.contains value then .ok { options with transport := value }
    else
      let listed := ", ".intercalate (Settings.transports.map fun known => s!"'{known}'")
      .error s!"argument --transport: invalid choice: '{value}' (choose from {listed})"
  | .port => match Text.readInt value with
    | .ok port => .ok { options with port }
    | .error _ => .error s!"argument --port: invalid int value: '{value}'"
  | .logLevel => .ok { options with logLevel := value }
  | .help => .ok options

/-- Carries out arguments in order, unless one asks for help. -/
def carryOut (options : Options) (stray : Bool) : List Argument → Start
  -- an argument that belongs to nothing is refused only at the end
  | [] => if stray then .refused "unrecognized arguments" else .serve options
  | .value _ :: rest => carryOut options true rest
  | .unknown _ :: rest => carryOut options true rest
  | .shortHelp rest :: _ =>
    if rest.head? == some '=' then .refused "argument -h/--help: ignored explicit argument" else .help
  | .option .help _ (some _) :: _ => .refused "argument -h/--help: ignored explicit argument"
  | .option .help _ none :: _ => .help
  | .option name _ (some value) :: rest => match set options name value with
    | .ok options => carryOut options stray rest
    | .error reason => .refused reason
  | .option name _ none :: .value value :: rest => match set options name value with
    | .ok options => carryOut options stray rest
    | .error reason => .refused reason
  | .option _ written none :: _ => .refused s!"argument {written}: expected one argument"

def start (settings : Settings) (arguments : List String) : Start :=
  match readArguments arguments with
  | .error reason => .refused reason
  | .ok (read, ended) =>
    carryOut ⟨settings.transport, settings.port, settings.logLevel⟩ ended read

def levels : List (String × Nat) :=
  [("CRITICAL", 50), ("FATAL", 50), ("ERROR", 40), ("WARNING", 30), ("WARN", 30), ("INFO", 20),
    ("DEBUG", 10), ("NOTSET", 0)]

/-- The level that a name means, in any case; a name that is not known means the usual one. -/
def Options.level (options : Options) : Nat := (levels.lookup (Text.upper options.logLevel)).getD 20

/-- Where the program listens: a host and a port, if it serves on one. -/
def Options.listener (options : Options) : Option (String × Int) :=
  if options.transport == Settings.httpTransport then some ("0.0.0.0", options.port) else none

def helpText : String :=
  "usage: docscribe [-h] [--transport \x7bstdio,streamable-http\x7d] [--port PORT] [--log-level LOG_LEVEL]"

end DocScribe.CommandLine
