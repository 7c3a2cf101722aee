import ToolSchema.Release
import ToolSchema.Settings

/-!
# The command line

Options may be shortened as long as no other option begins the same way, and may carry their value
behind an equals sign. All arguments are sorted into options, separators and others first; then they
take effect from left to right. What belongs to no option is reported at the end.

`CommandLine.launch` is what the whole command does: it prints something and exits, or it runs the
service with some settings.
-/

namespace ToolSchema

/-- The options of the command. -/
inductive Flag where
  | help | version | host | port | modelHost | toolServerUrl | model | logLevel | reload
  deriving DecidableEq, Repr

namespace Flag

/-- How the options are written. -/
def spellings : List (String × Flag) :=
  [("-h", help), ("--help", help), ("--version", version), ("--host", host), ("--port", port),
    ("--ollama-host", modelHost), ("--mcp-url", toolServerUrl), ("--model", model),
    ("--log-level", logLevel), ("--reload", reload)]

/-- The setting that the value of an option is for; some options take no value. -/
def setting? : Flag → Option String
  | host => some "host"
  | port => some "port"
  | modelHost => some "ollama_host"
  | toolServerUrl => some "mcp_server_url"
  | model => some "default_model"
  | logLevel => some "log_level"
  | help | version | reload => none

def takesValue (flag : Flag) : Bool := flag.setting?.isSome

/-- How an option is named in errors. -/
def title (flag : Flag) : String :=
  "/".intercalate ((spellings.filter (fun spelling => spelling.2 == flag)).map Prod.fst)

end Flag

/-- What is wrong with a command line. -/
inductive UsageError where
  /-- The argument could stand for each of these options. -/
  | ambiguous (argument : String) (candidates : List String)
  | missingValue (flag : Flag)
  /-- The option takes no value but carries one. -/
  | unwantedValue (flag : Flag) (value : String)
  | notAnInteger (value : String)
  | unknownLevel (value : String)
  | unrecognized (arguments : List String)
  deriving DecidableEq, Repr

/-- The log levels that can be chosen. -/
def logLevels : List String := ["DEBUG", "INFO", "WARNING", "ERROR", "CRITICAL"]

/-- The text of a string, in quotes. -/
def quotedText (text : String) : String := (Json.string text).literal

/-- The wording of an error. -/
def UsageError.message : UsageError → String
  | .ambiguous argument candidates =>
    "ambiguous option: " ++ argument ++ " could match " ++ ", ".intercalate candidates
  | .missingValue flag => "argument " ++ flag.title ++ ": expected one argument"
  | .unwantedValue flag value =>
    "argument " ++ flag.title ++ ": ignored explicit argument " ++ quotedText value
  | .notAnInteger value =>
    "argument " ++ Flag.port.title ++ ": invalid int value: " ++ quotedText value
  | .unknownLevel value =>
    "argument " ++ Flag.logLevel.title ++ ": invalid choice: " ++ quotedText value ++
      " (choose from " ++ ", ".intercalate (logLevels.map quotedText) ++ ")"
  | .unrecognized arguments => "unrecognized arguments: " ++ " ".intercalate arguments

namespace CommandLine

/-! ## Sorting arguments -/

/-- What an option carries within its argument. -/
inductive Carried where
  | nothing
  /-- A value behind an equals sign. -/
  | value (text : String)
  /-- The letters behind that of a short option, with or without an equals sign before them. -/
  | letters (letters : List Char)
  deriving DecidableEq, Repr

/-- What an argument is taken for. -/
inductive ArgumentKind where
  | other
  /-- The two dashes that end the options. -/
  | separator
  | option (flag : Flag) (carried : Carried)
  /-- Something that looks like an option. -/
  | unknownOption
  deriving DecidableEq, Repr

/-- The text before the first equals sign, and the text behind it if there is one. -/
def splitAtEquals (argument : String) : String × Option String :=
  let text := argument.toList
  match text.dropWhile (· != '=') with
  | [] => (argument, none)
  | _ :: rest => (String.ofList (text.takeWhile (· != '=')), some (String.ofList rest))

/-- What an option of this spelling carries in the text behind an equals sign. -/
def Carried.ofText (spelling text : String) : Carried :=
  if spelling.startsWith "--" then .value text else .letters text.toList

/-- The spellings that a shortened argument can stand for, with the option and what it carries. -/
def candidates (argument : String) : List (String × Flag × Carried) :=
  if argument.startsWith "--" then
    let (name, value) := splitAtEquals argument
    (Flag.spellings.filter (fun spelling => spelling.1.startsWith name)).map
      (fun spelling => (spelling.1, spelling.2, (value.map Carried.value).getD .nothing))
  else
    let short := String.ofList (argument.toList.take 2)
    (Flag.spellings.filter (fun spelling => spelling.1 == short)).map
      (fun spelling => (spelling.1, spelling.2, .letters (argument.toList.drop 2)))

/-- The digits of a text and what follows them. -/
def spanDigits (text : List Char) : List Char × List Char :=
  (text.takeWhile (fun c => (Text.decimalDigit? c).isSome),
    text.dropWhile (fun c => (Text.decimalDigit? c).isSome))

/-- A negative number, which is no option. -/
def isNegativeNumber (argument : String) : Bool :=
  match argument.toList with
  | '-' :: rest =>
    let (whole, behind) := spanDigits rest
    match behind with
    | [] | ['\n'] => !whole.isEmpty
    | '.' :: fraction =>
      let (digits, behind) := spanDigits fraction
      !digits.isEmpty && (behind == [] || behind == ['\n'])
    | _ => false
  | _ => false

/-- The two dashes that end the options. -/
def separator : String := "--"

/-- Sorts one argument. -/
def sort (argument : String) : Except UsageError ArgumentKind :=
  if argument = separator then .ok .separator
  else if !argument.startsWith "-" then .ok .other
  else
    match Flag.spellings.lookup argument with
    | some flag => .ok (.option flag .nothing)
    | none =>
      if argument = "-" then .ok .other
      else
        let (name, value) := splitAtEquals argument
        match value, Flag.spellings.lookup name with
        | some text, some flag => .ok (.option flag (.ofText name text))
        | _, _ =>
          match candidates argument with
          | [(_, flag, carried)] => .ok (.option flag carried)
          | [] =>
            if isNegativeNumber argument || argument.toList.contains ' ' then .ok .other
            else .ok .unknownOption
          | several => .error (.ambiguous argument (several.map Prod.fst))

/-- Sorts all arguments; behind a separator nothing is an option. -/
def sortAll : List String → Except UsageError (List (String × ArgumentKind))
  | [] => .ok []
  | argument :: rest => do
    match ← sort argument with
    | .separator => return (argument, .separator) :: rest.map (·, .other)
    | kind => return (argument, kind) :: (← sortAll rest)

/-! ## Options taking effect -/

/-- What a command line asks for. -/
structure Choices where
  /-- The settings that it gives, by name. -/
  settings : Members
  reload : Bool
  /-- The arguments that belong to no option. -/
  others : List String
  deriving Repr

/-- Where reading a command line ends. -/
inductive Ending where
  | help
  | version
  | misused (error : UsageError)
  deriving DecidableEq, Repr

/-- The value that the text of an option stands for. -/
def readValue (flag : Flag) (text : String) : Except UsageError Json :=
  match flag with
  | .port =>
    match Text.integer? text with
    | some port => .ok (.int port)
    | none => .error (.notAnInteger text)
  | .logLevel => if logLevels.contains text then .ok (.string text) else .error (.unknownLevel text)
  | _ => .ok (.string text)

/-- The choices with another value for the setting of an option. -/
def Choices.give (choices : Choices) (flag : Flag) (value : Json) : Choices :=
  match flag.setting? with
  | some name => { choices with settings := choices.settings.put name value }
  | none => choices

/-- The effect of an option with a value. -/
def choose (flag : Flag) (text : String) (choices : Choices) : Except Ending Choices :=
  match readValue flag text with
  | .ok value => .ok (choices.give flag value)
  | .error error => .error (.misused error)

/--
The effect of an option with a value inside its argument. Two dashes are dropped here as they are
where they end the options, and the setting is left with a list of no values.
-/
def chooseCarried (flag : Flag) (text : String) (choices : Choices) : Except Ending Choices :=
  if text = separator then .ok (choices.give flag (.array [])) else choose flag text choices

/-- The effect of an option without a value. -/
def act (flag : Flag) (choices : Choices) : Except Ending Choices :=
  match flag with
  | .help => .error .help
  | .version => .error .version
  | .reload => .ok { choices with reload := true }
  | flag => .error (.misused (.missingValue flag))

/--
The effect of letters behind the short option for help. The same letter asks for help again; all
else is a value, which help does not take, and so is nothing behind an equals sign.
-/
def actLetters (flag : Flag) (letters : List Char) : Ending :=
  match letters, letters.dropWhile (· == 'h') with
  | _ :: _, [] => .help
  | _, value => .misused (.unwantedValue flag (String.ofList value))

/-- What sorted arguments ask for, on top of the choices so far. -/
def read (choices : Choices) : List (String × ArgumentKind) → Except Ending Choices
  | [] => .ok choices
  | (_, .option flag (.value value)) :: rest =>
    if flag.takesValue then do read (← chooseCarried flag value choices) rest
    else .error (.misused (.unwantedValue flag value))
  | (_, .option flag (.letters letters)) :: rest =>
    if flag.takesValue then do read (← chooseCarried flag (String.ofList letters) choices) rest
    else .error (actLetters flag letters)
  | (_, .option flag .nothing) :: rest =>
    if flag.takesValue then
      match rest with
      | (value, .other) :: behind => do read (← choose flag value choices) behind
      | _ => .error (.misused (.missingValue flag))
    else do read (← act flag choices) rest
  | (argument, _) :: rest => read { choices with others := choices.others ++ [argument] } rest

/-- What a command line asks for. -/
def parse (arguments : List String) : Except Ending Choices :=
  match sortAll arguments with
  | .error error => .error (.misused error)
  | .ok sorted => do
    let choices ← read ⟨[], false, []⟩ sorted
    if choices.others.isEmpty then .ok choices
    else .error (.misused (.unrecognized choices.others))

/-! ## The command -/

/-- How the command is used. -/
def usage : String :=
  "usage: " ++ programName ++ " [-h] [--version] [--host HOST] [--port PORT]\n" ++
    "                     [--ollama-host OLLAMA_HOST] [--mcp-url MCP_URL]\n" ++
    "                     [--model MODEL]\n" ++
    "                     [--log-level \x7bDEBUG,INFO,WARNING,ERROR,CRITICAL\x7d] [--reload]\n"

/-- What the command does. -/
inductive Launch where
  /-- It prints to the two outputs and exits with a code. -/
  | exit (code : Nat) (output errors : String)
  /-- It runs the service. -/
  | run (settings : Settings) (logLevel : String) (reload : Bool)
  deriving Repr

/-- What the command prints where it does not run the service. -/
def Ending.launch : Ending → Launch
  | .help => .exit 0 usage ""
  | .version => .exit 0 (programName ++ " " ++ programVersion ++ "\n") ""
  | .misused error => .exit 2 "" (usage ++ programName ++ ": error: " ++ error.message ++ "\n")

/-- The log level of a name in capitals. -/
def logLevel? : String → Option String
  | "CRITICAL" | "FATAL" => some "CRITICAL"
  | "ERROR" => some "ERROR"
  | "WARNING" | "WARN" => some "WARNING"
  | "INFO" => some "INFO"
  | "DEBUG" => some "DEBUG"
  | "NOTSET" => some "NOTSET"
  | _ => none

/-- What the command does with these arguments in this environment. -/
def launch (environment : List (String × String)) (arguments : List String) :
    Except Refusal Launch :=
  match parse arguments with
  | .error ending => .ok ending.launch
  | .ok choices => do
    let settings ← Settings.load environment choices.settings
    let name := Text.upper settings.logLevel
    match logLevel? name with
    | some level => .ok (.run settings level choices.reload)
    | none => .error (.fault (.unknownLevel name))

end CommandLine

end ToolSchema
