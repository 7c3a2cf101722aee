import ToolSchema.CommandLine
import ToolSchema.Json.Writer
import ToolSchema.Schema.Supply
import ToolSchema.Service
import ToolSchema.Service.Target

/-!
# The command

Prints what `CommandLine.launch` says, or runs the service. Its requests come from standard
input, one a line: a method, a path and perhaps a JSON text, with blanks between them. Each is
answered with its status and its content. No model server and no tool server is reached from here.
-/

open ToolSchema

namespace Command

/-- What the environment says about the settings, with names in capitals or in small letters. -/
def environment : IO (List (String × String)) := do
  let names := Settings.names.flatMap (fun name =>
    let name := Settings.environmentPrefix ++ name
    [name, Text.upper name])
  let values ← names.mapM (fun name => do return (← IO.getEnv name).map (name, ·))
  return values.filterMap id

/-- Names of 32 hexadecimal digits. -/
def candidates : (count : Nat) → StdGen → List String
  | 0, _ => []
  | count + 1, source =>
    let (number, source) := randNat source 0 0xFFFFFFFFFFFFFFFFFFFFFFFFFFFFFFFF
    String.ofList (Json.hexChars number 32) :: candidates count source

/-- Draws the names of a schema. -/
def naming (seed : Nat) : Naming := fun schema =>
  let supply := Supply.ofCandidates (candidates schema.names.length (mkStdGen seed))
  match schema.nameFrom.run supply with
  | some (named, _) => named
  | none => schema.map (fun label =>
    match label with
    | .given name => name
    | .generated => .null)

/-- The method, the target and the content in a line. -/
def parts (line : String) : String × String × Payload :=
  match line.splitOn " " with
  | method :: target :: rest => (method, target, .text (" ".intercalate rest))
  | parts => ("GET", "".intercalate parts, .empty)

/-- A request from a line, or what is wrong with its target. -/
def readRequest (line : String) : Except String Request := do
  let (method, written, payload) := parts line
  let target ← (Target.read? written).mapError TargetDefect.message
  (Request.make method target [("host", String.ofList target.server.text)] payload).mapError
    NameDefect.message

def violation (violation : Violation) : Json :=
  .object [("type", .string violation.defect.code),
    ("loc", .array (violation.place.map (fun step =>
      match step with
      | .key name => .string name
      | .index position => .int position)))]

/-- The content of a response, line by line. -/
def content : ResponseBody → List String
  | .empty => []
  | .redirect location => ["location: " ++ location]
  | .json value => [value.write]
  | .text text => [text]
  | .violations found => [(Json.object [("detail", .array (found.map violation))]).write]
  | .events events => events.flatMap (fun event =>
    ["event: " ++ event.name, "data: " ++ event.data.write])

/-- Answers requests until there are no more. -/
partial def serve (app : App) : IO App := do
  let line ← (← IO.getStdin).getLine
  if line.isEmpty then return app
  match readRequest line.trimAscii.toString with
  | .error defect =>
    IO.eprintln defect
    serve app
  | .ok request =>
    let seed ← IO.rand 0 0x40000000
    let (response, app) := Service.handle (naming seed) request app
    IO.println (toString response.status)
    (content response.body).forM IO.println
    serve app

/-- Runs the service from its start to its stop. -/
def run (settings : Settings) : IO UInt32 := do
  let unreachable : Fault := .raised "ConnectionError" "No server can be reached"
  let app := App.make settings ⟨[], [], [], true⟩
    ⟨.array [], [.error unreachable], [], [], [], 0, []⟩
  match app.start with
  | (.error fault, _) => IO.eprintln fault.message; return 1
  | (.ok _, app) =>
    let app ← serve app
    match app.stop with
    | (.error fault, _) => IO.eprintln fault.message; return 1
    | (.ok _, _) => return 0

/-- What is printed about settings that are refused. -/
def refusal : Refusal → String
  | .fault fault => fault.message
  | .violations found => (Json.array (found.map violation)).write

end Command

def main (arguments : List String) : IO UInt32 := do
  match CommandLine.launch (← Command.environment) arguments with
  | .error refusal =>
    IO.eprintln (Command.refusal refusal)
    return 1
  | .ok (.exit code output errors) =>
    IO.print output
    IO.eprint errors
    return code.toUInt32
  | .ok (.run settings _ _) => Command.run settings
