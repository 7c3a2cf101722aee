import ToolSchema.Fault
import ToolSchema.Validation

/-!
# Settings

A setting is given by name, or taken from the environment, or has a default, in this order. Names
are matched without regard to case. What the environment says is text; of the settings only the list
of allowed origins is written there as JSON, and it has to be readable even if it is not used.
-/

namespace ToolSchema

structure Settings where
  host : String
  port : Int
  modelHost : String
  defaultModel : String
  toolServerUrl : Option String
  /-- The greatest number of tools that are offered. -/
  maxTools : Option Int
  /-- The greatest number of rounds in which a model calls tools. -/
  maxToolRounds : Int
  /-- The origins whose pages may use the service. -/
  corsOrigins : List String
  logLevel : String
  deriving DecidableEq, Repr

/-- Why something is refused: for violations, or for a fault. -/
inductive Refusal where
  | violations (violations : List Violation)
  | fault (fault : Fault)
  deriving Repr

namespace Settings

/-- The names of the settings. -/
def names : List String :=
  ["host", "port", "ollama_host", "default_model", "mcp_server_url", "max_tools",
    "max_tool_rounds", "cors_origins", "log_level"]

/-- What the name of a setting begins with in the environment, in small letters. -/
def environmentPrefix : String := "schema_bridge_"

/-- The setting whose list is written as JSON in the environment. -/
def originsName : String := "cors_origins"

/-- The values under a name, without regard to case. -/
def valuesOf {α : Type} (pairs : List (String × α)) (name : String) : List α :=
  (pairs.filter (fun pair => Text.asciiLower pair.1 == name)).map Prod.snd

/-- What the environment says under a name; the last one counts. -/
def fromEnvironment (environment : List (String × String)) (name : String) : Option String :=
  (valuesOf environment (environmentPrefix ++ name)).getLast?

/-- What the environment says about the allowed origins; null counts as nothing. -/
def originsFrom (environment : List (String × String)) : Except Fault (Option Json) :=
  match fromEnvironment environment originsName with
  | none => .ok none
  | some text =>
    match Json.read text with
    | .ok .null => .ok none
    | .ok value => .ok (some value)
    | .error _ => .error (.unreadableSetting originsName)

/-- What is said about a setting: the first value given by name, else by the environment. -/
def source (environment : List (String × String)) (origins : Option Json) (given : Members)
    (name : String) : Option Json :=
  (valuesOf given name).head?.or
    (if name = originsName then origins else (fromEnvironment environment name).map Json.string)

/-- What is given must belong to a setting. -/
def checkNames (given : Members) : Checked Unit :=
  match given.filter (fun member => !names.contains (Text.asciiLower member.1)) with
  | [] => .valid ()
  | unknown =>
    .invalid (unknown.map (fun member => ⟨.unknownName, [.key member.1], member.2⟩))

/-- Settings from what is said about each of them. -/
def check (said : String → Option Json) : Checked Settings :=
  let setting {α : Type} (name : String) (other : α) (check : Json → Checked α) : Checked α :=
    match said name with
    | some value => (check value).within (.key name)
    | none => .valid other
  (((((((((Checked.valid Settings.mk).apply
    (setting "host" "127.0.0.1" Validation.string)).apply
    (setting "port" 8000 Validation.integer)).apply
    (setting "ollama_host" "http://localhost:11434" Validation.string)).apply
    (setting "default_model" "llama3.2:latest" Validation.string)).apply
    (setting "mcp_server_url" none (Validation.optional Validation.string))).apply
    (setting "max_tools" none (Validation.optional (Validation.integerFrom 0)))).apply
    (setting "max_tool_rounds" 8 (Validation.integerFrom 1))).apply
    (setting originsName ["*"] (Validation.list Validation.string))).apply
    (setting "log_level" "INFO" Validation.string)

/-- The settings that are given by name, over those of the environment. -/
def load (environment : List (String × String)) (given : Members) : Except Refusal Settings :=
  match originsFrom environment with
  | .error fault => .error (.fault fault)
  | .ok origins =>
    match (check (source environment origins given)).and (checkNames given) with
    | .valid (settings, _) => .ok settings
    | .invalid violations => .error (.violations violations)

end Settings

end ToolSchema
