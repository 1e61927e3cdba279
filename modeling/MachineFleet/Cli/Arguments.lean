import MachineFleet.Config.Resolver
import MachineFleet.Container.Options
import MachineFleet.Text.Natural

/-!
Command lines. A command is followed by settings, each with a value behind its long name or its
letter. A setting that is not given is taken from its environment variable, if it has one, and
else has its default; giving it twice is an error.
-/

namespace MachineFleet.Cli

inductive OutputFormat where
  | text
  | yaml
  deriving DecidableEq, Repr, Inhabited

structure ProvisionArguments where
  manifest : String
  userdataFile : Option String := none
  pollInterval : Nat := 5
  pollAttempts : Nat := 5
  output : OutputFormat := .text
  runtime : RuntimeOptions := {}
  deriving Inhabited

inductive Command where
  | provision (a : ProvisionArguments)
  | runtimeConfig (os kubelet : String) (runtime : RuntimeOptions)
  | version
  | help
  deriving Inhabited

inductive UsageError where
  | missingCommand
  | unexpected (argument : String)
  | missingValue (name : String)
  | repeated (name : String)
  | missing (name : String)
  | invalid (name value : String)
  deriving DecidableEq, Repr

def UsageError.message : UsageError → String
  | .missingCommand => "a command is required"
  | .unexpected a => "unexpected argument '" ++ a ++ "'"
  | .missingValue n => "'--" ++ n ++ "' requires a value"
  | .repeated n => "'--" ++ n ++ "' cannot be used multiple times"
  | .missing n => "'--" ++ n ++ "' is required"
  | .invalid n v => "invalid value '" ++ v ++ "' for '--" ++ n ++ "'"

structure Setting where
  name : String
  letter : Option Char := none
  standIn : Option String := none
  deriving DecidableEq, Repr

namespace Setting

def logFormat : Setting := { name := "log-format" }

def manifest : Setting := { name := "manifest", letter := some 'm' }

def userdataFile : Setting := { name := "userdata-file" }

def pollInterval : Setting := { name := "poll-interval" }

def pollAttempts : Setting := { name := "poll-attempts" }

def output : Setting := { name := "output", letter := some 'o' }

def os : Setting := { name := "os" }

def kubeletVersion : Setting := { name := "kubelet-version" }

def containerRuntime : Setting :=
  { name := "container-runtime", standIn := some "MC_CONTAINER_RUNTIME" }

def defaultContainerRuntime : Setting :=
  { name := "default-container-runtime", standIn := some "MC_DEFAULT_CONTAINER_RUNTIME" }

def registryMirrors : Setting :=
  { name := "registry-mirrors", standIn := some "MC_REGISTRY_MIRRORS" }

def insecureRegistries : Setting :=
  { name := "insecure-registries", standIn := some "MC_INSECURE_REGISTRIES" }

def registryCredentialsSecret : Setting :=
  { name := "registry-credentials-secret", standIn := some "MC_REGISTRY_CREDENTIALS_SECRET" }

def pauseImage : Setting := { name := "pause-image", standIn := some "MC_PAUSE_IMAGE" }

def containerdVersion : Setting :=
  { name := "containerd-version", standIn := some "MC_CONTAINERD_VERSION" }

def runtime : List Setting :=
  [containerRuntime, defaultContainerRuntime, registryMirrors, insecureRegistries,
    registryCredentialsSecret, pauseImage, containerdVersion]

def standIns : List String := runtime.filterMap (·.standIn)

end Setting

inductive Interruption where
  | help
  | usage (e : UsageError)
  deriving DecidableEq, Repr

abbrev Values := List (String × String)

def addValue (values : Values) (s : Setting) (v : String) : Except Interruption Values :=
  if (values.lookup s.name).isSome then .error (.usage (.repeated s.name))
  else .ok (values ++ [(s.name, v)])

def isValue (argument : String) : Bool :=
  match argument.toList with
  | ['-'] => true
  | '-' :: _ => false
  | _ => true

def findSetting (known : List Setting) (argument : String) :
    Except Interruption (Setting × Option String) :=
  let find (p : Setting → Bool) (value : Option String) :=
    match known.find? p with
    | some s => .ok (s, value)
    | none => .error (.usage (.unexpected argument))
  match argument.toList with
  | '-' :: '-' :: rest =>
    let (name, value) := match Text.cutAt '=' rest with
      | some (name, value) => (String.ofList name, some (String.ofList value))
      | none => (String.ofList rest, none)
    if name = "help" ∧ value.isNone then .error .help else find (·.name == name) value
  | '-' :: 'h' :: _ => .error .help
  | '-' :: letter :: rest =>
    let value := match rest with
      | [] => none
      | '=' :: rest => some (String.ofList rest)
      | rest => some (String.ofList rest)
    find (·.letter == some letter) value
  | _ => .error (.usage (.unexpected argument))

/-- Reads settings up to an argument that is none; nothing may follow two hyphens. -/
def readSettings (known : List Setting) (values : Values) :
    List String → Except Interruption (Values × List String)
  | [] => .ok (values, [])
  | "--" :: rest =>
    match rest with
    | [] => .ok (values, [])
    | a :: _ => .error (.usage (.unexpected a))
  | a :: rest =>
    if isValue a then .ok (values, a :: rest)
    else do
      match ← findSetting known a, rest with
      | (s, some v), rest => readSettings known (← addValue values s v) rest
      | (s, none), v :: rest =>
        if isValue v then readSettings known (← addValue values s v) rest
        else throw (.usage (.missingValue s.name))
      | (s, none), [] => throw (.usage (.missingValue s.name))

def value? (env : Environment) (values : Values) (s : Setting) : Option String :=
  (values.lookup s.name).or (s.standIn.bind env)

def textValue (env : Environment) (values : Values) (s : Setting) (default : String) : String :=
  (value? env values s).getD default

def choice? {α : Type} (env : Environment) (values : Values) (s : Setting)
    (names : List (String × α)) : Except UsageError (Option α) :=
  match value? env values s with
  | none => .ok none
  | some v => match names.lookup v with
    | some a => .ok (some a)
    | none => .error (.invalid s.name v)

def number (env : Environment) (values : Values) (s : Setting) (read : String → Option Nat)
    (default : Nat) : Except UsageError Nat :=
  match value? env values s with
  | none => .ok default
  | some v => match read v with
    | some n => .ok n
    | none => .error (.invalid s.name v)

def path? (env : Environment) (values : Values) (s : Setting) :
    Except UsageError (Option String) :=
  match value? env values s with
  | some "" => .error (.invalid s.name "")
  | v => .ok v

def required {α : Type} (s : Setting) (v : Option α) : Except UsageError α :=
  match v with
  | some v => .ok v
  | none => .error (.missing s.name)

def engineNames : List (String × EngineKind) := [("docker", .docker), ("containerd", .containerd)]

def runtimeOptions (env : Environment) (values : Values) : Except UsageError RuntimeOptions := do
  let requested ← choice? env values .containerRuntime engineNames
  let default ← choice? env values .defaultContainerRuntime engineNames
  return {
    containerRuntime := (requested.map EngineKind.name).getD ""
    defaultRuntime := default.getD .containerd
    containerdVersion := textValue env values .containerdVersion ""
    insecureRegistries := textValue env values .insecureRegistries ""
    registryMirrors := textValue env values .registryMirrors ""
    registryCredentialsSecret := textValue env values .registryCredentialsSecret ""
    pauseImage := textValue env values .pauseImage "" }

def provisionSettings : List Setting :=
  [.manifest, .userdataFile, .pollInterval, .pollAttempts, .output] ++ Setting.runtime

def provisionCommand (env : Environment) (values : Values) : Except UsageError Command := do
  let manifest ← path? env values .manifest
  let userdataFile ← path? env values .userdataFile
  let pollInterval ← number env values .pollInterval (Text.readNatural 64) 5
  let pollAttempts ← number env values .pollAttempts (Text.readSignedNatural 32) 5
  let output ← choice? env values .output [("text", OutputFormat.text), ("yaml", .yaml)]
  let runtime ← runtimeOptions env values
  return .provision {
    manifest := ← required .manifest manifest
    userdataFile, pollInterval, pollAttempts, output := output.getD .text, runtime }

def runtimeConfigSettings : List Setting := [.os, .kubeletVersion] ++ Setting.runtime

def runtimeConfigCommand (env : Environment) (values : Values) : Except UsageError Command := do
  let kubelet ← required .kubeletVersion (value? env values .kubeletVersion)
  return .runtimeConfig (textValue env values .os "ubuntu") kubelet (← runtimeOptions env values)

def commands : List (String × List Setting × (Environment → Values → Except UsageError Command)) :=
  [("provision", provisionSettings, provisionCommand),
    ("runtime-config", runtimeConfigSettings, runtimeConfigCommand),
    ("version", [], fun _ _ => .ok .version)]

def isHelpTopic : List String → Bool
  | [] => true
  | [name] => name = "help" || (commands.lookup name).isSome
  | _ => false

def readCommand (env : Environment) (name : String) (arguments : List String) :
    Except Interruption Command :=
  match commands.lookup name with
  | none =>
    .error (if name = "help" ∧ isHelpTopic arguments then .help else .usage (.unexpected name))
  | some (settings, make) => do
    let (values, rest) ← readSettings (.logFormat :: settings) [] arguments
    if let a :: _ := rest then throw (.usage (.unexpected a))
    discard <| (choice? env values .logFormat logFormats).mapError .usage
    (make env values).mapError .usage
where
  logFormats := [("text", ()), ("json", ())]

/-- Reads a command line. The format of the log may stand before the command or after it. -/
def Command.read (env : Environment) (arguments : List String) : Except UsageError Command :=
  let command : Except Interruption Command := do
    let (values, rest) ← readSettings [.logFormat] [] arguments
    match rest with
    | [] => throw (.usage .missingCommand)
    | name :: rest =>
      let command ← readCommand env name rest
      discard <| (choice? env values .logFormat readCommand.logFormats).mapError .usage
      return command
  match command with
  | .ok c => .ok c
  | .error .help => .ok .help
  | .error (.usage e) => .error e

end MachineFleet.Cli
