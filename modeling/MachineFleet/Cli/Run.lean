import MachineFleet.Cli.Arguments
import MachineFleet.Cli.Manifest
import MachineFleet.Cli.Report
import MachineFleet.Registry

/-!
The program for the command line: it provisions the machines of a manifest, shows what a node
would install, or tells its version. It asks for the files that it reads and results in what it
prints. No cluster and no network are at hand, so references and clouds behind an API fail.
-/

namespace MachineFleet.Cli

inductive FileError where
  | notFound
  | isDirectory
  | notDirectory
  | notText
  | other (message : String)
  deriving DecidableEq, Repr, Inhabited

def FileError.message : FileError → String
  | .notFound => "No such file or directory (os error 2)"
  | .isDirectory => "Is a directory (os error 21)"
  | .notDirectory => "Not a directory (os error 20)"
  | .notText => "stream did not contain valid UTF-8"
  | .other m => m

structure Outcome where
  status : Nat := 0
  stdout : String := ""
  stderr : String := ""
  deriving DecidableEq, Repr, Inhabited

abbrev Session (α : Type) := Program String (fun _ => Except FileError String) α

abbrev Attempt (α : Type) := ExceptT FatalError (Program String fun _ => Except FileError String) α

def attempt {α : Type} (x : Except FatalError α) : Attempt α := Program.done x

/-- The contents of a file; `kind` names it where it cannot be read. -/
def readFile (kind path : String) : Attempt String :=
  (Program.query path).bind fun (r : Except FileError String) =>
    .done (r.mapError fun e =>
      { message := "failed to read " ++ kind ++ " " ++ path, causes := [e.message] })

def readMachines (path : String) : Attempt (List Machine) := do
  let text ← readFile "manifest" path
  let machines ← attempt <| (Manifest.read text).mapError fun
    | .malformed f =>
      { message := "failed to parse manifest " ++ path, causes := [f.message] : FatalError }
    | .invalid e => { message := "invalid Machine in " ++ path, causes := [e.message] }
  if machines.isEmpty then throw { message := "no Machine found in " ++ path }
  return machines

def readExtra : Option String → Attempt (Option String)
  | none => return none
  | some path => return some (← readFile "userdata" path)

def provisionMachines (env : Environment) (a : ProvisionArguments) (p : Provisioner)
    (machines : List Machine) : List MachineReport :=
  let settings : CloudSettings := {
    resolver := { environment := env }
    interval := a.pollInterval * 1000
    keepInstances := false }
  let clouds : Clouds := { cache := some { ttl := ValidationCache.defaultTtl } }
  (Clouds.provision settings (p.createMachines machines) clouds).1

def printReports (output : OutputFormat) (rs : List MachineReport) : String :=
  match output with
  | .text => textReport rs
  | .yaml => yamlReport rs

def provision (env : Environment) (a : ProvisionArguments) :
    Attempt (String × Option FatalError) := do
  let machines ← readMachines a.manifest
  let runtime ← attempt <| (a.runtime.build none).mapError fun e =>
    (FatalError.ofRuntime e).inside "invalid container runtime options"
  let extraUserdata ← readExtra a.userdataFile
  let rs := provisionMachines env a { runtime, extraUserdata, attempts := a.pollAttempts } machines
  let failed := rs.countP fun r => r.result matches .error _
  return (printReports a.output rs,
    if failed = 0 then none
    else some
      ⟨toString failed ++ " of " ++ toString rs.length ++ " machines failed to provision", []⟩)

def fileLines (path content : String) : List String := ["# " ++ path, Text.trimEnd content, ""]

def runtimeConfig (os kubelet : String) (o : RuntimeOptions) : Except RuntimeError String := do
  let config ← o.build none
  let engine ← config.engine kubelet
  let os := OperatingSystem.ofName os
  let script ← engine.script os
  let file ← engine.renderConfig
  let credentials ← engine.renderAuth
  let auth := match engine.authFile, credentials with
    | some path, some content => fileLines path content
    | _, _ => []
  let install := if Text.isAllBlank script then "(none, engine is preinstalled)"
    else Text.trimEnd script
  return Text.unlines (["Engine: " ++ engine.kind.name,
      "Kubelet flags: " ++ String.intercalate " " engine.kubeletFlags, ""] ++
    fileLines engine.configFile file ++ auth ++
    ["# bootstrap script for " ++ os.name, install])

def versionText : String := "machine-controller 0.9.0\n"

def helpText : String := Text.unlines
  ["Provisions cloud instances for Kubernetes Machine resources", "",
    "Usage: machine-controller <provision|runtime-config|version> [OPTIONS]"]

def perform (env : Environment) : Command → Attempt (String × Option FatalError)
  | .provision a => provision env a
  | .runtimeConfig os kubelet o =>
    attempt ((runtimeConfig os kubelet o).mapError FatalError.ofRuntime) >>= fun s => pure (s, none)
  | .version => pure (versionText, none)
  | .help => pure (helpText, none)

def outcome : Except FatalError (String × Option FatalError) → Outcome
  | .error e => { status := 1, stderr := e.text }
  | .ok (s, none) => { stdout := s }
  | .ok (s, some e) => { status := 1, stdout := s, stderr := e.text }

def run (env : Environment) (arguments : List String) : Session Outcome :=
  match Command.read env arguments with
  | .error e => .done { status := 2, stderr := "error: " ++ e.message ++ "\n" }
  | .ok c => (perform env c).run.bind fun r => .done (outcome r)

end MachineFleet.Cli
