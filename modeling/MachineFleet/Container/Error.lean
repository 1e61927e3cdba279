import MachineFleet.Config.Store
import MachineFleet.Container.Version

/-!
Failures of container runtime options and of what is rendered from them.
-/

namespace MachineFleet

inductive RuntimeError where
  | unsupportedRuntime (name : String)
  | invalidMirror (mirror reason : String)
  | invalidCredentialsSecretRef (text : String)
  | invalidCredentials (secret message : String)
  | config (cause : ConfigError)
  | invalidKubeletVersion (version : String) (cause : Version.Fault)
  | unknownOperatingSystem (name : String)
  | template (message : String)
  | toml (message : String)
  | json (message : String)
  deriving DecidableEq, Repr

namespace RuntimeError

def message : RuntimeError → String
  | .unsupportedRuntime n =>
    "unsupported container runtime '" ++ n ++ "' (expected docker or containerd)"
  | .invalidMirror m reason => "invalid registry mirror '" ++ m ++ "': " ++ reason
  | .invalidCredentialsSecretRef t =>
    "registry credentials secret must be '<namespace>/<name>', got '" ++ t ++ "'"
  | .invalidCredentials s m =>
    "malformed registry credentials in secret " ++ s ++ ": " ++ m
  | .config e => e.message
  | .invalidKubeletVersion v e => "invalid kubelet version '" ++ v ++ "': " ++ e.message
  | .unknownOperatingSystem n => "unknown operating system '" ++ n ++ "'"
  | .template m => "failed to render bootstrap script: " ++ m
  | .toml m => "failed to encode containerd config: " ++ m
  | .json m => "failed to encode JSON: " ++ m

def isWorded : RuntimeError → Bool
  | .config e => e.isWorded
  | _ => true

end RuntimeError

end MachineFleet
