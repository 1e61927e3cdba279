import MachineFleet.Container.Engine

/-!
Runtime options and the engine that each kubelet gets. The options are read before anything is
rendered, so a bad one is reported first. From kubelet 1.24.0 on the engine is containerd,
whatever was asked for; pre-releases count as their release.
-/

namespace MachineFleet

structure RuntimeOptions where
  containerRuntime : String := ""
  containerdVersion : String := ""
  insecureRegistries : String := ""
  registryMirrors : String := ""
  registryCredentialsSecret : String := ""
  pauseImage : String := ""
  /-- The engine where none is asked for and the kubelet allows both. -/
  defaultRuntime : EngineKind := .containerd
  deriving Inhabited

structure RuntimeConfig where
  requested : Option EngineKind := none
  defaultEngine : EngineKind := .containerd
  insecureRegistries : List String := []
  registryMirrors : Mirrors := .empty
  registryCredentials : Credentials := .empty
  sandboxImage : String := ""
  containerdVersion : String := ""
  deriving Inhabited

namespace RuntimeOptions

def defaultSandboxImage : String := "registry.k8s.io/pause:3.9"

def defaultContainerdVersion : String := "1.7*"

/-- A value without the blanks around it, or a default for an empty one. -/
def orDefault (value default : String) : String :=
  let v := Text.trim value
  if v.isEmpty then default else v

def requested (o : RuntimeOptions) : Except RuntimeError (Option EngineKind) :=
  let name := Text.trim o.containerRuntime
  if name.isEmpty then .ok none else (EngineKind.ofName name).map some

def credentials (o : RuntimeOptions) (store : Option ObjectStore) :
    Except RuntimeError Credentials :=
  let ref := Text.trim o.registryCredentialsSecret
  if ref.isEmpty then .ok .empty
  else do
    let (ns, name) ← Credentials.readSecretRef ref
    match store with
    | none => throw (.config (.noObjectStore .secret ns name))
    | some store => Credentials.load store ns name

def build (o : RuntimeOptions) (store : Option ObjectStore) :
    Except RuntimeError RuntimeConfig := do
  let requested ← o.requested
  let registryCredentials ← o.credentials store
  let registryMirrors ← Mirrors.read o.registryMirrors
  return {
    requested, registryCredentials, registryMirrors
    defaultEngine := o.defaultRuntime
    insecureRegistries := MachineFleet.insecureRegistries o.insecureRegistries
    sandboxImage := orDefault o.pauseImage defaultSandboxImage
    containerdVersion := orDefault o.containerdVersion defaultContainerdVersion }

end RuntimeOptions

def readKubeletVersion (s : String) : Except RuntimeError Version :=
  (Version.readKubelet s).mapError (.invalidKubeletVersion s)

def EngineKind.select (v : Version) (requested : Option EngineKind) (default : EngineKind) :
    EngineKind :=
  if v.releaseBefore 1 24 0 then requested.getD default else .containerd

def selectEngine (kubelet : String) (requested : Option EngineKind) (default : EngineKind) :
    Except RuntimeError EngineKind :=
  (readKubeletVersion kubelet).map fun v => EngineKind.select v requested default

namespace RuntimeConfig

def dockerVersion : String := "20.10"

def engine (c : RuntimeConfig) (kubelet : String) : Except RuntimeError Engine := do
  let v ← readKubeletVersion kubelet
  match EngineKind.select v c.requested c.defaultEngine with
  | .docker => return .docker {
      insecureRegistries := c.insecureRegistries
      registryMirrors := (c.registryMirrors.get? Mirrors.defaultRegistry).getD []
      registryCredentials := c.registryCredentials
      containerdVersion := c.containerdVersion
      dockerVersion }
  | .containerd => return .containerd {
      insecureRegistries := c.insecureRegistries
      registryMirrors := c.registryMirrors
      registryCredentials := c.registryCredentials
      sandboxImage := c.sandboxImage
      version := c.containerdVersion
      remoteRuntimeFlag := v.releaseBefore 1 27 0 }

end RuntimeConfig

end MachineFleet
