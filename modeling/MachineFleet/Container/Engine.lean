import MachineFleet.Container.Credentials
import MachineFleet.Container.Mirror
import MachineFleet.Container.Script
import MachineFleet.Toml

/-!
Container engines and the files that a node needs for them: the configuration of the daemon, the
registry credentials where the engine keeps them apart, and the kubelet flags.
-/

namespace MachineFleet

inductive EngineKind where
  | docker
  | containerd
  deriving DecidableEq, Repr

instance : Inhabited EngineKind := ⟨.containerd⟩

namespace EngineKind

def name : EngineKind → String
  | .docker => "docker"
  | .containerd => "containerd"

def ofName (s : String) : Except RuntimeError EngineKind :=
  let n := Text.lowerAscii (Text.trim s)
  if n = "docker" then .ok .docker
  else if n = "containerd" then .ok .containerd
  else .error (.unsupportedRuntime s)

end EngineKind

structure DockerConfig where
  insecureRegistries : List String := []
  /-- The mirrors of the default registry, the only one that docker mirrors. -/
  registryMirrors : List String := []
  registryCredentials : Credentials := .empty
  containerdVersion : String := ""
  dockerVersion : String := ""
  deriving Inhabited

structure ContainerdConfig where
  insecureRegistries : List String := []
  registryMirrors : Mirrors := .empty
  registryCredentials : Credentials := .empty
  sandboxImage : String := ""
  version : String := ""
  /-- The kubelet still has to be told that its runtime is remote. -/
  remoteRuntimeFlag : Bool := false
  deriving Inhabited

namespace DockerConfig

def kubeletFlags : List String :=
  ["--container-runtime=docker",
    "--container-runtime-endpoint=unix:///var/run/dockershim.sock"]

def listMember (name : String) (items : List String) : Option (String × Json) :=
  if items.isEmpty then none else some (name, .ofList items)

def daemon (c : DockerConfig) : Json :=
  .objOf [some ("exec-opts", .ofList ["native.cgroupdriver=systemd"]),
    some ("storage-driver", .str "overlay2"),
    some ("log-driver", .str "json-file"),
    some ("log-opts", .obj [("max-file", .str "5"), ("max-size", .str "100m")]),
    listMember "insecure-registries" c.insecureRegistries,
    listMember "registry-mirrors" c.registryMirrors]

def config (c : DockerConfig) : String := c.daemon.pretty

def render (c : DockerConfig) : Except RuntimeError String := c.daemon.encodePretty.mapError .json

def auths (c : DockerConfig) : Json :=
  (Json.obj [("auths", c.registryCredentials.toJson)]).sorted

def authConfig (c : DockerConfig) : Option String :=
  if c.registryCredentials.isEmpty then none else some c.auths.pretty

def renderAuth (c : DockerConfig) : Except RuntimeError (Option String) :=
  if c.registryCredentials.isEmpty then .ok none
  else (c.auths.encodePretty.map some).mapError .json

end DockerConfig

namespace ContainerdConfig

def kubeletFlags (c : ContainerdConfig) : List String :=
  (if c.remoteRuntimeFlag then ["--container-runtime=remote"] else []) ++
    ["--container-runtime-endpoint=unix:///run/containerd/containerd.sock"]

/-- What the document says of one registry: whether its certificate is checked, and with what
credentials it is used. -/
structure Access where
  insecure : Bool := false
  auth : Option AuthConfig := none
  deriving Inhabited

def Access.toToml (a : Access) : Toml :=
  .table ((if a.insecure then [("tls", .table [("insecure_skip_verify", .bool true)])] else []) ++
    match a.auth with
    | some auth => [("auth", .table (auth.fields.map fun f => (f.1, .str f.2)))]
    | none => [])

def access (c : ContainerdConfig) : Dict Access :=
  let insecure := c.insecureRegistries.foldl
    (fun d r => d.insert r { (d.get? r).getD {} with insecure := true }) Dict.empty
  c.registryCredentials.entries.foldl
    (fun d e => d.insert e.1 { (d.get? e.1).getD {} with auth := some e.2 }) insecure

def tableEntry (name : String) (entries : List (String × Toml)) : List (String × Toml) :=
  if entries.isEmpty then [] else [(name, .table entries)]

def registry (c : ContainerdConfig) : List (String × Toml) :=
  tableEntry "mirrors" (c.registryMirrors.entries.map fun e =>
      (e.1, .table [("endpoint", .strings e.2)])) ++
    tableEntry "configs" (c.access.entries.map fun e => (e.1, e.2.toToml))

def runtimeInterface (c : ContainerdConfig) : List (String × Toml) :=
  (if c.sandboxImage.isEmpty then [] else [("sandbox_image", .str c.sandboxImage)]) ++
    [("containerd", .table [("runtimes", .table [("runc", .table [
        ("runtime_type", .str "io.containerd.runc.v2"),
        ("options", .table [("SystemdCgroup", .bool true)])])])]),
      ("registry", .table c.registry)]

def document (c : ContainerdConfig) : List (String × Toml) :=
  [("version", .int 2),
    ("metrics", .table [("address", .str "127.0.0.1:1338")]),
    ("plugins", .table [("io.containerd.grpc.v1.cri", .table c.runtimeInterface)])]

def config (c : ContainerdConfig) : String := String.ofList (Toml.documentText c.document)

def render (c : ContainerdConfig) : Except RuntimeError String :=
  ((Toml.encode c.document).map String.ofList).mapError .toml

end ContainerdConfig

inductive Engine where
  | docker (c : DockerConfig)
  | containerd (c : ContainerdConfig)
  deriving Inhabited

namespace Engine

def kind : Engine → EngineKind
  | .docker _ => .docker
  | .containerd _ => .containerd

def kubeletFlags : Engine → List String
  | .docker _ => DockerConfig.kubeletFlags
  | .containerd c => c.kubeletFlags

def template : Engine → OperatingSystem → Option Script.Template
  | .docker _ => Script.docker
  | .containerd _ => Script.containerd

/-- The values of the variables in the templates of the engine. -/
def context : Engine → Dict String
  | .docker c => Dict.ofList
    [("docker_version", c.dockerVersion), ("containerd_version", c.containerdVersion)]
  | .containerd c => Dict.ofList [("containerd_version", c.version)]

def script (e : Engine) (os : OperatingSystem) : Except RuntimeError String :=
  match e.template os with
  | some t => Script.render e.context t
  | none => .error (.unknownOperatingSystem os.name)

def configFile : Engine → String
  | .docker _ => "/etc/docker/daemon.json"
  | .containerd _ => "/etc/containerd/config.toml"

def config : Engine → String
  | .docker c => c.config
  | .containerd c => c.config

/-- The configuration file, unless it cannot be encoded. -/
def renderConfig : Engine → Except RuntimeError String
  | .docker c => c.render
  | .containerd c => c.render

def authFile : Engine → Option String
  | .docker _ => some "/root/.docker/config.json"
  | .containerd _ => none

def authConfig : Engine → Option String
  | .docker c => c.authConfig
  | .containerd _ => none

/-- The file of credentials, if there is one, unless it cannot be encoded. -/
def renderAuth : Engine → Except RuntimeError (Option String)
  | .docker c => c.renderAuth
  | .containerd _ => .ok none

end Engine

end MachineFleet
