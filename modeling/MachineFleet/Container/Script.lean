import MachineFleet.Container.Error
import MachineFleet.ProviderConfig
import MachineFleet.Text.Split

/-!
The commands that install a container engine on each operating system, with variables for the
versions. They are empty for systems whose images ship the engine, and missing for systems that
are not supported.
-/

namespace MachineFleet.Script

inductive Part where
  | text (s : String)
  | slot (name : String)
  deriving DecidableEq, Repr

/-- The lines of a template, each without its end. -/
abbrev Template := List (List Part)

/-- A line without variables. -/
def plain (s : String) : List Part := [.text s]

def containerdVersion : Part := .slot "containerd_version"

def dockerVersion : Part := .slot "docker_version"

/-- A variable that the context does not have is a failure of the whole template. -/
def renderLine (context : Dict String) : List Part → Except RuntimeError String
  | [] => .ok ""
  | .text s :: rest => do return s ++ (← renderLine context rest)
  | .slot name :: rest =>
    match context.get? name with
    | none => .error (.template "Failed to render '__tera_one_off'")
    | some value => do return value ++ (← renderLine context rest)

def renderLines (context : Dict String) : Template → Except RuntimeError (List String)
  | [] => .ok []
  | line :: rest => do
    let s ← renderLine context line
    let ss ← renderLines context rest
    return s :: ss

def render (context : Dict String) (t : Template) : Except RuntimeError String :=
  (renderLines context t).map Text.unlines

def containerdApt : Template := [
  plain "mkdir -p /etc/apt/keyrings",
  plain ("curl -fsSL https://download.docker.com/linux/ubuntu/gpg | gpg --dearmor --yes -o " ++
    "/etc/apt/keyrings/docker.gpg"),
  plain ("echo \"deb [signed-by=/etc/apt/keyrings/docker.gpg] " ++
    "https://download.docker.com/linux/ubuntu $(lsb_release -cs) stable\" > " ++
    "/etc/apt/sources.list.d/docker.list"),
  plain "apt-get update",
  [.text ("DEBIAN_FRONTEND=noninteractive apt-get install -y --allow-downgrades " ++
    "containerd.io="), containerdVersion],
  plain "apt-mark hold containerd.io",
  plain "systemctl daemon-reload",
  plain "systemctl enable --now containerd",
  plain "systemctl restart containerd"]

def containerdYum : Template := [
  plain "yum install -y yum-utils",
  plain "yum-config-manager --add-repo=https://download.docker.com/linux/centos/docker-ce.repo",
  plain "yum-config-manager --save --setopt=docker-ce-stable.module_hotfixes=true",
  [.text "yum install -y containerd.io-", containerdVersion, .text " yum-plugin-versionlock"],
  plain "yum versionlock add containerd.io",
  plain "systemctl daemon-reload",
  plain "systemctl enable --now containerd",
  plain "systemctl restart containerd"]

def containerdAmazon : Template := [
  [.text "yum install -y containerd-", containerdVersion, .text " yum-plugin-versionlock"],
  plain "yum versionlock add containerd",
  plain "systemctl daemon-reload",
  plain "systemctl enable --now containerd",
  plain "systemctl restart containerd"]

def dockerApt : Template := [
  plain "mkdir -p /etc/apt/keyrings",
  plain ("curl -fsSL https://download.docker.com/linux/ubuntu/gpg | gpg --dearmor --yes -o " ++
    "/etc/apt/keyrings/docker.gpg"),
  plain ("echo \"deb [signed-by=/etc/apt/keyrings/docker.gpg] " ++
    "https://download.docker.com/linux/ubuntu $(lsb_release -cs) stable\" > " ++
    "/etc/apt/sources.list.d/docker.list"),
  plain "apt-get update",
  plain "DEBIAN_FRONTEND=noninteractive apt-get install -y --allow-downgrades \\",
  [.text "    containerd.io=", containerdVersion, .text " \\"],
  [.text "    docker-ce=5:", dockerVersion, .text "* \\"],
  [.text "    docker-ce-cli=5:", dockerVersion, .text "*"],
  plain "apt-mark hold docker-ce* containerd.io",
  plain "systemctl daemon-reload",
  plain "systemctl enable --now docker",
  plain "systemctl restart docker"]

def dockerYum : Template := [
  plain "yum install -y yum-utils",
  plain "yum-config-manager --add-repo=https://download.docker.com/linux/centos/docker-ce.repo",
  plain "yum-config-manager --save --setopt=docker-ce-stable.module_hotfixes=true",
  plain "yum install -y yum-plugin-versionlock \\",
  [.text "    containerd.io-", containerdVersion, .text " \\"],
  [.text "    docker-ce-", dockerVersion, .text "* \\"],
  [.text "    docker-ce-cli-", dockerVersion, .text "*"],
  plain "yum versionlock add docker-ce* containerd.io",
  plain "systemctl daemon-reload",
  plain "systemctl enable --now docker",
  plain "systemctl restart docker"]

def dockerAmazon : Template := [
  [.text "yum install -y docker-", dockerVersion, .text "* yum-plugin-versionlock"],
  plain "yum versionlock add docker",
  plain "systemctl daemon-reload",
  plain "systemctl enable --now docker",
  plain "systemctl restart docker"]

def containerd : OperatingSystem → Option Template
  | .ubuntu => some containerdApt
  | .centos | .rhel | .rockyLinux => some containerdYum
  | .amazonLinux2 => some containerdAmazon
  | .flatcar | .sles => some []
  | .other _ => none

def docker : OperatingSystem → Option Template
  | .ubuntu => some dockerApt
  | .centos | .rhel | .rockyLinux => some dockerYum
  | .amazonLinux2 => some dockerAmazon
  | .flatcar | .sles => some []
  | .other _ => none

end MachineFleet.Script
