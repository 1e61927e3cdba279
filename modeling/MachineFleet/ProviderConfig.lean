import MachineFleet.ConfigVar
import MachineFleet.Machine.Basic

/-!
The provider section of a Machine: an envelope that names a cloud and an operating system, with
one payload for each. The payload of the cloud stays JSON until the named cloud reads it.
-/

namespace MachineFleet

inductive CloudProvider where
  | alibaba
  | anexia
  | aws
  | azure
  | baremetal
  | cherryServers
  | digitalOcean
  | edge
  | equinixMetal
  | fake
  | gce
  | hetzner
  | kubeVirt
  | linode
  | nutanix
  | openNebula
  | openStack
  | scaleway
  | vmwareCloudDirector
  | vSphere
  | vultr
  deriving DecidableEq, Repr, Inhabited

inductive SpecError where
  | missingProviderSpec (name : String)
  | invalidProviderSpec (cause : Json.DecodeError)
  | invalidCloudProviderSpec (provider : String) (cause : Json.DecodeError)
  | invalidOperatingSystemSpec (os : String) (cause : Json.DecodeError)
  | unknownCloudProvider (name : String)
  deriving DecidableEq, Repr

def SpecError.message : SpecError → String
  | .missingProviderSpec name => "machine " ++ name ++ " has no providerSpec.value"
  | .invalidProviderSpec e => "failed to decode providerSpec: " ++ e.message
  | .invalidCloudProviderSpec p e =>
    "failed to decode cloudProviderSpec for " ++ p ++ ": " ++ e.message
  | .invalidOperatingSystemSpec os e =>
    "failed to decode operatingSystemSpec for " ++ os ++ ": " ++ e.message
  | .unknownCloudProvider name => "unknown cloud provider: " ++ name

namespace CloudProvider

def name : CloudProvider → String
  | .alibaba => "alibaba"
  | .anexia => "anexia"
  | .aws => "aws"
  | .azure => "azure"
  | .baremetal => "baremetal"
  | .cherryServers => "cherryservers"
  | .digitalOcean => "digitalocean"
  | .edge => "edge"
  | .equinixMetal => "equinixmetal"
  | .fake => "fake"
  | .gce => "gce"
  | .hetzner => "hetzner"
  | .kubeVirt => "kubevirt"
  | .linode => "linode"
  | .nutanix => "nutanix"
  | .openNebula => "opennebula"
  | .openStack => "openstack"
  | .scaleway => "scaleway"
  | .vmwareCloudDirector => "vmware-cloud-director"
  | .vSphere => "vsphere"
  | .vultr => "vultr"

def all : List CloudProvider :=
  [.alibaba, .anexia, .aws, .azure, .baremetal, .cherryServers, .digitalOcean, .edge,
    .equinixMetal, .fake, .gce, .hetzner, .kubeVirt, .linode, .nutanix, .openNebula, .openStack,
    .scaleway, .vmwareCloudDirector, .vSphere, .vultr]

def otherNames : CloudProvider → List String
  | .equinixMetal => ["packet"]
  | _ => []

def names : List (String × CloudProvider) :=
  all.flatMap fun p => (p.name :: p.otherNames).map (·, p)

def ofName (s : String) : Except SpecError CloudProvider :=
  match names.lookup s with
  | some p => .ok p
  | none => .error (.unknownCloudProvider s)

def reader : Json.Reader CloudProvider := .oneOf names

def toJson (p : CloudProvider) : Json := .str p.name

end CloudProvider

/-- The operating system of a node. Names that are not supported are kept, so that they can be
reported. -/
inductive OperatingSystem where
  | ubuntu
  | centos
  | rhel
  | sles
  | flatcar
  | amazonLinux2
  | rockyLinux
  | other (name : String)
  deriving DecidableEq, Repr, Inhabited

namespace OperatingSystem

def name : OperatingSystem → String
  | .ubuntu => "ubuntu"
  | .centos => "centos"
  | .rhel => "rhel"
  | .sles => "sles"
  | .flatcar => "flatcar"
  | .amazonLinux2 => "amzn2"
  | .rockyLinux => "rockylinux"
  | .other n => n

def supported : List OperatingSystem :=
  [.ubuntu, .centos, .rhel, .sles, .flatcar, .amazonLinux2, .rockyLinux]

def ofName (s : String) : OperatingSystem := (supported.find? (·.name == s)).getD (.other s)

def isSupported : OperatingSystem → Bool
  | .other _ => false
  | _ => true

def reader : Json.Reader OperatingSystem := fun d => (Json.Reader.string d).map ofName

def toJson (os : OperatingSystem) : Json := .str os.name

end OperatingSystem

inductive IpFamily where
  | ipv4
  | ipv6
  | dualStack
  deriving DecidableEq, Repr, Inhabited

namespace IpFamily

def name : IpFamily → String
  | .ipv4 => "IPv4"
  | .ipv6 => "IPv6"
  | .dualStack => "IPv4+IPv6"

def reader : Json.Reader IpFamily :=
  .oneOf ([.ipv4, .ipv6, .dualStack].map fun f => (f.name, f))

end IpFamily

structure NetworkConfig where
  cidr : String := ""
  gateway : String := ""
  dnsServers : List String := []
  ipFamily : Option IpFamily := none
  deriving DecidableEq, Repr, Inhabited

namespace NetworkConfig

def dnsReader : Json.Reader (List String) :=
  Json.RecordReader.read "DnsConfig" <|
    Json.RecordReader.of id |>.orElse "servers" (.list .string) []

def reader : Json.Reader NetworkConfig :=
  Json.RecordReader.read "NetworkConfig" <|
    Json.RecordReader.of NetworkConfig.mk
      |>.orElse "cidr" .string ""
      |>.orElse "gateway" .string ""
      |>.orElse "dns" dnsReader []
      |>.nullable "ipFamily" IpFamily.reader

def toJson (n : NetworkConfig) : Json :=
  .objOf [some ("cidr", .str n.cidr), some ("gateway", .str n.gateway),
    some ("dns", .obj [("servers", .ofList n.dnsServers)]),
    Json.optional "ipFamily" (n.ipFamily.map fun f => .str f.name)]

end NetworkConfig

structure ProviderConfig where
  sshPublicKeys : List String := []
  cloudProvider : CloudProvider := .fake
  cloudProviderSpec : Json := .null
  operatingSystem : OperatingSystem := .ubuntu
  operatingSystemSpec : Json := .null
  network : Option NetworkConfig := none
  overwriteCloudConfig : Option String := none
  deriving Inhabited

namespace ProviderConfig

def reader : Json.Reader ProviderConfig :=
  Json.RecordReader.read "ProviderConfig" <|
    Json.RecordReader.of ProviderConfig.mk
      |>.orElse "sshPublicKeys" (.list .string) []
      |>.required "cloudProvider" CloudProvider.reader
      |>.orElse "cloudProviderSpec" .any .null
      |>.required "operatingSystem" OperatingSystem.reader
      |>.orElse "operatingSystemSpec" .any .null
      |>.nullable "network" NetworkConfig.reader
      |>.nullable "overwriteCloudConfig" .string

def toJson (c : ProviderConfig) : Json :=
  .objOf [some ("sshPublicKeys", .ofList c.sshPublicKeys),
    some ("cloudProvider", c.cloudProvider.toJson),
    some ("cloudProviderSpec", c.cloudProviderSpec),
    some ("operatingSystem", c.operatingSystem.toJson),
    some ("operatingSystemSpec", c.operatingSystemSpec),
    Json.optional "network" (c.network.map NetworkConfig.toJson),
    Json.optional "overwriteCloudConfig" (c.overwriteCloudConfig.map .str)]

def ofSpec (spec : MachineSpec) : Except SpecError ProviderConfig :=
  match spec.provider with
  | none => .error (.missingProviderSpec (spec.metadata.name.getD "<unnamed>"))
  | some value => (Json.decode reader value).mapError .invalidProviderSpec

/-- A payload as it is read: `null` counts as an empty object. -/
def payload : Json → Json
  | .null => .obj []
  | j => j

def readCloudSpec {α : Type} (c : ProviderConfig) (r : Json.Reader α) : Except SpecError α :=
  (Json.decode r (payload c.cloudProviderSpec)).mapError
    (.invalidCloudProviderSpec c.cloudProvider.name)

def readSystemSpec {α : Type} (c : ProviderConfig) (r : Json.Reader α) : Except SpecError α :=
  (Json.decode r (payload c.operatingSystemSpec)).mapError
    (.invalidOperatingSystemSpec c.operatingSystem.name)

def withCloudSpec (c : ProviderConfig) (payload : Json) : ProviderConfig :=
  { c with cloudProviderSpec := payload.sorted }

def applyTo (c : ProviderConfig) (spec : MachineSpec) : MachineSpec :=
  { spec with provider := some c.toJson.sorted }

end ProviderConfig

end MachineFleet
