import MachineFleet.Hetzner.Api

/-!
Machines on Hetzner Cloud. The server of a machine carries the machine's UID as a label, and a
creation looks for that label first, so repeating it makes no second server.
-/

namespace MachineFleet.Hetzner

structure Spec where
  token : StringVar := {}
  serverType : StringVar := {}
  datacenter : StringVar := {}
  location : StringVar := {}
  image : StringVar := {}
  networks : List StringVar := []
  assignPublicIpv4 : BoolVar := {}
  assignPublicIpv6 : BoolVar := {}
  labels : Dict String := .empty
  deriving DecidableEq, Inhabited

def Spec.reader : Json.Reader Spec :=
  Json.RecordReader.read "HetznerProviderSpec" <|
    Json.RecordReader.of Spec.mk
      |>.orElse "token" StringVar.reader {}
      |>.orElse "serverType" StringVar.reader {}
      |>.orElse "datacenter" StringVar.reader {}
      |>.orElse "location" StringVar.reader {}
      |>.orElse "image" StringVar.reader {}
      |>.orElse "networks" (.list StringVar.reader) []
      |>.orElse "assignPublicIpv4" BoolVar.reader {}
      |>.orElse "assignPublicIpv6" BoolVar.reader {}
      |>.orElse "labels" (.dict .string) .empty

def Spec.toJson (s : Spec) : Json :=
  .objOf [some ("token", s.token.toJson),
    some ("serverType", s.serverType.toJson),
    some ("datacenter", s.datacenter.toJson),
    some ("location", s.location.toJson),
    some ("image", s.image.toJson),
    if s.networks.isEmpty then none
    else some ("networks", .arr (s.networks.map StringVar.toJson)),
    some ("assignPublicIpv4", s.assignPublicIpv4.toJson),
    some ("assignPublicIpv6", s.assignPublicIpv6.toJson),
    if s.labels.isEmpty then none else some ("labels", .ofDict s.labels)]

def tokenVariable : String := "HZ_TOKEN"

def uidLabel : String := "machine-uid"

def defaultLocation : String := "fsn1"

structure Config where
  token : String
  serverType : String
  datacenter : String
  location : String
  image : String
  networks : List String
  assignPublicIpv4 : Bool
  assignPublicIpv6 : Bool
  labels : Dict String
  sshPublicKeys : List String
  deriving Inhabited

def defaultImage : OperatingSystem → Except CloudError String
  | .ubuntu => .ok "ubuntu-24.04"
  | .centos => .ok "centos-stream-9"
  | .rockyLinux => .ok "rocky-9"
  | os => .error (.invalidConfiguration
      ("operating system '" ++ os.name ++ "' is not supported on hetzner"))

def payload (spec : MachineSpec) : Except CloudError (ProviderConfig × Spec) :=
  ProviderConfig.requirePayload "hetzner" Spec.reader spec

def config (r : Resolver) (spec : MachineSpec) : Except CloudError Config := do
  let (envelope, raw) ← payload spec
  let token ← (r.stringOrEnv raw.token tokenVariable).mapError .config
  let chosen ← (r.string raw.image).mapError .config
  let image ← if chosen.isEmpty then defaultImage envelope.operatingSystem else .ok chosen
  let networks ← (r.strings raw.networks).mapError .config
  let v4 ← (r.bool? raw.assignPublicIpv4).mapError .config
  let v6 ← (r.bool? raw.assignPublicIpv6).mapError .config
  let serverType ← (r.string raw.serverType).mapError .config
  let datacenter ← (r.string raw.datacenter).mapError .config
  let location ← (r.string raw.location).mapError .config
  return {
    token, serverType, datacenter, location, image, networks
    assignPublicIpv4 := v4.getD true
    assignPublicIpv6 := v6.getD true
    labels := raw.labels
    sshPublicKeys := envelope.sshPublicKeys }

def client (base : String) (c : Config) : Client := { base, token := c.token }

def findServer (c : Client) (uid : String) : Operation (Option Server) := do
  return (← Operation.ofApi ApiError.toCloud (c.listServers (uidLabel ++ "=" ++ uid))).head?

def require (c : Client) (collection kind name : String) : Operation Nat := do
  match ← Operation.ofApi ApiError.toCloud (c.findByName collection name) with
  | some r => return r.id
  | none => throw (.invalidConfiguration (kind ++ " '" ++ name ++ "' not found"))

def requireNetworks (c : Client) : List String → Operation (List Nat)
  | [] => return []
  | n :: rest => do
    let id ← require c "networks" "network" n
    let ids ← requireNetworks c rest
    return id :: ids

def checkSettings (c : Config) : Except CloudError Unit :=
  if c.token.isEmpty then .error (.missing "token")
  else if c.serverType.isEmpty then .error (.missing "serverType")
  else if !c.location.isEmpty && !c.datacenter.isEmpty then
    .error (.invalidConfiguration "location and datacenter must not be set at the same time")
  else .ok ()

def addDefaults (spec : MachineSpec) : Except CloudError MachineSpec := do
  let (envelope, raw) ← payload spec
  let raw := if raw.datacenter.isEmpty && raw.location.isEmpty then
      { raw with location := .literal defaultLocation }
    else raw
  return (envelope.withCloudSpec raw.toJson).applyTo spec

def validate (base : String) (r : Resolver) (spec : MachineSpec) : Operation Unit := do
  let c ← Operation.ofExcept (config r spec)
  Operation.ofExcept (checkSettings c)
  let api := client base c
  if !c.location.isEmpty then
    discard <| require api "locations" "location" c.location
  if !c.datacenter.isEmpty then
    discard <| require api "datacenters" "datacenter" c.datacenter
  discard <| require api "server_types" "server type" c.serverType
  discard <| require api "images" "image" c.image
  discard <| requireNetworks api c.networks

def get (base : String) (r : Resolver) (machine : Machine) : Operation Instance := do
  let c ← Operation.ofExcept (config r machine.spec)
  match ← findServer (client base c) machine.uid with
  | some s => return s.snapshot
  | none => throw .instanceNotFound

def uploadKeys (c : Client) (uid : String) : Nat → List String → Operation (List Nat)
  | _, [] => return []
  | i, k :: rest => do
    let key ← Operation.ofApi ApiError.toCloud (c.createKey (uid ++ "-" ++ toString i) k)
    let ids ← uploadKeys c uid (i + 1) rest
    return key.id :: ids

def deleteKeys (c : Client) : List Nat → Operation Unit
  | [] => return ()
  | id :: rest => do
    discard <| Operation.observe (c.deleteKey id)
    deleteKeys c rest

def textMember (name value : String) : Option (String × Json) :=
  if value.isEmpty then none else some (name, .str value)

def createBody (c : Config) (machine : Machine) (userdata : String) (keys networks : List Nat) :
    Json :=
  .objOf [some ("name", .str machine.name),
    some ("server_type", .str c.serverType),
    some ("image", .str c.image),
    textMember "location" c.location,
    textMember "datacenter" c.datacenter,
    some ("user_data", .str userdata),
    some ("ssh_keys", .arr (keys.map .ofNat)),
    some ("labels", .ofDict (c.labels.insert uidLabel machine.uid)),
    if networks.isEmpty then none else some ("networks", .arr (networks.map .ofNat)),
    some ("public_net", .obj [("enable_ipv4", .bool c.assignPublicIpv4),
      ("enable_ipv6", .bool c.assignPublicIpv6)])]

/-- Makes a server unless there is one. The keys are deleted whether it can be made or not. -/
def create (base : String) (r : Resolver) (machine : Machine) (userdata : String) :
    Operation Instance := do
  let c ← Operation.ofExcept (config r machine.spec)
  let api := client base c
  match ← findServer api machine.uid with
  | some s => return s.snapshot
  | none =>
    let networks ← requireNetworks api c.networks
    let keys ← uploadKeys api machine.uid 0 c.sshPublicKeys
    let made ← Operation.observe (api.createServer (createBody c machine userdata keys networks))
    deleteKeys api keys
    match made with
    | .ok s => return s.snapshot
    | .error e => throw e.toCloud

/-- A server that is being deleted is left alone, and one that cannot be found is gone. -/
def cleanup (base : String) (r : Resolver) (machine : Machine) : Operation Bool := do
  let c ← Operation.ofExcept (config r machine.spec)
  let api := client base c
  match ← findServer api machine.uid with
  | none => return true
  | some s =>
    if instanceStatus s.status = .deleting then return false
    else match ← Operation.observe (api.deleteServer s.id) with
      | .ok () => return false
      | .error e => if e.isNotFound then return true else throw e.toCloud

def migrateUid (base : String) (r : Resolver) (machine : Machine) (newUid : String) :
    Operation Unit := do
  let c ← Operation.ofExcept (config r machine.spec)
  let api := client base c
  match ← findServer api machine.uid with
  | none => return ()
  | some s =>
    discard <| Operation.ofApi ApiError.toCloud
      (api.updateLabels s.id (s.labels.insert uidLabel newUid))

/-- The literals of the specification, the location before the datacenter. -/
def metricsLabels (machine : Machine) : Except CloudError (Dict String) := do
  let (_, raw) ← payload machine.spec
  let location := if raw.location.value.isEmpty then raw.datacenter.value else raw.location.value
  return Dict.ofList
    [("size", raw.serverType.value), ("location", location), ("image", raw.image.value)]

def answer (base : String) (r : Resolver) : (c : CloudCall) → Http.Exchange c.Answer
  | .addDefaults spec => .done (addDefaults spec)
  | .validate spec => validate base r spec
  | .get machine => get base r machine
  | .create machine userdata => create base r machine userdata
  | .cleanup machine => cleanup base r machine
  | .migrateUid machine newUid => migrateUid base r machine newUid
  | .cloudConfig _ => .done (.ok ("", ""))
  | .metricsLabels machine => .done (metricsLabels machine)
  | .recordMetrics _ => .done (.ok ())

end MachineFleet.Hetzner
