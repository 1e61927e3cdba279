import MachineFleet.Text.Natural
import MachineFleet.Vultr.Api

/-!
Machines on Vultr. The instance of a machine has the machine's UID among its tags, and a creation
looks for that tag first, so repeating it makes no second instance.
-/

namespace MachineFleet.Vultr

structure Spec where
  apiKey : StringVar := {}
  region : StringVar := {}
  plan : StringVar := {}
  osId : StringVar := {}
  enableIpv6 : BoolVar := {}
  vpcIds : List StringVar := []
  tags : List String := []
  deriving DecidableEq, Repr, Inhabited

def Spec.reader : Json.Reader Spec :=
  Json.RecordReader.read "VultrProviderSpec" <|
    Json.RecordReader.of Spec.mk
      |>.orElse "apiKey" StringVar.reader {}
      |>.orElse "region" StringVar.reader {}
      |>.orElse "plan" StringVar.reader {}
      |>.orElse "osId" StringVar.reader {}
      |>.orElse "enableIPv6" BoolVar.reader {}
      |>.orElse "vpcId" (.list StringVar.reader) []
      |>.orElse "tags" (.list .string) []

def Spec.toJson (s : Spec) : Json :=
  .objOf [some ("apiKey", s.apiKey.toJson),
    some ("region", s.region.toJson),
    some ("plan", s.plan.toJson),
    some ("osId", s.osId.toJson),
    some ("enableIPv6", s.enableIpv6.toJson),
    if s.vpcIds.isEmpty then none else some ("vpcId", .arr (s.vpcIds.map StringVar.toJson)),
    if s.tags.isEmpty then none else some ("tags", .ofList s.tags)]

def keyVariable : String := "VULTR_API_KEY"

structure Config where
  apiKey : String
  region : String
  plan : String
  osId : String
  enableIpv6 : Bool
  vpcIds : List String
  tags : List String
  operatingSystem : OperatingSystem
  deriving DecidableEq, Repr, Inhabited

def payload (spec : MachineSpec) : Except CloudError (ProviderConfig × Spec) :=
  ProviderConfig.requirePayload "vultr" Spec.reader spec

def config (r : Resolver) (spec : MachineSpec) : Except CloudError Config := do
  let (envelope, raw) ← payload spec
  let vpcIds ← (r.strings raw.vpcIds).mapError .config
  let apiKey ← (r.stringOrEnv raw.apiKey keyVariable).mapError .config
  let region ← (r.string raw.region).mapError .config
  let plan ← (r.string raw.plan).mapError .config
  let osId ← (r.string raw.osId).mapError .config
  let ipv6 ← (r.bool? raw.enableIpv6).mapError .config
  return {
    apiKey, region, plan, osId, vpcIds
    enableIpv6 := ipv6.getD false
    tags := raw.tags
    operatingSystem := envelope.operatingSystem }

def client (base : String) (c : Config) : Client := { base, token := c.apiKey }

def findInstance (c : Client) (uid : String) : Operation (Option Server) := do
  return (← Operation.ofApi ApiError.toCloud (c.listByTag uid)).head?

def family : OperatingSystem → Except CloudError String
  | .ubuntu => .ok "ubuntu"
  | .centos => .ok "centos"
  | .rockyLinux => .ok "rockylinux"
  | .flatcar => .ok "flatcar"
  | os => .error (.invalidConfiguration
      ("operating system '" ++ os.name ++ "' is not supported on vultr"))

/-- The number of the operating system: the one that is given, or the first of its family for the
common architecture. -/
def resolveOs (api : Client) (c : Config) : Operation Nat := do
  if !c.osId.isEmpty then
    match Text.readNatural 64 c.osId with
    | some n => return n
    | none => throw (.invalidConfiguration ("osId '" ++ c.osId ++ "' is not a number"))
  else
    let f ← Operation.ofExcept (family c.operatingSystem)
    let images ← Operation.ofApi ApiError.toCloud api.listImages
    match images.find? fun i => i.family == f && i.arch == "x64" with
    | some i => return i.id
    | none => throw (.invalidConfiguration
        ("no vultr image found for operating system '" ++ c.operatingSystem.name ++ "'"))

def checkSettings (c : Config) : Except CloudError Unit :=
  if c.apiKey.isEmpty then .error (.missing "apiKey")
  else if c.region.isEmpty then .error (.missing "region")
  else if c.plan.isEmpty then .error (.missing "plan")
  else .ok ()

def checkPlan (c : Config) (plans : List Plan) : Except CloudError Unit :=
  match plans.find? (·.id == c.plan) with
  | none => .error (.invalidConfiguration ("plan '" ++ c.plan ++ "' not found"))
  | some p =>
    if !p.locations.isEmpty && !p.locations.contains c.region then
      .error (.ofReason .insufficientResources
        ("plan '" ++ c.plan ++ "' is not available in region '" ++ c.region ++ "'"))
    else .ok ()

def validate (base : String) (r : Resolver) (spec : MachineSpec) : Operation Unit := do
  let c ← Operation.ofExcept (config r spec)
  Operation.ofExcept (checkSettings c)
  let api := client base c
  let regions ← Operation.ofApi ApiError.toCloud api.listRegions
  if !regions.contains c.region then
    throw (.invalidConfiguration ("region '" ++ c.region ++ "' not found"))
  let plans ← Operation.ofApi ApiError.toCloud api.listPlans
  Operation.ofExcept (checkPlan c plans)
  discard <| resolveOs api c

def get (base : String) (r : Resolver) (machine : Machine) : Operation Instance := do
  let c ← Operation.ofExcept (config r machine.spec)
  match ← findInstance (client base c) machine.uid with
  | some s => return s.snapshot
  | none => throw .instanceNotFound

def createBody (c : Config) (machine : Machine) (userdata : String) (os : Nat) : Json :=
  .objOf [some ("region", .str c.region),
    some ("plan", .str c.plan),
    some ("os_id", .ofNat os),
    some ("label", .str machine.name),
    some ("hostname", .str machine.name),
    some ("user_data", .str (Base64.encodeText userdata)),
    some ("tags", .ofList (c.tags ++ [machine.uid])),
    some ("enable_ipv6", .bool c.enableIpv6),
    if c.vpcIds.isEmpty then none else some ("attach_vpc", .ofList c.vpcIds)]

def create (base : String) (r : Resolver) (machine : Machine) (userdata : String) :
    Operation Instance := do
  let c ← Operation.ofExcept (config r machine.spec)
  let api := client base c
  match ← findInstance api machine.uid with
  | some s => return s.snapshot
  | none =>
    let os ← resolveOs api c
    let s ← Operation.ofApi ApiError.toCloud (api.createInstance (createBody c machine userdata os))
    return s.snapshot

/-- An instance that cannot be found is gone. -/
def cleanup (base : String) (r : Resolver) (machine : Machine) : Operation Bool := do
  let c ← Operation.ofExcept (config r machine.spec)
  let api := client base c
  match ← findInstance api machine.uid with
  | none => return true
  | some s =>
    match ← Operation.observe (api.deleteInstance s.id) with
    | .ok () => return false
    | .error e => if e.isNotFound then return true else throw e.toCloud

def migrateUid (base : String) (r : Resolver) (machine : Machine) (newUid : String) :
    Operation Unit := do
  let c ← Operation.ofExcept (config r machine.spec)
  let api := client base c
  match ← findInstance api machine.uid with
  | none => return ()
  | some s =>
    let tags := s.tags.filter (· != machine.uid) ++ [newUid]
    Operation.ofApi ApiError.toCloud (api.setTags s.id tags)

def metricsLabels (machine : Machine) : Except CloudError (Dict String) := do
  let (_, raw) ← payload machine.spec
  return Dict.ofList [("size", raw.plan.value), ("region", raw.region.value)]

def answer (base : String) (r : Resolver) : (c : CloudCall) → Http.Exchange c.Answer
  | .addDefaults spec => .done (.ok spec)
  | .validate spec => validate base r spec
  | .get machine => get base r machine
  | .create machine userdata => create base r machine userdata
  | .cleanup machine => cleanup base r machine
  | .migrateUid machine newUid => migrateUid base r machine newUid
  | .cloudConfig _ => .done (.ok ("", ""))
  | .metricsLabels machine => .done (metricsLabels machine)
  | .recordMetrics _ => .done (.ok ())

end MachineFleet.Vultr
