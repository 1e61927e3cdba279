import MachineFleet.Cloud.Call
import MachineFleet.Config.Resolver
import MachineFleet.Program

/-!
A cloud that keeps its instances in memory, one for each UID. It serves dry runs and tests: a
specification can ask for a failing validation, a failing creation, or an instance that has
addresses only after a number of look-ups.
-/

namespace MachineFleet.Fake

structure Spec where
  passValidation : BoolVar := {}
  /-- The number of look-ups before the instance has addresses. -/
  addressAfterPolls : Nat := 0
  createError : Option ErrorReason := none
  deriving DecidableEq, Repr, Inhabited

def Spec.reader : Json.Reader Spec :=
  Json.RecordReader.read "FakeProviderSpec" <|
    Json.RecordReader.of Spec.mk
      |>.orElse "passValidation" BoolVar.reader {}
      |>.orElse "addressAfterPolls" (.natural 32 "u32") 0
      |>.orElse "createError" (.option ErrorReason.reader) none

def Spec.toJson (s : Spec) : Json :=
  .objOf [some ("passValidation", s.passValidation.toJson),
    some ("addressAfterPolls", .ofNat s.addressAfterPolls),
    Json.optional "createError" (s.createError.map fun r => .str r.name)]

/-- The finalizer of a machine that may have an instance here. -/
def finalizer : String := "fake.machine-controller.k8c.io/instance"

structure Server where
  id : String
  name : String
  ordinal : Nat
  polls : Nat := 0
  addressAfterPolls : Nat := 0
  deriving DecidableEq, Repr, Inhabited

structure State where
  servers : Dict Server := .empty
  lastOrdinal : Nat := 0
  validateCalls : Nat := 0
  /-- The next validation fails as if the cloud could not be reached. -/
  failNext : Bool := false
  deriving Inhabited

namespace Server

def isReady (s : Server) : Bool := s.addressAfterPolls ≤ s.polls

def address (s : Server) : String := "192.0.2." ++ toString (s.ordinal % 254 + 1)

def snapshot (s : Server) : Instance where
  name := s.name
  id := s.id
  providerId := "fake://" ++ s.id
  addresses :=
    if s.isReady then
      (Dict.empty.insert s.address AddressType.externalIP).insert s.name .hostname
    else .empty
  status := if s.isReady then .running else .creating

end Server

def payload (spec : MachineSpec) : Except CloudError (ProviderConfig × Spec) :=
  ProviderConfig.requirePayload "fake" Spec.reader spec

def addDefaults (spec : MachineSpec) : Except CloudError MachineSpec := do
  let (c, s) ← payload spec
  return (c.withCloudSpec s.toJson).applyTo spec

def check (r : Resolver) (spec : MachineSpec) : Except CloudError Unit := do
  let c ← ProviderConfig.require spec
  if !c.operatingSystem.isSupported then
    throw (.invalidConfiguration
      ("unsupported operating system '" ++ c.operatingSystem.name ++ "'"))
  let (_, s) ← payload spec
  let pass ← (r.bool? s.passValidation).mapError .config
  if pass = some false then throw (.invalidConfiguration "failing validation as requested")

def validate (r : Resolver) (spec : MachineSpec) (s : State) : Except CloudError Unit × State :=
  let counted := { s with validateCalls := s.validateCalls + 1, failNext := false }
  if s.failNext then (.error (.ofText "simulated API outage"), counted)
  else (check r spec, counted)

def get (machine : Machine) (s : State) : Except CloudError Instance × State :=
  match s.servers.get? machine.uid with
  | none => (.error .instanceNotFound, s)
  | some server =>
    let server := { server with polls := server.polls + 1 }
    (.ok server.snapshot, { s with servers := s.servers.insert machine.uid server })

/-- The server of a UID, which is a new one unless it has one. -/
def place (machine : Machine) (addressAfterPolls : Nat) (s : State) : Instance × State :=
  match s.servers.get? machine.uid with
  | some server => (server.snapshot, s)
  | none =>
    let ordinal := s.lastOrdinal + 1
    let server : Server :=
      { id := "fake-" ++ toString ordinal, name := machine.name, ordinal, addressAfterPolls }
    (server.snapshot,
      { s with servers := s.servers.insert machine.uid server, lastOrdinal := ordinal })

abbrev Saving (α : Type) := Program Machine (fun _ => Except CloudError Machine) α

/-- Saves the machine with the finalizer before there is a server. -/
def create (machine : Machine) (s : State) : Saving (Except CloudError Instance × State) :=
  match payload machine.spec with
  | .error e => .done (.error e, s)
  | .ok (_, spec) =>
    match spec.createError with
    | some reason => .done (.error (.ofReason reason "failing create as requested"), s)
    | none => .ask (machine.addFinalizer finalizer) fun
      | .error e => .done (.error e, s)
      | .ok _ =>
        let (i, s) := place machine spec.addressAfterPolls s
        .done (.ok i, s)

/-- Removes the server and then saves the machine without the finalizer. -/
def cleanup (machine : Machine) (s : State) : Saving (Except CloudError Bool × State) :=
  let s := { s with servers := s.servers.erase machine.uid }
  .ask (machine.removeFinalizer finalizer) fun
    | .error e => .done (.error e, s)
    | .ok _ => .done (.ok true, s)

def migrateUid (machine : Machine) (newUid : String) (s : State) : State :=
  match s.servers.get? machine.uid with
  | none => s
  | some server =>
    { s with servers := (s.servers.erase machine.uid).insert newUid server }

def answer (r : Resolver) : (c : CloudCall) → State → Saving (c.Answer × State)
  | .addDefaults spec, s => .done (addDefaults spec, s)
  | .validate spec, s => .done (validate r spec s)
  | .get machine, s => .done (get machine s)
  | .create machine _, s => create machine s
  | .cleanup machine, s => cleanup machine s
  | .migrateUid machine newUid, s => .done (.ok (), migrateUid machine newUid s)
  | .cloudConfig _, s => .done (.ok ("", ""), s)
  | .metricsLabels _, s => .done (.ok Dict.empty, s)
  | .recordMetrics _, s => .done (.ok (), s)

end MachineFleet.Fake
