import MachineFleet.Machine.Meta

/-!
The Machine resource: what is wanted of one node, and what became of it. The provider section of
the specification is any JSON value; its meaning is that of `ProviderConfig`.
-/

namespace MachineFleet

structure MachineSpec where
  metadata : ObjectMeta := {}
  taints : List Taint := []
  /-- The value of the provider section; absent and `null` are the same. -/
  provider : Option Json := none
  kubelet : String := ""
  providerId : Option String := none
  deriving Inhabited

structure MachineStatus where
  errorReason : Option String := none
  errorMessage : Option String := none
  addresses : List NodeAddress := []
  deriving DecidableEq, Repr, Inhabited

structure Machine where
  apiVersion : String := "cluster.k8s.io/v1alpha1"
  kind : String := "Machine"
  metadata : ObjectMeta := {}
  spec : MachineSpec := {}
  status : Option MachineStatus := none
  deriving Inhabited

namespace MachineStatus

def setTerminalError (s : MachineStatus) (reason message : String) : MachineStatus :=
  { s with errorReason := some reason, errorMessage := some message }

def clearError (s : MachineStatus) : MachineStatus :=
  { s with errorReason := none, errorMessage := none }

def setAddresses (s : MachineStatus) (addresses : List NodeAddress) : MachineStatus :=
  { s with addresses := addresses.mergeSort NodeAddress.precedes }

def reader : Json.Reader MachineStatus :=
  Json.RecordReader.read "MachineStatus" <|
    Json.RecordReader.of MachineStatus.mk
      |>.nullable "errorReason" .string
      |>.nullable "errorMessage" .string
      |>.orElse "addresses" (.list NodeAddress.reader) []

def toJson (s : MachineStatus) : Json :=
  .objOf [Json.optional "errorReason" (s.errorReason.map .str),
    Json.optional "errorMessage" (s.errorMessage.map .str),
    if s.addresses.isEmpty then none
    else some ("addresses", .arr (s.addresses.map NodeAddress.toJson))]

end MachineStatus

namespace MachineSpec

def providerReader : Json.Reader (Option Json) :=
  Json.RecordReader.read "ProviderSpec" <| Json.RecordReader.of id |>.nullable "value" .any

def versionsReader : Json.Reader String :=
  Json.RecordReader.read "MachineVersionInfo" <|
    Json.RecordReader.of id |>.orElse "kubelet" .string ""

def reader : Json.Reader MachineSpec :=
  Json.RecordReader.read "MachineSpec" <|
    Json.RecordReader.of MachineSpec.mk
      |>.orElse "metadata" ObjectMeta.reader {}
      |>.orElse "taints" (.list Taint.reader) []
      |>.orElse "providerSpec" providerReader none
      |>.orElse "versions" versionsReader ""
      |>.nullable "providerID" .string

def toJson (s : MachineSpec) : Json :=
  .objOf [some ("metadata", s.metadata.toJson),
    if s.taints.isEmpty then none else some ("taints", .arr (s.taints.map Taint.toJson)),
    some ("providerSpec", .objOf [Json.optional "value" s.provider]),
    some ("versions", .obj [("kubelet", .str s.kubelet)]),
    Json.optional "providerID" (s.providerId.map .str)]

end MachineSpec

namespace Machine

def ofName (name : String) (spec : MachineSpec) : Machine :=
  { metadata := { name := some name }, spec }

def withUid (m : Machine) (uid : String) : Machine :=
  { m with metadata := { m.metadata with uid := some uid } }

def name (m : Machine) : String := m.metadata.name.getD ""

def uid (m : Machine) : String := m.metadata.uid.getD ""

def hasFinalizer (m : Machine) (f : String) : Bool :=
  match m.metadata.finalizers with
  | some fs => fs.contains f
  | none => false

def withFinalizers (m : Machine) (fs : Option (List String)) : Machine :=
  { m with metadata := { m.metadata with finalizers := fs } }

def addFinalizer (m : Machine) (f : String) : Machine :=
  if m.hasFinalizer f then m else m.withFinalizers (some (m.metadata.finalizers.getD [] ++ [f]))

def removeFinalizer (m : Machine) (f : String) : Machine :=
  m.withFinalizers (m.metadata.finalizers.map fun fs => fs.filter (· != f))

def updateStatus (m : Machine) (change : MachineStatus → MachineStatus) : Machine :=
  { m with status := some (change (m.status.getD {})) }

def reader : Json.Reader Machine :=
  Json.RecordReader.read "Machine" <|
    Json.RecordReader.of Machine.mk
      |>.orElse "apiVersion" .string "cluster.k8s.io/v1alpha1"
      |>.orElse "kind" .string "Machine"
      |>.orElse "metadata" ObjectMeta.reader {}
      |>.orElse "spec" MachineSpec.reader {}
      |>.nullable "status" MachineStatus.reader

def toJson (m : Machine) : Json :=
  .objOf [some ("apiVersion", .str m.apiVersion), some ("kind", .str m.kind),
    some ("metadata", m.metadata.toJson), some ("spec", m.spec.toJson),
    Json.optional "status" (m.status.map MachineStatus.toJson)]

end Machine

end MachineFleet
