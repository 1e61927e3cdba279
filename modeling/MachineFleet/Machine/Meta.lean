import MachineFleet.Machine.Timestamp

/-!
Cluster object types that a Machine contains: object metadata, taints and node addresses. They
are read from JSON objects only, any member may be `null` or absent, and absent members are not
written.
-/

namespace MachineFleet

structure OwnerReference where
  apiVersion : String := ""
  blockOwnerDeletion : Option Bool := none
  controller : Option Bool := none
  kind : String := ""
  name : String := ""
  uid : String := ""
  deriving DecidableEq, Repr, Inhabited

structure ManagedFields where
  apiVersion : Option String := none
  fieldsType : Option String := none
  fields : Option Json := none
  manager : Option String := none
  operation : Option String := none
  subresource : Option String := none
  time : Option Timestamp := none
  deriving Repr, Inhabited

structure ObjectMeta where
  annotations : Option (Dict String) := none
  creationTimestamp : Option Timestamp := none
  deletionGracePeriodSeconds : Option Int := none
  deletionTimestamp : Option Timestamp := none
  finalizers : Option (List String) := none
  generateName : Option String := none
  generation : Option Int := none
  labels : Option (Dict String) := none
  managedFields : Option (List ManagedFields) := none
  name : Option String := none
  namespaceName : Option String := none
  ownerReferences : Option (List OwnerReference) := none
  resourceVersion : Option String := none
  selfLink : Option String := none
  uid : Option String := none
  deriving Inhabited

structure Taint where
  effect : String := ""
  key : String := ""
  timeAdded : Option Timestamp := none
  value : Option String := none
  deriving DecidableEq, Repr, Inhabited

structure NodeAddress where
  address : String := ""
  type : String := ""
  deriving DecidableEq, Repr, Inhabited

namespace Json.RecordReader

def nullable {α β : Type} (r : RecordReader (Option α → β)) (name : String) (read : Reader α) :
    RecordReader β :=
  r.orElse name (.option read) none

def defaulted {α β : Type} [Inhabited α] (r : RecordReader (α → β)) (name : String)
    (read : Reader α) : RecordReader β :=
  r.orElse name (fun d => (Reader.option read d).map fun v => v.getD default) default

end Json.RecordReader

def Json.Reader.int64 : Json.Reader Int := .integer (-(Nat.pow 2 63)) (Nat.pow 2 63 - 1) "i64"

namespace OwnerReference

def reader : Json.Reader OwnerReference :=
  Json.RecordReader.readObject "OwnerReference" <|
    Json.RecordReader.of OwnerReference.mk
      |>.defaulted "apiVersion" .string
      |>.nullable "blockOwnerDeletion" .bool
      |>.nullable "controller" .bool
      |>.defaulted "kind" .string
      |>.defaulted "name" .string
      |>.defaulted "uid" .string

def toJson (o : OwnerReference) : Json :=
  .objOf [some ("apiVersion", .str o.apiVersion),
    Json.optional "blockOwnerDeletion" (o.blockOwnerDeletion.map .bool),
    Json.optional "controller" (o.controller.map .bool),
    some ("kind", .str o.kind), some ("name", .str o.name), some ("uid", .str o.uid)]

end OwnerReference

namespace ManagedFields

def reader : Json.Reader ManagedFields :=
  Json.RecordReader.readObject "ManagedFieldsEntry" <|
    Json.RecordReader.of ManagedFields.mk
      |>.nullable "apiVersion" .string
      |>.nullable "fieldsType" .string
      |>.nullable "fieldsV1" .any
      |>.nullable "manager" .string
      |>.nullable "operation" .string
      |>.nullable "subresource" .string
      |>.nullable "time" Timestamp.reader

def toJson (m : ManagedFields) : Json :=
  .objOf [Json.optional "apiVersion" (m.apiVersion.map .str),
    Json.optional "fieldsType" (m.fieldsType.map .str),
    Json.optional "fieldsV1" m.fields,
    Json.optional "manager" (m.manager.map .str),
    Json.optional "operation" (m.operation.map .str),
    Json.optional "subresource" (m.subresource.map .str),
    Json.optional "time" (m.time.map Timestamp.toJson)]

end ManagedFields

namespace ObjectMeta

def reader : Json.Reader ObjectMeta :=
  Json.RecordReader.readObject "ObjectMeta" <|
    Json.RecordReader.of ObjectMeta.mk
      |>.nullable "annotations" (.dict .string)
      |>.nullable "creationTimestamp" Timestamp.reader
      |>.nullable "deletionGracePeriodSeconds" .int64
      |>.nullable "deletionTimestamp" Timestamp.reader
      |>.nullable "finalizers" (.list .string)
      |>.nullable "generateName" .string
      |>.nullable "generation" .int64
      |>.nullable "labels" (.dict .string)
      |>.nullable "managedFields" (.list ManagedFields.reader)
      |>.nullable "name" .string
      |>.nullable "namespace" .string
      |>.nullable "ownerReferences" (.list OwnerReference.reader)
      |>.nullable "resourceVersion" .string
      |>.nullable "selfLink" .string
      |>.nullable "uid" .string

def toJson (m : ObjectMeta) : Json :=
  .objOf [Json.optional "annotations" (m.annotations.map .ofDict),
    Json.optional "creationTimestamp" (m.creationTimestamp.map Timestamp.toJson),
    Json.optional "deletionGracePeriodSeconds" (m.deletionGracePeriodSeconds.map .ofInt),
    Json.optional "deletionTimestamp" (m.deletionTimestamp.map Timestamp.toJson),
    Json.optional "finalizers" (m.finalizers.map .ofList),
    Json.optional "generateName" (m.generateName.map .str),
    Json.optional "generation" (m.generation.map .ofInt),
    Json.optional "labels" (m.labels.map .ofDict),
    Json.optional "managedFields" (m.managedFields.map fun l => .arr (l.map (·.toJson))),
    Json.optional "name" (m.name.map .str),
    Json.optional "namespace" (m.namespaceName.map .str),
    Json.optional "ownerReferences" (m.ownerReferences.map fun l => .arr (l.map (·.toJson))),
    Json.optional "resourceVersion" (m.resourceVersion.map .str),
    Json.optional "selfLink" (m.selfLink.map .str),
    Json.optional "uid" (m.uid.map .str)]

end ObjectMeta

namespace Taint

def reader : Json.Reader Taint :=
  Json.RecordReader.readObject "Taint" <|
    Json.RecordReader.of Taint.mk
      |>.defaulted "effect" .string
      |>.defaulted "key" .string
      |>.nullable "timeAdded" Timestamp.reader
      |>.nullable "value" .string

def toJson (t : Taint) : Json :=
  .objOf [some ("effect", .str t.effect), some ("key", .str t.key),
    Json.optional "timeAdded" (t.timeAdded.map Timestamp.toJson),
    Json.optional "value" (t.value.map .str)]

end Taint

namespace NodeAddress

def reader : Json.Reader NodeAddress :=
  Json.RecordReader.readObject "NodeAddress" <|
    Json.RecordReader.of NodeAddress.mk
      |>.defaulted "address" .string
      |>.defaulted "type" .string

def toJson (a : NodeAddress) : Json := .obj [("address", .str a.address), ("type", .str a.type)]

def precedes (a b : NodeAddress) : Bool :=
  a.type < b.type || (a.type == b.type && a.address ≤ b.address)

end NodeAddress

end MachineFleet
