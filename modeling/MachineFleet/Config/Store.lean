import MachineFleet.Machine.Meta
import MachineFleet.Encoding.Base64

/-!
Stores of secrets and config maps, and why a configuration value cannot be found in one. The
values of a secret are bytes.
-/

namespace MachineFleet

inductive ObjectKind where
  | secret
  | configMap
  deriving DecidableEq, Repr

def ObjectKind.name : ObjectKind → String
  | .secret => "secret"
  | .configMap => "configmap"

inductive ConfigError where
  | noObjectStore (kind : ObjectKind) (namespaceName name : String)
  | notFound (kind : ObjectKind) (namespaceName name : String)
  | keyMissing (kind : ObjectKind) (namespaceName name key : String)
  | invalidUtf8 (namespaceName name key : String)
  | invalidBool (value : String)
  | invalidEnvBool (name value : String)
  | clusterApi
  deriving DecidableEq, Repr

def ConfigError.message : ConfigError → String
  | .noObjectStore k ns n =>
    "cannot resolve " ++ k.name ++ " " ++ ns ++ "/" ++ n ++ ": no Kubernetes client configured"
  | .notFound k ns n => k.name ++ " " ++ ns ++ "/" ++ n ++ " not found"
  | .keyMissing k ns n key => "key '" ++ key ++ "' missing in " ++ k.name ++ " " ++ ns ++ "/" ++ n
  | .invalidUtf8 ns n key =>
    "key '" ++ key ++ "' in secret " ++ ns ++ "/" ++ n ++ " is not valid UTF-8"
  | .invalidBool v => "invalid boolean value '" ++ v ++ "'"
  | .invalidEnvBool n v =>
    "environment variable " ++ n ++ " holds an invalid boolean: '" ++ v ++ "'"
  | .clusterApi => "Kubernetes API error"

def ConfigError.isWorded : ConfigError → Bool
  | .clusterApi => false
  | _ => true

structure Secret where
  type : Option String := none
  data : Dict ByteArray := .empty
  stringData : Dict String := .empty

structure ConfigMap where
  data : Dict String := .empty

structure ObjectStore where
  secret : (namespaceName name : String) → Except ConfigError Secret
  configMap : (namespaceName name : String) → Except ConfigError ConfigMap

namespace Secret

def ofTexts (type : String) (data : Dict String) : Secret :=
  { type := some type, data := data.mapValues String.toUTF8 }

/-- The bytes of a key. Encoded data comes before the texts that are still to be encoded. -/
def value? (s : Secret) (key : String) : Option ByteArray :=
  (s.data.get? key).or ((s.stringData.get? key).map String.toUTF8)

def bytesReader : Json.Reader ByteArray
  | .str s => match Base64.decode s.toList with
    | some bytes => .ok ⟨bytes.toArray⟩
    | none => .error (.refused "invalid base64")
  | d => .error (d.mismatch "a base64-encoded string")

def fixedReader (expected : String) : Json.Reader String
  | .str s => if s = expected then .ok s else .error (.invalidValue (.str s) expected)
  | d => .error (d.mismatch "a string")

def reader : Json.Reader Secret :=
  Json.RecordReader.readObject "Secret" <|
    Json.RecordReader.of (fun _ _ data _ _ stringData type =>
        Secret.mk type (data.getD .empty) (stringData.getD .empty))
      |>.orElse "apiVersion" (fixedReader "v1") ""
      |>.orElse "kind" (fixedReader "Secret") ""
      |>.nullable "data" (.dict bytesReader)
      |>.nullable "immutable" .bool
      |>.nullable "metadata" ObjectMeta.reader
      |>.nullable "stringData" (.dict .string)
      |>.nullable "type" .string

end Secret

namespace ConfigMap

def reader : Json.Reader ConfigMap :=
  Json.RecordReader.readObject "ConfigMap" <|
    Json.RecordReader.of (fun _ _ _ data _ _ => ConfigMap.mk (data.getD .empty))
      |>.orElse "apiVersion" (Secret.fixedReader "v1") ""
      |>.orElse "kind" (Secret.fixedReader "ConfigMap") ""
      |>.nullable "binaryData" (.dict Secret.bytesReader)
      |>.nullable "data" (.dict .string)
      |>.nullable "immutable" .bool
      |>.nullable "metadata" ObjectMeta.reader

end ConfigMap

structure Named (α : Type) where
  namespaceName : String
  name : String
  object : α

namespace Named

def find? {α : Type} (os : List (Named α)) (ns name : String) : Option α :=
  (os.find? fun o => o.namespaceName == ns && o.name == name).map (·.object)

end Named

namespace ObjectStore

/-- A store that holds its objects; of two with one name the later counts. -/
def ofObjects (secrets : List (Named Secret)) (configMaps : List (Named ConfigMap)) :
    ObjectStore where
  secret ns name := match Named.find? secrets.reverse ns name with
    | some s => .ok s
    | none => .error (.notFound .secret ns name)
  configMap ns name := match Named.find? configMaps.reverse ns name with
    | some c => .ok c
    | none => .error (.notFound .configMap ns name)

inductive Reply where
  | object (j : Json)
  | failure (status : Nat)

/-- Reads an answer: a missing object has status 404, and an object that cannot be read is as
good as a failure. -/
def readReply {α : Type} (r : Json.Reader α) (kind : ObjectKind) (ns name : String) :
    Option Reply → Except ConfigError α
  | none => .error (.notFound kind ns name)
  | some (.failure status) =>
    .error (if status = 404 then .notFound kind ns name else .clusterApi)
  | some (.object j) => (Json.decode r j).mapError fun _ => .clusterApi

/-- A store behind the cluster API, given its answers; the first one for a name counts. -/
def ofReplies (secrets configMaps : List (Named Reply)) : ObjectStore where
  secret ns name := readReply Secret.reader .secret ns name (Named.find? secrets ns name)
  configMap ns name :=
    readReply ConfigMap.reader .configMap ns name (Named.find? configMaps ns name)

end ObjectStore

end MachineFleet
