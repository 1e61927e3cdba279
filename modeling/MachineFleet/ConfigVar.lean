import MachineFleet.Json.Decode

/-!
Configuration variables. A variable holds a literal, a reference to a key of a secret, a
reference to a key of a config map, or several of these. Without a reference it is written as the
bare literal. A text variable without a literal holds the empty text; a switch without a literal
is unset, which differs from off.
-/

namespace MachineFleet

structure KeyRef where
  namespaceName : String := ""
  name : String := ""
  key : String := ""
  deriving DecidableEq, Repr, Inhabited

structure References where
  secret : Option KeyRef := none
  configMap : Option KeyRef := none
  deriving DecidableEq, Repr, Inhabited

structure StringVar where
  value : String := ""
  refs : References := {}
  deriving DecidableEq, Repr, Inhabited

structure BoolVar where
  value : Option Bool := none
  refs : References := {}
  deriving DecidableEq, Repr, Inhabited

namespace KeyRef

def reader : Json.Reader KeyRef :=
  Json.RecordReader.read "KeySelector" <|
    Json.RecordReader.of KeyRef.mk
      |>.orElse "namespace" .string ""
      |>.orElse "name" .string ""
      |>.orElse "key" .string ""

def toJson (r : KeyRef) : Json :=
  .obj [("namespace", .str r.namespaceName), ("name", .str r.name), ("key", .str r.key)]

end KeyRef

namespace References

def isNone (r : References) : Bool := r.secret.isNone && r.configMap.isNone

def members (r : References) : List (Option (String × Json)) :=
  [Json.optional "secretKeyRef" (r.secret.map KeyRef.toJson),
   Json.optional "configMapKeyRef" (r.configMap.map KeyRef.toJson)]

end References

/-- Reads a variable: `null` for one without anything, a literal, or a record with the literal
and the references. What is neither is refused without saying why, but only after all of it has
been read. -/
def readVariable {α : Type} (type : String) (empty : α) (literal : Json.Reader α)
    (record : Json.RecordReader α) : Json.Reader α
  | .null => .ok empty
  | d => do
    let _ ← Json.Reader.any d
    match (Json.Reader.attempt literal d).or
        (Json.Reader.attempt (record.read "Variable") d) with
    | some v => .ok v
    | none => .error (.noShape type)

namespace StringVar

def literal (s : String) : StringVar := { value := s }

def ofSecret (r : KeyRef) : StringVar := { refs := { secret := some r } }

def ofConfigMap (r : KeyRef) : StringVar := { refs := { configMap := some r } }

def hasReference (v : StringVar) : Bool := !v.refs.isNone

def isEmpty (v : StringVar) : Bool := v.value.isEmpty && !v.hasReference

def record : Json.RecordReader StringVar :=
  Json.RecordReader.of (fun v s c => StringVar.mk v ⟨s, c⟩)
    |>.orElse "value" .string ""
    |>.orElse "secretKeyRef" (.option KeyRef.reader) none
    |>.orElse "configMapKeyRef" (.option KeyRef.reader) none

def reader : Json.Reader StringVar :=
  readVariable "StringWire" {} (fun d => (Json.Reader.string d).map literal) record

def toJson (v : StringVar) : Json :=
  if v.refs.isNone then .str v.value
  else .objOf (Json.optional "value" (if v.value.isEmpty then none else some (.str v.value)) ::
    v.refs.members)

end StringVar

namespace BoolVar

def literal (b : Bool) : BoolVar := { value := some b }

def hasReference (v : BoolVar) : Bool := !v.refs.isNone

def record : Json.RecordReader BoolVar :=
  Json.RecordReader.of (fun v s c => BoolVar.mk v ⟨s, c⟩)
    |>.orElse "value" (.option .bool) none
    |>.orElse "secretKeyRef" (.option KeyRef.reader) none
    |>.orElse "configMapKeyRef" (.option KeyRef.reader) none

def reader : Json.Reader BoolVar :=
  readVariable "BoolWire" {} (fun d => (Json.Reader.bool d).map literal) record

def valueJson (v : BoolVar) : Json :=
  match v.value with
  | some b => .bool b
  | none => .null

def toJson (v : BoolVar) : Json :=
  if v.refs.isNone then v.valueJson
  else .objOf (Json.optional "value" (v.value.map .bool) :: v.refs.members)

end BoolVar

end MachineFleet
