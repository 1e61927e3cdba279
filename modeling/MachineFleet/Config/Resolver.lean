import MachineFleet.ConfigVar
import MachineFleet.Config.Store
import MachineFleet.Text.Blank

/-!
Resolution of configuration variables. The sources of a value are, in this order, the literal,
the referenced secret, the referenced config map and an environment variable. A reference that
cannot be followed is an error, whatever the sources after it hold. An empty text falls through
to the environment; a switch does so only when no source sets it.
-/

namespace MachineFleet

abbrev Environment := String → Option String

structure Resolver where
  store : Option ObjectStore := none
  environment : Environment := fun _ => none

def parseBool (raw : String) : Except ConfigError Bool :=
  let s := Text.trim raw
  if ["1", "t", "T", "true", "TRUE", "True"].contains s then .ok true
  else if ["0", "f", "F", "false", "FALSE", "False"].contains s then .ok false
  else .error (.invalidBool s)

namespace Resolver

def secretValue (r : Resolver) (k : KeyRef) : Except ConfigError String := do
  let some store := r.store
    | throw (.noObjectStore .secret k.namespaceName k.name)
  let secret ← store.secret k.namespaceName k.name
  match secret.value? k.key with
  | none => throw (.keyMissing .secret k.namespaceName k.name k.key)
  | some bytes => match String.fromUTF8? bytes with
    | some s => return s
    | none => throw (.invalidUtf8 k.namespaceName k.name k.key)

def configMapValue (r : Resolver) (k : KeyRef) : Except ConfigError String := do
  let some store := r.store
    | throw (.noObjectStore .configMap k.namespaceName k.name)
  let configMap ← store.configMap k.namespaceName k.name
  match configMap.data.get? k.key with
  | some s => return s
  | none => throw (.keyMissing .configMap k.namespaceName k.name k.key)

/-- The text behind the references, that of the secret first; nothing without a reference. -/
def referenced (r : Resolver) (refs : References) : Except ConfigError (Option String) :=
  match refs.secret, refs.configMap with
  | some k, _ => (r.secretValue k).map some
  | none, some k => (r.configMapValue k).map some
  | none, none => .ok none

def string (r : Resolver) (v : StringVar) : Except ConfigError String :=
  if !v.value.isEmpty then .ok v.value
  else (r.referenced v.refs).map fun s => s.getD ""

def strings (r : Resolver) : List StringVar → Except ConfigError (List String)
  | [] => .ok []
  | v :: rest => do
    let s ← r.string v
    let ss ← r.strings rest
    return s :: ss

def stringOrEnv (r : Resolver) (v : StringVar) (name : String) : Except ConfigError String := do
  let s ← r.string v
  if s.isEmpty then return (r.environment name).getD "" else return s

def bool? (r : Resolver) (v : BoolVar) : Except ConfigError (Option Bool) :=
  match v.value with
  | some b => .ok (some b)
  | none => do
    match ← r.referenced v.refs with
    | some raw => return some (← parseBool raw)
    | none => return none

def boolOrEnv? (r : Resolver) (v : BoolVar) (name : String) :
    Except ConfigError (Option Bool) := do
  match ← r.bool? v with
  | some b => return some b
  | none =>
    match r.environment name with
    | none => return none
    | some raw =>
      if raw.isEmpty then return none
      else match parseBool raw with
        | .ok b => return some b
        | .error _ => throw (.invalidEnvBool name raw)

/-- A switch as it is used, off where no source sets it, and whether one does. -/
def found (b : Option Bool) : Bool × Bool := (b.getD false, b.isSome)

def boolFound (r : Resolver) (v : BoolVar) : Except ConfigError (Bool × Bool) :=
  (r.bool? v).map found

def bool (r : Resolver) (v : BoolVar) : Except ConfigError Bool := (r.boolFound v).map (·.1)

def boolOrEnvFound (r : Resolver) (v : BoolVar) (name : String) :
    Except ConfigError (Bool × Bool) :=
  (r.boolOrEnv? v name).map found

def boolOrEnv (r : Resolver) (v : BoolVar) (name : String) : Except ConfigError Bool :=
  (r.boolOrEnvFound v name).map (·.1)

end Resolver

end MachineFleet
