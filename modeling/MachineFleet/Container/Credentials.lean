import MachineFleet.Container.Error
import MachineFleet.Json.Bytes
import MachineFleet.Text.Blank
import MachineFleet.Text.Split

/-!
Registry credentials in secrets. A secret of the type for client configurations holds one
document with an `auths` map; any other secret holds one document for each registry. A name and
password that are given in one encoded text are taken apart, and one malformed entry refuses the
whole secret.
-/

namespace MachineFleet

structure AuthConfig where
  username : String := ""
  password : String := ""
  /-- Name and password with a colon between them, in Base64. -/
  auth : String := ""
  identityToken : String := ""
  registryToken : String := ""
  deriving DecidableEq, Repr, Inhabited

abbrev Credentials := Dict AuthConfig

namespace AuthConfig

def reader : Json.Reader AuthConfig :=
  Json.RecordReader.read "AuthConfig" <|
    Json.RecordReader.of AuthConfig.mk
      |>.orElse "username" .string ""
      |>.orElse "password" .string ""
      |>.orElse "auth" .string ""
      |>.orElse "identitytoken" .string ""
      |>.orElse "registrytoken" .string ""

def fields (a : AuthConfig) : List (String × String) :=
  [("username", a.username), ("password", a.password), ("auth", a.auth),
    ("identitytoken", a.identityToken), ("registrytoken", a.registryToken)].filter
      fun f => !f.2.isEmpty

def toJson (a : AuthConfig) : Json := .obj (a.fields.map fun f => (f.1, .str f.2))

inductive Fault where
  | notBase64
  | notUtf8
  | noColon
  deriving DecidableEq, Repr

def Fault.message : Fault → String
  | .notBase64 => "failed to decode auth"
  | .notUtf8 => "auth is not valid UTF-8"
  | .noColon => "auth is not 'username:password'"

/-- The name and password in an encoded text; the name ends at the first colon. -/
def userPassword (auth : String) : Except Fault (String × String) :=
  match Base64.decode (Text.trimChars auth.toList) with
  | none => .error .notBase64
  | some bytes => match String.fromUTF8? ⟨bytes.toArray⟩ with
    | none => .error .notUtf8
    | some s => match Text.cut ':' s with
      | none => .error .noColon
      | some p => .ok p

def expand (a : AuthConfig) : Except Fault AuthConfig :=
  if a.auth.isEmpty || !(a.username.isEmpty && a.password.isEmpty) then .ok a
  else (userPassword a.auth).map fun p => { a with username := p.1, password := p.2 }

end AuthConfig

namespace Credentials

def configKey : String := ".dockerconfigjson"

def configType : String := "kubernetes.io/dockerconfigjson"

def readSecretRef (s : String) : Except RuntimeError (String × String) :=
  match Text.cut '/' s with
  | some (ns, name) =>
    if !ns.isEmpty && !name.isEmpty && !name.toList.contains '/' then .ok (ns, name)
    else .error (.invalidCredentialsSecretRef s)
  | none => .error (.invalidCredentialsSecretRef s)

def configReader : Json.Reader Credentials :=
  Json.RecordReader.read "DockerConfigJson" <|
    Json.RecordReader.of id |>.orElse "auths" (.dict AuthConfig.reader) .empty

def forEntries {α β : Type} (f : String → α → Except RuntimeError β) :
    List (String × α) → Except RuntimeError (List (String × β))
  | [] => .ok []
  | (k, a) :: rest => do
    let b ← f k a
    let bs ← forEntries f rest
    return (k, b) :: bs

def forDict {α β : Type} (f : String → α → Except RuntimeError β) (d : Dict α) :
    Except RuntimeError (Dict β) :=
  (forEntries f d.entries).map Dict.ofList

def written (secretName : String) (s : Secret) : Except RuntimeError Credentials :=
  let invalid (message : String) : RuntimeError := .invalidCredentials secretName message
  if s.type = some configType ∨ s.data.contains configKey then
    match s.data.get? configKey with
    | none => .error (invalid ("missing key " ++ configKey))
    | some bytes =>
      (Json.decodeBytes configReader bytes).mapError fun e =>
        invalid (configKey ++ ": " ++ e.message)
  else
    forDict (fun registry bytes =>
      (Json.decodeBytes AuthConfig.reader bytes).mapError fun e =>
        invalid (registry ++ ": " ++ e.message)) s.data

def expand (secretName : String) (c : Credentials) : Except RuntimeError Credentials :=
  forDict (fun registry a => a.expand.mapError fun e =>
    .invalidCredentials secretName (registry ++ ": " ++ e.message)) c

def ofSecret (secretName : String) (s : Secret) : Except RuntimeError Credentials := do
  expand secretName (← written secretName s)

def load (store : ObjectStore) (ns name : String) : Except RuntimeError Credentials := do
  let secret ← (store.secret ns name).mapError .config
  ofSecret (ns ++ "/" ++ name) secret

def toJson (c : Credentials) : Json := .obj (c.entries.map fun e => (e.1, e.2.toJson))

end Credentials

end MachineFleet
