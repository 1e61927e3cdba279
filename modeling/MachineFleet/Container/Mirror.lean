import MachineFleet.Container.Error
import MachineFleet.Container.Url

/-!
Options that list registries: mirrors as `registry=url` or `url` for the default registry, and
registries without transport security. Both are separated by commas, and blanks around an entry
and empty entries do not count.
-/

namespace MachineFleet

abbrev Mirrors := Dict (List String)

namespace Mirrors

def defaultRegistry : String := "docker.io"

def separator : List Char := [':', '/', '/']

def tokens (input : String) : List (List Char) :=
  ((Text.splitOn ',' input.toList).map Text.trimChars).filter fun t => !t.isEmpty

/-- The registry and the mirror of an entry. An equals sign behind a scheme belongs to the
mirror. -/
def parts (token : List Char) : List Char × List Char :=
  match Text.cutAt '=' token with
  | some (registry, mirror) =>
    if Text.containsChars separator registry then (defaultRegistry.toList, token)
    else (Text.trimChars registry, Text.trimChars mirror)
  | none => (defaultRegistry.toList, token)

def withScheme (mirror : List Char) : String :=
  String.ofList (if Text.containsChars separator mirror then mirror
    else "https://".toList ++ mirror)

def url (mirror : List Char) : Except RuntimeError String :=
  let u := withScheme mirror
  let invalid (reason : String) : Except RuntimeError String :=
    .error (.invalidMirror (String.ofList mirror) reason)
  match Url.read u with
  | .error e => invalid e.message
  | .ok ⟨none, _⟩ => invalid "missing scheme"
  | .ok ⟨some scheme, host⟩ =>
    if scheme ≠ "http" ∧ scheme ≠ "https" then invalid ("unsupported scheme '" ++ scheme ++ "'")
    else if host.isEmpty then invalid "missing host"
    else .ok u

def entry (token : List Char) : Except RuntimeError (String × String) :=
  let (registry, mirror) := parts token
  if registry.isEmpty then .error (.invalidMirror (String.ofList token) "registry name is empty")
  else (url mirror).map fun u => (String.ofList registry, u)

def add (m : Mirrors) (registry url : String) : Mirrors :=
  m.insert registry ((m.get? registry).getD [] ++ [url])

def addTokens (m : Mirrors) : List (List Char) → Except RuntimeError Mirrors
  | [] => .ok m
  | t :: rest => do
    let (registry, u) ← entry t
    addTokens (m.add registry u) rest

def read (input : String) : Except RuntimeError Mirrors := addTokens .empty (tokens input)

end Mirrors

def insecureRegistries (input : String) : List String :=
  ((Mirrors.tokens input).map String.ofList).foldl
    (fun rs r => if rs.contains r then rs else rs ++ [r]) []

end MachineFleet
