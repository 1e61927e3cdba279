import MachineFleet.Machine.Basic
import MachineFleet.Yaml.Stream

/-!
Manifests: YAML texts with a Machine in every document. Documents without anything in them are
passed over, and the first document that cannot be used is reported.
-/

namespace MachineFleet

inductive ManifestError where
  | malformed (cause : Yaml.Fault)
  | invalid (cause : Json.DecodeError)
  deriving DecidableEq, Repr

namespace Manifest

def machines : List (Except Yaml.Fault Yaml) → Except ManifestError (List Machine)
  | [] => .ok []
  | .error f :: _ => .error (.malformed f)
  | .ok .null :: rest => machines rest
  | .ok y :: rest => do
    let m ← (Machine.reader y.toDocument).mapError .invalid
    let ms ← machines rest
    return m :: ms

def read (text : String) : Except ManifestError (List Machine) := machines (Yaml.documents text)

end Manifest

end MachineFleet
