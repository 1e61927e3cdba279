import MachineFleet.Cloud.Error
import MachineFleet.Container.Error

/-!
Failures of provisioning one machine.
-/

namespace MachineFleet

inductive ProvisionError where
  | cloud (e : CloudError)
  | runtime (e : RuntimeError)
  | noAddresses (providerId : String) (attempts : Nat)
  deriving Inhabited

namespace ProvisionError

def message : ProvisionError → String
  | .cloud e => e.message
  | .runtime e => "failed to render userdata: " ++ e.message
  | .noAddresses id n =>
    "instance " ++ id ++ " has no addresses after " ++ toString n ++ " attempts"

def isWorded : ProvisionError → Bool
  | .cloud e => e.isWorded
  | .runtime e => e.isWorded
  | .noAddresses _ _ => true

/-- Runtime options that cannot be used are terminal, but a configuration value that could not be
fetched may be there the next time. -/
def classify : ProvisionError → ErrorClass
  | .cloud e => e.classify
  | .runtime (.config _) => .transient
  | .runtime _ => .terminal
  | .noAddresses _ _ => .transient

def terminal? : ProvisionError → Option TerminalError
  | .cloud e => e.terminal?
  | .runtime (.config _) => none
  | .runtime e => some ⟨.invalidConfiguration, e.message⟩
  | .noAddresses _ _ => none

end ProvisionError

end MachineFleet
