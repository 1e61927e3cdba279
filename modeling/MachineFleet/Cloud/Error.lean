import MachineFleet.Config.Store
import MachineFleet.ProviderConfig

/-!
Failures of clouds. A terminal failure needs an operator and carries the reason and message for
the Machine status; a missing instance is an answer of its own; anything else may be tried again.
A transient failure wraps a cause, which may have contexts around it and other failures inside.
-/

namespace MachineFleet

inductive ErrorReason where
  | invalidConfiguration
  | unsupportedChange
  | insufficientResources
  | createError
  | updateError
  | deleteError
  | joinClusterTimeout
  deriving DecidableEq, Repr, Inhabited

namespace ErrorReason

def name : ErrorReason → String
  | .invalidConfiguration => "InvalidConfiguration"
  | .unsupportedChange => "UnsupportedChange"
  | .insufficientResources => "InsufficientResources"
  | .createError => "CreateError"
  | .updateError => "UpdateError"
  | .deleteError => "DeleteError"
  | .joinClusterTimeout => "JoinClusterTimeoutError"

def all : List ErrorReason :=
  [.invalidConfiguration, .unsupportedChange, .insufficientResources, .createError, .updateError,
    .deleteError, .joinClusterTimeout]

def names : List (String × ErrorReason) := all.map fun r => (r.name, r)

def reader : Json.Reader ErrorReason := .oneOf names

end ErrorReason

structure TerminalError where
  reason : ErrorReason
  message : String
  deriving DecidableEq, Repr, Inhabited

def TerminalError.text (t : TerminalError) : String := t.message ++ ", reason: " ++ t.reason.name

mutual

inductive CloudError where
  | terminal (t : TerminalError)
  | instanceNotFound
  | providerNotFound (name : String)
  | config (cause : ConfigError)
  | spec (cause : SpecError)
  | api (status : Nat) (message : String)
  | transient (cause : Failure)

/-- What a transient failure wraps. `transport` is a failure to exchange messages at all, or to
read the reply. -/
inductive Failure where
  | text (message : String)
  | terminal (t : TerminalError)
  | cloud (e : CloudError)
  | transport
  | context (message : String) (cause : Failure)

end

deriving instance Repr for CloudError, Failure

instance : Inhabited CloudError := ⟨.instanceNotFound⟩

inductive ErrorClass where
  | terminal
  | transient
  | notFound
  deriving DecidableEq, Repr, Inhabited

def ErrorClass.name : ErrorClass → String
  | .terminal => "Terminal"
  | .transient => "Transient"
  | .notFound => "NotFound"

mutual

def CloudError.message : CloudError → String
  | .terminal t => t.text
  | .instanceNotFound => "instance not found"
  | .providerNotFound n => "cloud provider '" ++ n ++ "' is not built into this controller"
  | .config e => "failed to resolve config: " ++ e.message
  | .spec e => "invalid provider spec: " ++ e.message
  | .api status m => "API error (" ++ toString status ++ "): " ++ m
  | .transient f => f.message

/-- The text of a cause: only the outermost context shows. -/
def Failure.message : Failure → String
  | .text m => m
  | .terminal t => t.text
  | .cloud e => e.message
  | .transport => "HTTP error"
  | .context m _ => m

end

mutual

def CloudError.isWorded : CloudError → Bool
  | .config e => e.isWorded
  | .transient f => f.isWorded
  | _ => true

def Failure.isWorded : Failure → Bool
  | .cloud e => e.isWorded
  | .transport => false
  | .context _ f => f.isWorded
  | _ => true

end

mutual

def Failure.terminal? : Failure → Option TerminalError
  | .text _ => none
  | .terminal t => some t
  | .cloud e => e.found?
  | .transport => none
  | .context _ f => f.terminal?

/-- The terminal failure below the head of a cause. A wrapped cloud failure shows what it wraps
without the head of that. -/
def Failure.below? : Failure → Option TerminalError
  | .context _ f => f.terminal?
  | .cloud e => e.below?
  | _ => none

def CloudError.found? : CloudError → Option TerminalError
  | .terminal t => some t
  | .transient f => f.below?
  | _ => none

def CloudError.below? : CloudError → Option TerminalError
  | .transient f => f.below?
  | _ => none

end

namespace CloudError

def ofReason (reason : ErrorReason) (message : String) : CloudError := .terminal ⟨reason, message⟩

def invalidConfiguration (message : String) : CloudError :=
  ofReason .invalidConfiguration message

def ofText (message : String) : CloudError := .transient (.text message)

def classify : CloudError → ErrorClass
  | .terminal _ => .terminal
  | .instanceNotFound => .notFound
  | .providerNotFound _ => .terminal
  | .config _ => .transient
  | .spec _ => .transient
  | .api _ _ => .transient
  | .transient f => if f.terminal?.isSome then .terminal else .transient

def isInstanceNotFound (e : CloudError) : Bool := e.classify == .notFound

def terminal? : CloudError → Option TerminalError
  | .terminal t => some t
  | .providerNotFound n => some ⟨.invalidConfiguration, (providerNotFound n).message⟩
  | .transient f => f.terminal?
  | _ => none

end CloudError

/-- The envelope of a machine; one that cannot be read is a terminal failure. -/
def ProviderConfig.require (spec : MachineSpec) : Except CloudError ProviderConfig :=
  (ProviderConfig.ofSpec spec).mapError fun e =>
    .invalidConfiguration ("failed to parse provider config: " ++ e.message)

def ProviderConfig.requirePayload {α : Type} (name : String) (r : Json.Reader α)
    (spec : MachineSpec) : Except CloudError (ProviderConfig × α) := do
  let c ← ProviderConfig.require spec
  let payload ← (c.readCloudSpec r).mapError fun e =>
    .invalidConfiguration ("failed to parse " ++ name ++ " spec: " ++ e.message)
  return (c, payload)

end MachineFleet
