import MachineFleet.Cloud.Call
import MachineFleet.Program
import MachineFleet.Provision.Error
import MachineFleet.Userdata

/-!
Provisioning of machines, one after the other. For each machine the envelope names the cloud,
the cloud fills in defaults and validates, and an instance is found or created; then it is looked
up until it has addresses. Whatever happens ends in a report with the machine as it is to be
stored: with addresses and an identifier after a success, with reason and message after a
terminal failure, and with its status untouched after any other.
-/

namespace MachineFleet

structure ProvisionedInstance where
  providerId : String
  status : InstanceStatus
  addresses : Dict AddressType
  created : Bool
  deriving DecidableEq, Inhabited

structure MachineReport where
  machine : Machine
  result : Except ProvisionError ProvisionedInstance

inductive ProvisionQuery where
  | select (cloud : CloudProvider)
  | addDefaults (cloud : CloudProvider) (spec : MachineSpec)
  | validate (cloud : CloudProvider) (spec : MachineSpec)
  | get (cloud : CloudProvider) (machine : Machine)
  | create (cloud : CloudProvider) (machine : Machine) (userdata : String)
  | pause

/-- The answer to a question. A look-up and a creation also tell the machine that the cloud saved
last, if it saved any. -/
def ProvisionQuery.Answer : ProvisionQuery → Type
  | .select _ => Except CloudError Unit
  | .addDefaults _ _ => Except CloudError MachineSpec
  | .validate _ _ => Except CloudError Unit
  | .get _ _ => Option Machine × Except CloudError Instance
  | .create _ _ _ => Option Machine × Except CloudError Instance
  | .pause => Unit

abbrev Provisioning (α : Type) := Program ProvisionQuery ProvisionQuery.Answer α

structure Provisioner where
  runtime : RuntimeConfig := {}
  extraUserdata : Option String := none
  attempts : Nat := 5
  deriving Inhabited

/-- The time between look-ups in milliseconds, unless set otherwise. -/
def Provisioner.defaultInterval : Nat := 5000

structure ProvisionAttempt where
  machine : Machine
  saved : Option Machine := none
  result : Except ProvisionError ProvisionedInstance

namespace ProvisionAttempt

def failed (machine : Machine) (saved : Option Machine) (e : ProvisionError) : ProvisionAttempt :=
  { machine, saved, result := .error e }

def succeeded (machine : Machine) (saved : Option Machine) (created : Bool) (i : Instance) :
    ProvisionAttempt :=
  { machine, saved
    result := .ok
      { providerId := i.providerId, status := i.status, addresses := i.addresses, created } }

def savedMachine (a : ProvisionAttempt) : Machine :=
  match a.saved with
  | some m => a.machine.withFinalizers m.metadata.finalizers
  | none => a.machine

def report (a : ProvisionAttempt) : MachineReport :=
  let m := a.savedMachine
  match a.result with
  | .ok i =>
    let addresses := i.addresses.entries.map fun e => { address := e.1, type := e.2.name }
    { machine := { m with spec := { m.spec with providerId := some i.providerId } }.updateStatus
        fun s => s.clearError.setAddresses addresses
      result := a.result }
  | .error e =>
    match e.terminal? with
    | some t =>
      { machine := m.updateStatus fun s => s.setTerminalError t.reason.name t.message
        result := a.result }
    | none => { machine := m, result := a.result }

end ProvisionAttempt

namespace Provisioner

def waitForAddresses (p : Provisioner) (cloud : CloudProvider) (machine : Machine)
    (created : Bool) :
    Nat → Option Machine → Instance → Provisioning ProvisionAttempt
  | 0, saved, i =>
    if i.addresses.isEmpty then
      .done (.failed machine saved (.noAddresses i.providerId p.attempts))
    else .done (.succeeded machine saved created i)
  | n + 1, saved, i =>
    if i.addresses.isEmpty then
      .ask .pause fun _ => .ask (.get cloud machine) fun
        | (s, .ok i) => p.waitForAddresses cloud machine created n (s.or saved) i
        | (s, .error e) => .done (.failed machine (s.or saved) (.cloud e))
    else .done (.succeeded machine saved created i)

def userdata (p : Provisioner) (os : OperatingSystem) (machine : Machine) :
    Except RuntimeError String := do
  let engine ← p.runtime.engine machine.spec.kubelet
  Userdata.build engine os p.extraUserdata

def createInstance (p : Provisioner) (config : ProviderConfig) (machine : Machine)
    (saved : Option Machine) : Provisioning ProvisionAttempt :=
  match p.userdata config.operatingSystem machine with
  | .error e => .done (.failed machine saved (.runtime e))
  | .ok script => .ask (.create config.cloudProvider machine script) fun
    | (s, .ok i) =>
      p.waitForAddresses config.cloudProvider machine true p.attempts (s.or saved) i
    | (s, .error e) => .done (.failed machine (s.or saved) (.cloud e))

def ensureInstance (p : Provisioner) (config : ProviderConfig) (machine : Machine) :
    Provisioning ProvisionAttempt :=
  .ask (.get config.cloudProvider machine) fun
    | (s, .ok i) => p.waitForAddresses config.cloudProvider machine false p.attempts s i
    | (s, .error e) =>
      if e.classify = .notFound then p.createInstance config machine s
      else .done (.failed machine s (.cloud e))

def attempt (p : Provisioner) (machine : Machine) : Provisioning ProvisionAttempt :=
  match ProviderConfig.require machine.spec with
  | .error e => .done (.failed machine none (.cloud e))
  | .ok config => .ask (.select config.cloudProvider) fun
    | .error e => .done (.failed machine none (.cloud e))
    | .ok () => .ask (.addDefaults config.cloudProvider machine.spec) fun
      | .error e => .done (.failed machine none (.cloud e))
      | .ok spec =>
        .ask (.validate config.cloudProvider spec) fun
          | .error e => .done (.failed { machine with spec } none (.cloud e))
          | .ok () => p.ensureInstance config { machine with spec }

def createMachine (p : Provisioner) (machine : Machine) : Provisioning MachineReport :=
  (p.attempt machine).bind fun a => .done a.report

/-- Provisions machines in order; none of them keeps the next one from being tried. -/
def createMachines (p : Provisioner) : List Machine → Provisioning (List MachineReport)
  | [] => .done []
  | m :: rest =>
    (p.createMachine m).bind fun r => (p.createMachines rest).bind fun rs => .done (r :: rs)

end Provisioner

end MachineFleet
