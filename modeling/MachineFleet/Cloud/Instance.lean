import MachineFleet.Json.Decode

/-!
Snapshots of cloud instances: a name, an identifier, addresses by type, and a status out of a
closed set.
-/

namespace MachineFleet

inductive AddressType where
  | externalIP
  | internalIP
  | externalDNS
  | internalDNS
  | hostname
  deriving DecidableEq, Repr, Inhabited

namespace AddressType

def name : AddressType → String
  | .externalIP => "ExternalIP"
  | .internalIP => "InternalIP"
  | .externalDNS => "ExternalDNS"
  | .internalDNS => "InternalDNS"
  | .hostname => "Hostname"

def names : List (String × AddressType) :=
  [.externalIP, .internalIP, .externalDNS, .internalDNS, .hostname].map fun t => (t.name, t)

def reader : Json.Reader AddressType := .oneOf names

end AddressType

/-- The state of an instance; states of a cloud without a counterpart here are unknown. -/
inductive InstanceStatus where
  | unknown
  | creating
  | running
  | deleting
  | deleted
  | paused
  | saved
  | stopped
  | stopping
  | error
  deriving DecidableEq, Repr, Inhabited

namespace InstanceStatus

def name : InstanceStatus → String
  | .unknown => "unknown"
  | .creating => "creating"
  | .running => "running"
  | .deleting => "deleting"
  | .deleted => "deleted"
  | .paused => "paused"
  | .saved => "saved"
  | .stopped => "stopped"
  | .stopping => "stopping"
  | .error => "error"

def names : List (String × InstanceStatus) :=
  [.unknown, .creating, .running, .deleting, .deleted, .paused, .saved, .stopped, .stopping,
    .error].map fun s => (s.name, s)

def reader : Json.Reader InstanceStatus := .oneOf names

end InstanceStatus

structure Instance where
  name : String := ""
  id : String := ""
  providerId : String := ""
  addresses : Dict AddressType := .empty
  status : InstanceStatus := .unknown
  deriving DecidableEq, Inhabited

end MachineFleet
