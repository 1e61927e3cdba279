import MachineFleet.Cloud.ValidationCache
import MachineFleet.Fake
import MachineFleet.Hetzner.Machines
import MachineFleet.Provision.Provisioner
import MachineFleet.Vultr.Machines

/-!
The clouds that are built in, and how they answer together: with what they are configured with,
with the state that they keep, and with a validation cache in front of them if there is one.
-/

namespace MachineFleet

def builtinClouds : List CloudProvider := [.fake, .hetzner, .vultr]

def requireBuiltin (cloud : CloudProvider) : Except CloudError Unit :=
  if builtinClouds.contains cloud then .ok () else .error (.providerNotFound cloud.name)

inductive Network where
  | peer (p : Http.Peer)
  | unreachable
  deriving Inhabited

def Network.run {α : Type} (x : Http.Exchange α) : Network → α × Network
  | .peer p => let (a, p) := p.run x; (a, .peer p)
  | .unreachable => (Http.runUnreachable x, .unreachable)

structure CloudSettings where
  resolver : Resolver := {}
  hetznerBase : String := "https://api.hetzner.cloud/v1"
  vultrBase : String := "https://api.vultr.com/v2"
  save : Machine → Except CloudError Machine := .ok
  interval : Nat := Provisioner.defaultInterval
  /-- A selected fake cloud keeps its instances. -/
  keepInstances : Bool := true

structure Clouds where
  fake : Fake.State := {}
  network : Network := .unreachable
  cache : Option ValidationCache := none
  now : Nat := 0
  saved : List Machine := []
  deriving Inhabited

namespace Clouds

def saveMachine (s : CloudSettings) (m : Machine) (saved : List Machine) :
    Except CloudError Machine × List Machine :=
  match s.save m with
  | .ok m => (.ok m, m :: saved)
  | .error e => (.error e, saved)

def direct (s : CloudSettings) (cloud : CloudProvider) (c : CloudCall) (w : Clouds) :
    c.Answer × Clouds :=
  match cloud with
  | .fake =>
    let ((a, fake), saved) := (Fake.answer s.resolver c w.fake).run (saveMachine s) w.saved
    (a, { w with fake, saved })
  | .hetzner =>
    let (a, network) := w.network.run (Hetzner.answer s.hetznerBase s.resolver c)
    (a, { w with network })
  | .vultr =>
    let (a, network) := w.network.run (Vultr.answer s.vultrBase s.resolver c)
    (a, { w with network })
  | other => (.error (.providerNotFound other.name), w)

def validate (s : CloudSettings) (cloud : CloudProvider) (spec : MachineSpec) (w : Clouds) :
    Except CloudError Unit × Clouds :=
  match w.cache with
  | none => direct s cloud (.validate spec) w
  | some cache =>
    let ((a, cache), w) := (cache.validate (m := StateM Clouds) (fun w => (w.now, w))
      (fun spec => direct s cloud (.validate spec)) spec).run w
    (a, { w with cache := some cache })

def answer (s : CloudSettings) (cloud : CloudProvider) : (c : CloudCall) → Clouds →
    c.Answer × Clouds
  | .validate spec, w => validate s cloud spec w
  | c, w => direct s cloud c w

def savedSince (before after : Clouds) : Option Machine :=
  if before.saved.length < after.saved.length then after.saved.head? else none

def answerQuery (s : CloudSettings) : (q : ProvisionQuery) → Clouds → q.Answer × Clouds
  | .select cloud, w =>
    (requireBuiltin cloud, if s.keepInstances then w else { w with fake := {} })
  | .addDefaults cloud spec, w => answer s cloud (.addDefaults spec) w
  | .validate cloud spec, w => validate s cloud spec w
  | .get cloud machine, w =>
    let (a, after) := answer s cloud (.get machine) w
    ((savedSince w after, a), after)
  | .create cloud machine userdata, w =>
    let (a, after) := answer s cloud (.create machine userdata) w
    ((savedSince w after, a), after)
  | .pause, w => ((), { w with now := w.now + s.interval })

def provision {α : Type} (s : CloudSettings) (x : Provisioning α) (w : Clouds) : α × Clouds :=
  x.run (answerQuery s) w

def cloudConfig (s : CloudSettings) (cloud : CloudProvider) (spec : MachineSpec) (w : Clouds) :
    Except CloudError (String × String) × Clouds :=
  match ProviderConfig.require spec with
  | .error e => (.error e, w)
  | .ok c =>
    let (a, w) := answer s cloud (.cloudConfig spec) w
    ((show Except CloudError (String × String) from a).map (overwrittenCloudConfig c), w)

end Clouds

end MachineFleet
