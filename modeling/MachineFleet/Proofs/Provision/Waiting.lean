import MachineFleet.Proofs.Hetzner.Requests
import MachineFleet.Proofs.Provision.Addresses
import MachineFleet.Proofs.Provision.Sighting
import MachineFleet.Proofs.Vultr.Requests
import MachineFleet.Registry
import Mathlib.Data.Set.List

/-!
For how long a machine is waited for, and which addresses it is reported with. A machine is waited
for exactly as long as nothing at all is known of where its server is. A host name counts, and so
does a private address that is empty; and a host name hides an address that is spelled like it. So
a machine can be reported before any address of it is known.
-/

namespace MachineFleet

/-- A server, as one of the clouds that are built in sees it. -/
inductive Sighting where
  | fake (server : Fake.Server)
  | hetzner (server : Hetzner.Server)
  | vultr (server : Vultr.Server)

namespace Sighting

def cloud : Sighting → CloudProvider
  | fake _ => .fake
  | hetzner _ => .hetzner
  | vultr _ => .vultr

def snapshot : Sighting → Instance
  | fake s => s.snapshot
  | hetzner s => s.snapshot
  | vultr s => s.snapshot

/-- Nothing is known of where the server is, not even a host name. -/
def IsBare : Sighting → Prop
  | fake s => s.isReady = false
  | hetzner s => s.own? = none ∧ s.routed? = none ∧ s.privateNet = []
  | vultr s => s.hostname = "" ∧ Vultr.isUnset s.mainIp = true ∧
      Vultr.isUnset s.v6MainIp = true ∧ Vultr.isUnset s.internalIp = true

/-- The server has the address, which no host name hides. -/
def Offers : Sighting → String → Prop
  | fake s, ip => s.isReady = true ∧ ip = s.address ∧ ip ≠ s.name
  | hetzner s, ip => s.own? = some ip ∨ s.routed? = some ip ∨ ∃ p ∈ s.privateNet, p.ip = ip
  | vultr s, ip => Vultr.isUnset ip = false ∧ ip ≠ s.hostname ∧
      (ip = s.mainIp ∨ ip = s.v6MainIp ∨ ip = s.internalIp)

/-- No host name and no unset address counts as where the server is. -/
def IsPlain : Sighting → Prop
  | fake s => s.name ≠ s.address
  | hetzner s => (∀ ip, s.own? = some ip → Vultr.isUnset ip = false) ∧
      ∀ p ∈ s.privateNet, Vultr.isUnset p.ip = false
  | vultr s => s.hostname = ""

theorem isEmpty_iff (x : Sighting) : x.snapshot.addresses.isEmpty = true ↔ x.IsBare := by
  cases x with
  | fake s =>
    show s.snapshot.addresses.isEmpty = true ↔ s.isReady = false
    rw [Fake.isEmpty_addresses, Bool.not_eq_true']
  | hetzner s => exact Hetzner.isEmpty_addresses s
  | vultr s => exact Vultr.isEmpty_addresses s

theorem ipAt_iff (x : Sighting) (ip : String) : x.snapshot.addresses.IpAt ip ↔ x.Offers ip := by
  cases x with
  | fake s => exact Fake.ipAt_addresses s ip
  | hetzner s => exact Hetzner.ipAt_addresses s ip
  | vultr s => exact Vultr.ipAt_addresses s ip

/-- An address with this digit is not one that stands for none. -/
theorem isUnset_of_one {ip : String} (one : '1' ∈ ip.toList) : Vultr.isUnset ip = false := by
  cases unset : Vultr.isUnset ip with
  | false => rfl
  | true =>
    simp only [Vultr.isUnset, Bool.or_eq_true, String.isEmpty_iff, beq_iff_eq] at unset
    rcases unset with (rfl | rfl) | rfl <;> exact absurd one (by decide)

theorem offers_of_plain {x : Sighting} (plain : x.IsPlain) (sited : ¬ x.IsBare) :
    ∃ ip, Vultr.isUnset ip = false ∧ x.Offers ip := by
  cases x with
  | fake s =>
    have ready : s.isReady = true := Bool.eq_true_of_not_eq_false sited
    refine ⟨s.address, isUnset_of_one ?_, ready, rfl, plain.symm⟩
    simp [Fake.Server.address]
  | hetzner s =>
    by_cases own : s.own? = none
    · by_cases routed : s.routed? = none
      · have known : s.privateNet ≠ [] := fun empty => sited ⟨own, routed, empty⟩
        obtain ⟨p, member⟩ := List.exists_mem_of_ne_nil _ known
        exact ⟨p.ip, plain.2 p member, .inr (.inr ⟨p, member, rfl⟩)⟩
      · obtain ⟨ip, has⟩ := Option.ne_none_iff_exists'.mp routed
        refine ⟨ip, isUnset_of_one ?_, .inr (.inl has)⟩
        obtain ⟨net, _, rfl⟩ := Option.map_eq_some_iff.mp has
        simp
    · obtain ⟨ip, has⟩ := Option.ne_none_iff_exists'.mp own
      exact ⟨ip, plain.1 ip has, .inl has⟩
  | vultr s =>
    have offered : ∀ ip, (ip = s.mainIp ∨ ip = s.v6MainIp ∨ ip = s.internalIp) →
        Vultr.isUnset ip = false → ∃ ip, Vultr.isUnset ip = false ∧ (vultr s).Offers ip := by
      intro ip has set
      refine ⟨ip, set, set, ?_, has⟩
      rintro rfl
      rw [show s.hostname = "" from plain] at set
      cases set
    by_cases main : Vultr.isUnset s.mainIp = true
    · by_cases second : Vultr.isUnset s.v6MainIp = true
      · have inner : Vultr.isUnset s.internalIp ≠ true := fun unset =>
          sited ⟨plain, main, second, unset⟩
        exact offered _ (.inr (.inr rfl)) (Bool.eq_false_of_not_eq_true inner)
      · exact offered _ (.inr (.inl rfl)) (Bool.eq_false_of_not_eq_true second)
    · exact offered _ (.inl rfl) (Bool.eq_false_of_not_eq_true main)

end Sighting

namespace Fake

theorem get_sighting {m : Machine} {s : State} {i : Instance} (shown : (get m s).1 = .ok i) :
    ∃ x : Server, x.snapshot = i := by
  unfold get at shown
  split at shown
  · cases shown
  · cases shown
    exact ⟨_, rfl⟩

theorem create_sighting {σ : Type} (save : Machine → σ → Except CloudError Machine × σ)
    (saved : σ) {m : Machine} {s : State} {i : Instance}
    (made : ((create m s).run save saved).1.1 = .ok i) : ∃ x : Server, x.snapshot = i := by
  unfold create at made
  split at made
  · cases made
  split at made
  · cases made
  dsimp only [Program.run] at made
  split at made
  · cases made
  · cases made
    unfold place
    split
    · exact ⟨_, rfl⟩
    · exact ⟨_, rfl⟩

end Fake

theorem Network.yields {α : Type} (n : Network) (x : Http.Exchange α) :
    ∃ t, Program.Yields x t (n.run x).1 := by
  cases n with
  | peer p => exact ⟨_, Program.yields_run Http.Peer.answer x p⟩
  | unreachable => exact ⟨_, Program.yields_run (fun _ s => (.dropped, s)) x ()⟩

namespace Network

variable (service : Http.Service) {r : Resolver} {m : Machine} {i : Instance}

theorem record_of_get (takes : ∀ {call : CloudCall} {t : List Http.Event} {a : call.Answer},
    Program.Yields (service.answer r call) t a → service.Course r call t a) {n : Network}
    (shown : (n.run (service.answer r (.get m))).1 = .ok i) : ∃ x, service.snapshot x = i := by
  obtain ⟨t, h⟩ := n.yields (service.answer r (.get m))
  rw [shown] at h
  exact (takes h).snapshot_of_get

theorem record_of_create (takes : ∀ {call : CloudCall} {t : List Http.Event} {a : call.Answer},
    Program.Yields (service.answer r call) t a → service.Course r call t a) {n : Network}
    {script : String} (made : (n.run (service.answer r (.create m script))).1 = .ok i) :
    ∃ x, service.snapshot x = i := by
  obtain ⟨t, h⟩ := n.yields (service.answer r (.create m script))
  rw [made] at h
  exact (takes h).snapshot_of_create

end Network

namespace Clouds

open Program ProvisionEvent

variable {s : CloudSettings} {w : Clouds} {c : CloudProvider} {m : Machine} {i : Instance}

theorem get_sighting (shown : (direct s c (.get m) w).1 = .ok i) :
    ∃ x : Sighting, x.cloud = c ∧ x.snapshot = i := by
  unfold direct at shown
  split at shown
  · obtain ⟨x, rfl⟩ := Fake.get_sighting (s := w.fake) shown
    exact ⟨.fake x, rfl, rfl⟩
  · obtain ⟨x, rfl⟩ :=
      Network.record_of_get (Hetzner.service s.hetznerBase) Hetzner.course_of_yields shown
    exact ⟨.hetzner x, rfl, rfl⟩
  · obtain ⟨x, rfl⟩ :=
      Network.record_of_get (Vultr.service s.vultrBase) Vultr.course_of_yields shown
    exact ⟨.vultr x, rfl, rfl⟩
  · cases shown

theorem create_sighting {script : String} (made : (direct s c (.create m script) w).1 = .ok i) :
    ∃ x : Sighting, x.cloud = c ∧ x.snapshot = i := by
  unfold direct at made
  split at made
  · obtain ⟨x, rfl⟩ := Fake.create_sighting (saveMachine s) w.saved made
    exact ⟨.fake x, rfl, rfl⟩
  · obtain ⟨x, rfl⟩ :=
      Network.record_of_create (Hetzner.service s.hetznerBase) Hetzner.course_of_yields made
    exact ⟨.hetzner x, rfl, rfl⟩
  · obtain ⟨x, rfl⟩ :=
      Network.record_of_create (Vultr.service s.vultrBase) Vultr.course_of_yields made
    exact ⟨.vultr x, rfl, rfl⟩
  · cases made

theorem sighting_of_shows {q : ProvisionQuery} (shows : Shows c m i ⟨q, (answerQuery s q w).1⟩) :
    ∃ x : Sighting, x.cloud = c ∧ x.snapshot = i := by
  generalize event : (⟨q, (answerQuery s q w).1⟩ : ProvisionEvent) = e at shows
  cases shows with
  | got saved =>
    obtain ⟨rfl, told⟩ := Sigma.mk.inj event
    exact get_sighting (congrArg Prod.snd (eq_of_heq told))
  | made script saved =>
    obtain ⟨rfl, told⟩ := Sigma.mk.inj event
    exact create_sighting (congrArg Prod.snd (eq_of_heq told))

/-- What is seen while a machine is provisioned, in order. -/
def seenOf (s : CloudSettings) (w : Clouds) (p : Provisioner) (m : Machine) : List Instance :=
  seen ((p.createMachine m).transcript (answerQuery s) w)

theorem sighting_of_seen {p : Provisioner} (member : i ∈ seenOf s w p m) :
    ∃ x : Sighting, m.IsIn x.cloud ∧ x.snapshot = i := by
  obtain ⟨⟨q, a⟩, occurs, shown⟩ := List.mem_filterMap.mp member
  obtain ⟨config, spec, decoded, shows⟩ :=
    p.createMachine_shows (answerQuery s) m w occurs shown
  obtain ⟨w', told⟩ := answered (p.createMachine m) w occurs
  obtain rfl : a = (answerQuery s q w').1 := told
  obtain ⟨x, inCloud, rfl⟩ := sighting_of_shows shows
  exact ⟨x, ⟨config, decoded, inCloud.symm⟩, rfl⟩

theorem sightings_of_seen (p : Provisioner) (m : Machine) :
    ∃ xs : List Sighting, xs.map Sighting.snapshot = seenOf s w p m ∧ ∀ x ∈ xs, m.IsIn x.cloud := by
  have all : ∀ i ∈ seenOf s w p m,
      i ∈ Set.range fun x : { x : Sighting // m.IsIn x.cloud } => x.1.snapshot := by
    intro i member
    obtain ⟨x, inCloud, rfl⟩ := sighting_of_seen member
    exact ⟨⟨x, inCloud⟩, rfl⟩
  obtain ⟨ys, same⟩ := (Set.range_list_map _).ge all
  refine ⟨ys.map Subtype.val, by rw [← same, List.map_map]; rfl, ?_⟩
  intro x member
  obtain ⟨y, _, rfl⟩ := List.mem_map.mp member
  exact y.2

/-- How long a machine was waited for, by what was seen of its server. -/
structure Awaited (m : Machine) (attempts : Nat) (xs : List Sighting)
    (result : Except ProvisionError ProvisionedInstance) : Prop where
  inCloud : ∀ x ∈ xs, m.IsIn x.cloud
  ready : ∀ r, result = .ok r → ∃ bare x, xs = bare ++ [x] ∧ (∀ b ∈ bare, b.IsBare) ∧ ¬ x.IsBare ∧
    (∃ created, r = x.snapshot.provisioned created) ∧ (∀ ip, r.addresses.IpAt ip ↔ x.Offers ip) ∧
    (x.IsPlain → ∃ ip, Vultr.isUnset ip = false ∧ r.addresses.IpAt ip)
  reports : ∀ x ∈ xs, ¬ x.IsBare → ∃ r, result = .ok r
  exhausted : ∀ id n, result = .error (.noAddresses id n) → n = attempts ∧ xs.length = n + 1 ∧
    ∀ x ∈ xs, x.IsBare

theorem Awaited.of_settles {attempts : Nat} {xs : List Sighting}
    {result : Except ProvisionError ProvisionedInstance} (inCloud : ∀ x ∈ xs, m.IsIn x.cloud)
    (settles : Settles attempts (xs.map Sighting.snapshot) result) :
    Awaited m attempts xs result where
  inCloud := inCloud
  ready r ok := by
    obtain ⟨bare, i, created, order, empty, sited, rfl⟩ := settles.ready r ok
    obtain ⟨earlier, last, rfl, rfl, single⟩ := List.map_eq_append_iff.mp order
    obtain ⟨x, rfl, rfl⟩ := List.map_eq_singleton_iff.mp single
    have offers : ∀ ip, x.snapshot.addresses.IpAt ip ↔ x.Offers ip := x.ipAt_iff
    have unbare : ¬ x.IsBare := fun bare => by
      rw [x.isEmpty_iff.mpr bare] at sited
      cases sited
    refine ⟨earlier, x, rfl, ?_, unbare, ⟨created, rfl⟩, offers, ?_⟩
    · intro b member
      exact b.isEmpty_iff.mp (empty b.snapshot (List.mem_map_of_mem member))
    · intro plain
      obtain ⟨ip, set, offered⟩ := Sighting.offers_of_plain plain unbare
      exact ⟨ip, set, (offers ip).mpr offered⟩
  reports x member unbare := by
    refine settles.reports x.snapshot (List.mem_map_of_mem member) ?_
    exact Bool.eq_false_of_not_eq_true (unbare ∘ x.isEmpty_iff.mp)
  exhausted id n failed := by
    obtain ⟨rfl, count, empty, _⟩ := settles.exhausted id n failed
    refine ⟨rfl, by simpa using count, ?_⟩
    intro x member
    exact x.isEmpty_iff.mp (empty x.snapshot (List.mem_map_of_mem member))

/-- A machine is reported as soon as anything is known of where its server is, with what counts as
an address of it; and it is given up when nothing is after as many look-ups as there may be. -/
theorem createMachine_awaits (s : CloudSettings) (w : Clouds) (p : Provisioner) (m : Machine) :
    ∃ xs : List Sighting, xs.map Sighting.snapshot = seenOf s w p m ∧
      Awaited m p.attempts xs (provision s (p.createMachine m) w).1.result := by
  obtain ⟨xs, same, inCloud⟩ := sightings_of_seen (s := s) (w := w) p m
  refine ⟨xs, same, .of_settles inCloud ?_⟩
  rw [same]
  exact p.createMachine_settles (answerQuery s) m w

/-- What a machine is reported with, if it is. -/
def reportedAddresses (s : CloudSettings) (w : Clouds) (m : Machine) :
    Option (List (String × AddressType)) :=
  let report := (provision s (({} : Provisioner).createMachine m) w).1
  report.result.toOption.map fun r => r.addresses.entries

/-- A machine of the cloud in memory whose name is spelled like an address. -/
def addressed : Machine where
  metadata := { name := some "192.0.2.2", uid := some "uid-1" }
  spec :=
    { kubelet := "1.30.2"
      provider := some (.obj
        [("cloudProvider", .str "fake"), ("operatingSystem", .str "ubuntu")]) }

/-- A machine on Vultr. -/
def rented : Machine where
  metadata := { name := some "worker-1", uid := some "uid-1" }
  spec :=
    { kubelet := "1.30.2"
      provider := some (.obj
        [("cloudProvider", .str "vultr"), ("operatingSystem", .str "ubuntu"),
          ("cloudProviderSpec", .obj [("apiKey", .str "key"), ("region", .str "ewr"),
            ("plan", .str "vc2-1c-1gb"), ("osId", .str "1743")])]) }

/-- An API that has the region and the plan and no instance, makes one without an address, and
lists it with an address from then on. -/
def renting : Http.Peer where
  replies :=
    [.response 200 (Json.obj [("regions", .arr [.obj [("id", .str "ewr")]])]).compact,
      .response 200 (Json.obj [("plans", .arr [.obj [("id", .str "vc2-1c-1gb")]])]).compact,
      .response 200 (Json.obj [("instances", .arr [])]).compact,
      .response 200 (Json.obj [("instances", .arr [])]).compact,
      .response 202 (Json.obj [("instance", pending "0.0.0.0")]).compact,
      .response 200 (Json.obj [("instances", .arr [pending "198.51.100.7"])]).compact]
where
  pending (ip : String) : Json :=
    .obj [("id", .str "one"), ("hostname", .str "worker-1"), ("main_ip", .str ip),
      ("tags", .arr [.str "uid-1"])]

/-- Two machines are reported with nothing but a host name: one whose name hides the address of
its server, and one whose server is about to have an address. -/
theorem hostname_ends_waiting :
    reportedAddresses {} {} addressed = some [("192.0.2.2", .hostname)] ∧
    reportedAddresses {} { network := .peer renting } rented = some [("worker-1", .hostname)] := by
  decide +kernel

end Clouds

end MachineFleet
