import MachineFleet.Fake
import MachineFleet.Hetzner.Api
import MachineFleet.Proofs.Dict
import MachineFleet.Vultr.Api

/-!
Which addresses the built-in clouds report a server with. Each cloud fills the addresses by rules
of its own: which of the fields of a server count, and what hides or replaces what.
-/

namespace MachineFleet

/-- The address is that of a network interface. -/
def AddressType.isIp : AddressType → Bool
  | .externalIP => true
  | .internalIP => true
  | _ => false

/-- The entry is the address of a network interface. -/
def Dict.IpAt (d : Dict AddressType) (ip : String) : Prop :=
  ∃ t, d.get? ip = some t ∧ t.isIp = true

namespace Dict

variable {d : Dict AddressType} {k ip : String} {t : AddressType}

theorem ipAt_empty : ¬ (empty : Dict AddressType).IpAt ip := by
  rintro ⟨t, absent, _⟩
  cases absent

theorem ipAt_insert : (d.insert k t).IpAt ip ↔ (ip = k ∧ t.isIp = true) ∨ (ip ≠ k ∧ d.IpAt ip) := by
  unfold IpAt
  rw [get?_insert]
  by_cases same : ip = k
  · simp [same]
  · simp [same]

theorem ipAt_insert_ip (is : t.isIp = true) : (d.insert k t).IpAt ip ↔ ip = k ∨ d.IpAt ip := by
  rw [ipAt_insert]
  by_cases same : ip = k
  · simp [same, is]
  · simp [same]

theorem ipAt_insert_hostname : (d.insert k .hostname).IpAt ip ↔ ip ≠ k ∧ d.IpAt ip := by
  simp [ipAt_insert, AddressType.isIp]

theorem isEmpty_insert {α : Type} (d : Dict α) (k : String) (v : α) :
    (d.insert k v).isEmpty = false := by
  cases h : (d.insert k v).entries with
  | nil =>
    have found := get?_insert_self d k v
    unfold get? at found
    rw [h] at found
    cases found
  | cons e es => simp [isEmpty, h]

end Dict

namespace Fake

theorem isEmpty_addresses (s : Server) : s.snapshot.addresses.isEmpty = !s.isReady := by
  unfold Server.snapshot
  cases s.isReady with
  | true => exact Dict.isEmpty_insert _ _ _
  | false => rfl

theorem ipAt_addresses (s : Server) (ip : String) :
    s.snapshot.addresses.IpAt ip ↔ s.isReady = true ∧ ip = s.address ∧ ip ≠ s.name := by
  unfold Server.snapshot
  cases s.isReady with
  | true =>
    have own : AddressType.externalIP.isIp = true := rfl
    simp only [if_true, Dict.ipAt_insert_hostname, Dict.ipAt_insert_ip own, Dict.ipAt_empty,
      or_false, true_and, and_comm]
  | false => simp [Dict.ipAt_empty]

end Fake

namespace Hetzner

/-- The address of the server in the older network, where it has one. -/
def Server.own? (s : Server) : Option String := s.ipv4.filter fun ip => !ip.isEmpty

/-- The address that the server holds of the network that is routed to it. -/
def Server.routed? (s : Server) : Option String :=
  (s.ipv6.filter fun net => !(addressPart net).isEmpty).map fun net =>
    String.ofList (addressPart net ++ ['1'])

def addExternal (d : Dict AddressType) : Option String → Dict AddressType
  | none => d
  | some ip => d.insert ip .externalIP

theorem addresses_eq (s : Server) : s.addresses = s.privateNet.foldl
    (fun d p => d.insert p.ip .internalIP) (addExternal (addExternal .empty s.own?) s.routed?) := by
  unfold Server.addresses
  extract_lets v4 v6
  have first : v4 = addExternal .empty s.own? := by
    unfold v4 Server.own?
    cases s.ipv4 with
    | none => rfl
    | some ip => cases unset : ip.isEmpty <;> simp [Option.filter, unset, addExternal]
  have second : v6 = addExternal v4 s.routed? := by
    unfold v6 Server.routed?
    cases s.ipv6 with
    | none => rfl
    | some net =>
      cases unset : (addressPart net).isEmpty <;>
        simp only [Option.filter, Option.map, unset, addExternal, Bool.not_true, Bool.not_false,
          if_true, if_false, Bool.false_eq_true]
  rw [second, first]

theorem ipAt_addExternal {d : Dict AddressType} {o : Option String} {ip : String} :
    (addExternal d o).IpAt ip ↔ o = some ip ∨ d.IpAt ip := by
  cases o with
  | none => simp [addExternal]
  | some own =>
    have external : AddressType.externalIP.isIp = true := rfl
    rw [addExternal, Dict.ipAt_insert_ip external, Option.some.injEq, eq_comm]

theorem isEmpty_addExternal {d : Dict AddressType} {o : Option String} :
    (addExternal d o).isEmpty = true ↔ o = none ∧ d.isEmpty = true := by
  cases o <;> simp [addExternal, Dict.isEmpty_insert]

theorem ipAt_foldl (ps : List PrivateAddress) (d : Dict AddressType) {ip : String} :
    (ps.foldl (fun d p => d.insert p.ip .internalIP) d).IpAt ip ↔
      d.IpAt ip ∨ ∃ p ∈ ps, p.ip = ip := by
  induction ps generalizing d with
  | nil => simp
  | cons p rest ih =>
    have own : AddressType.internalIP.isIp = true := rfl
    rw [List.foldl_cons, ih, Dict.ipAt_insert_ip own, eq_comm, or_assoc, or_left_comm]
    simp

theorem isEmpty_foldl (ps : List PrivateAddress) (d : Dict AddressType) :
    (ps.foldl (fun d p => d.insert p.ip .internalIP) d).isEmpty = true ↔
      d.isEmpty = true ∧ ps = [] := by
  induction ps generalizing d with
  | nil => simp
  | cons p rest ih => simp [ih, Dict.isEmpty_insert]

theorem ipAt_addresses (s : Server) (ip : String) :
    s.snapshot.addresses.IpAt ip ↔
      s.own? = some ip ∨ s.routed? = some ip ∨ ∃ p ∈ s.privateNet, p.ip = ip := by
  show s.addresses.IpAt ip ↔ _
  rw [addresses_eq, ipAt_foldl, ipAt_addExternal, ipAt_addExternal, or_iff_left Dict.ipAt_empty,
    or_assoc, or_left_comm]

theorem isEmpty_addresses (s : Server) : s.snapshot.addresses.isEmpty = true ↔
    s.own? = none ∧ s.routed? = none ∧ s.privateNet = [] := by
  have empty : (Dict.empty : Dict AddressType).isEmpty = true := rfl
  show s.addresses.isEmpty = true ↔ _
  rw [addresses_eq, isEmpty_foldl, isEmpty_addExternal, isEmpty_addExternal, and_iff_left empty,
    and_assoc, and_left_comm]

end Hetzner

namespace Vultr

theorem ipAt_addAddress {d : Dict AddressType} {k ip : String} {t : AddressType}
    (own : t.isIp = true) : (Server.addAddress d k t).IpAt ip ↔
      (isUnset ip = false ∧ ip = k) ∨ d.IpAt ip := by
  unfold Server.addAddress
  by_cases unset : isUnset k = true
  · rw [if_pos unset]
    constructor
    · exact .inr
    · rintro (⟨set, rfl⟩ | kept)
      · cases set.symm.trans unset
      · exact kept
  · rw [if_neg unset, Dict.ipAt_insert_ip own]
    constructor
    · rintro (rfl | kept)
      · exact .inl ⟨by simpa using unset, rfl⟩
      · exact .inr kept
    · exact Or.imp_left And.right

theorem isEmpty_addAddress {d : Dict AddressType} {k : String} {t : AddressType} :
    (Server.addAddress d k t).isEmpty = true ↔ d.isEmpty = true ∧ isUnset k = true := by
  unfold Server.addAddress
  by_cases unset : isUnset k = true
  · simp [unset]
  · simp [unset, Dict.isEmpty_insert]

theorem ipAt_addresses (s : Server) (ip : String) :
    s.snapshot.addresses.IpAt ip ↔ isUnset ip = false ∧ ip ≠ s.hostname ∧
      (ip = s.mainIp ∨ ip = s.v6MainIp ∨ ip = s.internalIp) := by
  have external : AddressType.externalIP.isIp = true := rfl
  have internal : AddressType.internalIP.isIp = true := rfl
  show s.addresses.IpAt ip ↔ _
  unfold Server.addresses
  extract_lets ips
  have known : ips.IpAt ip ↔
      isUnset ip = false ∧ (ip = s.mainIp ∨ ip = s.v6MainIp ∨ ip = s.internalIp) := by
    simp only [ips, ipAt_addAddress external, ipAt_addAddress internal, Dict.ipAt_empty, or_false,
      ← and_or_left]
    rw [or_comm, or_assoc, or_left_comm]
  by_cases unnamed : s.hostname = ""
  · have named : isUnset ip = false → ip ≠ "" := by
      rintro set rfl
      cases set
    rw [if_pos (String.isEmpty_iff.mpr unnamed), known, unnamed]
    exact ⟨fun h => ⟨h.1, named h.1, h.2⟩, fun h => ⟨h.1, h.2.2⟩⟩
  · rw [if_neg (unnamed ∘ String.isEmpty_iff.mp), Dict.ipAt_insert_hostname, known,
      and_left_comm]

theorem isEmpty_addresses (s : Server) : s.snapshot.addresses.isEmpty = true ↔
    s.hostname = "" ∧ isUnset s.mainIp = true ∧ isUnset s.v6MainIp = true ∧
      isUnset s.internalIp = true := by
  show s.addresses.isEmpty = true ↔ _
  unfold Server.addresses
  extract_lets ips
  have known : ips.isEmpty = true ↔ isUnset s.mainIp = true ∧ isUnset s.v6MainIp = true ∧
      isUnset s.internalIp = true := by
    have empty : (Dict.empty : Dict AddressType).isEmpty = true := rfl
    simp only [ips, isEmpty_addAddress, empty, true_and, and_assoc]
  by_cases unnamed : s.hostname = ""
  · rw [if_pos (String.isEmpty_iff.mpr unnamed), known]
    simp [unnamed]
  · rw [if_neg (unnamed ∘ String.isEmpty_iff.mp)]
    simp [unnamed, Dict.isEmpty_insert]

end Vultr

end MachineFleet
