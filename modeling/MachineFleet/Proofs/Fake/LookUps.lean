import MachineFleet.Proofs.Provision.Addresses
import MachineFleet.Proofs.Provision.Patience

/-!
The look-ups of an instance in memory. It counts them and has its addresses once there have been
enough, so their number tells what waiting for it results in. A run makes no more of them than it
may, and fewer only if these are enough.
-/

namespace MachineFleet

namespace Fake

namespace Server

/-- The server after so many look-ups. -/
def seen (a : Server) (n : Nat) : Server := { a with polls := n }

/-- What is reported on the server once it has its addresses. -/
def provisioned (a : Server) (created : Bool) : ProvisionedInstance :=
  (a.seen a.addressAfterPolls).snapshot.provisioned created

/-- What a run results in when it may look the server up until it has been looked up so often. -/
def outcome (a : Server) (limit : Nat) (created : Bool) (n : Nat) :
    Except ProvisionError ProvisionedInstance :=
  if a.addressAfterPolls ≤ n then .ok (a.provisioned created)
  else .error (.noAddresses ("fake://" ++ a.id) limit)

/-- The server that is made next, if it is made for the machine. -/
def next (m : Machine) (addressAfterPolls : Nat) (s : State) : Server where
  id := "fake-" ++ toString (s.lastOrdinal + 1)
  name := m.name
  ordinal := s.lastOrdinal + 1
  addressAfterPolls := addressAfterPolls

variable {a : Server} {n n' limit : Nat} {created : Bool}

theorem isReady_seen : (a.seen n).isReady = true ↔ a.addressAfterPolls ≤ n :=
  decide_eq_true_iff

theorem isEmpty_seen :
    (a.seen n).snapshot.addresses.isEmpty = true ↔ ¬ a.addressAfterPolls ≤ n := by
  simp only [isEmpty_addresses, Bool.not_eq_true', ← Bool.not_eq_true, isReady_seen]

theorem pending_seen : Pending (.ok (a.seen n).snapshot) ↔ ¬ a.addressAfterPolls ≤ n := by
  rw [← isEmpty_seen]
  constructor
  · rintro ⟨_, same, empty⟩
    cases same
    exact empty
  · exact fun empty => ⟨_, rfl, empty⟩

theorem snapshot_seen (ready : a.addressAfterPolls ≤ n) :
    (a.seen n).snapshot = (a.seen a.addressAfterPolls).snapshot := by
  have now : (a.seen n).isReady = true := isReady_seen.mpr ready
  have first : (a.seen a.addressAfterPolls).isReady = true := isReady_seen.mpr (Nat.le_refl _)
  unfold snapshot
  rw [now, first]
  rfl

theorem conclude_seen :
    conclude limit created (.ok (a.seen n).snapshot) = a.outcome limit created n := by
  unfold conclude outcome
  dsimp only
  by_cases ready : a.addressAfterPolls ≤ n
  · have addressed : ¬ (a.seen n).snapshot.addresses.isEmpty = true := fun empty =>
      isEmpty_seen.mp empty ready
    rw [if_pos ready, if_neg addressed, snapshot_seen ready]
    rfl
  · rw [if_neg ready, if_pos (isEmpty_seen.mpr ready)]
    rfl

theorem outcome_congr (same : a.addressAfterPolls ≤ n ↔ a.addressAfterPolls ≤ n') :
    a.outcome limit created n = a.outcome limit created n' := by
  simp only [outcome, same]

theorem eq_of_outcome {i : ProvisionedInstance} (ok : a.outcome limit created n = .ok i) :
    i = a.provisioned created := by
  unfold outcome at ok
  split at ok
  · exact (Except.ok.inj ok).symm
  · cases ok

end Server

/-- There is a server for the UID, and for any other UID what there is in the base. -/
def State.Adds (s : State) (base : Dict Server) (uid : String) (a : Server) : Prop :=
  ∀ k, s.servers.get? k = if k = uid then some a else base.get? k

section Adds

variable {s : State} {m : Machine} {base : Dict Server} {a : Server} {n k : Nat}

theorem State.Adds.self {uid : String} (adds : s.Adds base uid a) :
    s.servers.get? uid = some a := by
  rw [adds uid, if_pos rfl]

theorem State.Adds.insert {s' : State} {uid : String} {b : Server} (adds : s.Adds base uid a)
    (same : s'.servers = s.servers.insert uid b) : s'.Adds base uid b := by
  intro k
  rw [same, Dict.get?_insert, adds k]
  by_cases own : k = uid
  · simp only [own, if_true]
  · simp only [own, if_false]

/-- A look-up is counted. -/
theorem get_adds (adds : s.Adds base m.uid (a.seen n)) :
    (get m s).1 = .ok (a.seen (n + 1)).snapshot ∧
      (get m s).2.Adds base m.uid (a.seen (n + 1)) := by
  have found : get m s = (.ok (a.seen (n + 1)).snapshot,
      { s with servers := s.servers.insert m.uid (a.seen (n + 1)) }) := by
    simp only [get, adds.self]
    rfl
  rw [found]
  exact ⟨rfl, adds.insert rfl⟩

theorem get_absent (absent : s.servers.get? m.uid = none) :
    get m s = (.error .instanceNotFound, s) := by
  simp only [get, absent]

theorem place_adds (absent : s.servers.get? m.uid = none) :
    (place m k s).1 = ((Server.next m k s).seen 0).snapshot ∧
      (place m k s).2.Adds s.servers m.uid ((Server.next m k s).seen 0) := by
  have made : place m k s = (((Server.next m k s).seen 0).snapshot,
      { s with
        servers := s.servers.insert m.uid ((Server.next m k s).seen 0)
        lastOrdinal := s.lastOrdinal + 1 }) := by
    simp only [place, absent]
    rfl
  rw [made]
  exact ⟨rfl, fun uid => Dict.get?_insert s.servers m.uid uid _⟩

end Adds

end Fake

/-- So many look-ups have been made where there were to be at most so many, and fewer only if they
were enough. -/
structure Counted (k total n : Nat) : Prop where
  most : n ≤ total
  enough : n < total → k ≤ n

theorem Counted.iff {k total n : Nat} (counted : Counted k total n) (more : Nat) :
    k ≤ n + more ↔ k ≤ total + more := by
  obtain ⟨most, enough⟩ := counted
  omega

theorem Counted.trans {k total n n' more : Nat} (counted : Counted k total n)
    (later : Counted k (n + more) n') (grows : n ≤ n') : Counted k (total + more) n' := by
  obtain ⟨most, enough⟩ := counted
  obtain ⟨most', enough'⟩ := later
  constructor <;> omega

end MachineFleet
