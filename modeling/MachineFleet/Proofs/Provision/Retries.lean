import MachineFleet.Proofs.Provision.Round

/-!
A machine that is provisioned again and again on a cloud in memory that keeps its instances. The
first run makes the instance, and every later run finds it. The instance counts its look-ups, in
whichever run they are made: `n` of them in the first run, which sees the instance for the first
time without one, and `n + 1` in any later one. So it has its addresses once the look-ups of all
runs together are enough, and from then on every run ends in it.
-/

namespace MachineFleet.Clouds

variable {s : CloudSettings} {p : Provisioner} {w : Clouds} {k : Nat}

/-- The clouds after so many runs. The machine may be another one in each run. -/
def afterRuns (s : CloudSettings) (p : Provisioner) (ms : Nat → Machine) (w : Clouds) :
    Nat → Clouds
  | 0 => w
  | r + 1 => (provision s (p.createMachine (ms r)) (afterRuns s p ms w r)).2

/-- The report of the run with this number, counted from 0. -/
def runReport (s : CloudSettings) (p : Provisioner) (ms : Nat → Machine) (w : Clouds) (r : Nat) :
    MachineReport :=
  (provision s (p.createMachine (ms r)) (afterRuns s p ms w r)).1

/-- What the runs begin with: a cloud in memory that keeps its instances and has none for the UID,
saves that are accepted, and machines with this UID that can be provisioned. -/
structure Prepared (s : CloudSettings) (ms : Nat → Machine) (w : Clouds) (uid : String)
    (k : Nat) : Prop where
  keeps : s.keepInstances = true
  saves : ∀ x, ∃ y, s.save x = .ok y
  admissible : ∀ r, (ms r).Admissible s.resolver k
  uids : ∀ r, (ms r).uid = uid
  absent : w.fake.servers.get? uid = none
  calm : Calm (fun spec => ∃ r, Fake.addDefaults (ms r).spec = .ok spec) w

/-- How the runs go, counted from 0: run `r` ends in the instance exactly if `n + r * (n + 1)`
look-ups are enough, where `n` is the number of those after the first sight of it in one run. -/
structure Converges (s : CloudSettings) (p : Provisioner) (ms : Nat → Machine) (w : Clouds)
    (uid : String) (a : Fake.Server) : Prop where
  succeeds : ∀ r, (∃ i, (runReport s p ms w r).result = .ok i) ↔
    a.addressAfterPolls ≤ p.attempts + r * (p.attempts + 1)
  reports : ∀ r i, (runReport s p ms w r).result = .ok i → i = a.provisioned (decide (r = 0))
  fails : ∀ r e, (runReport s p ms w r).result = .error e →
    e = .noAddresses a.snapshot.providerId p.attempts ∧
      (runReport s p ms w r).machine.status = (ms r).status
  single : ∀ r, ∃ n, (afterRuns s p ms w (r + 1)).fake.Adds w.fake.servers uid (a.seen n)
  count : ∀ r, (afterRuns s p ms w (r + 1)).fake.servers.size = w.fake.servers.size + 1

variable {ms : Nat → Machine} {uid : String}

/-- What holds after every run. The server has been looked up as often as it could be, or often
enough, and the next run depends on nothing else. -/
theorem run_goes (prepared : Prepared s ms w uid k) (p : Provisioner) (r : Nat) :
    let a := Fake.Server.next (ms 0) k w.fake
    let total := p.attempts + r * (p.attempts + 1)
    (runReport s p ms w r).result = a.outcome p.attempts (decide (r = 0)) total ∧
      Calm (fun spec => ∃ r, Fake.addDefaults (ms r).spec = .ok spec)
        (afterRuns s p ms w (r + 1)) ∧
      ∃ n, Counted k total n ∧
        (afterRuns s p ms w (r + 1)).fake.Adds w.fake.servers uid (a.seen n) := by
  obtain ⟨keeps, saves, admissible, uids, absent, calm⟩ := prepared
  induction r with
  | zero =>
    rw [← uids 0] at absent ⊢
    have first := createMachine_first (p := p) keeps saves (admissible 0)
      (fun spec filled => ⟨0, filled⟩) absent calm
    dsimp only
    rw [Nat.zero_mul, Nat.add_zero]
    exact first
  | succ r ih =>
    obtain ⟨-, calm, n, counted, adds⟩ := ih
    rw [← uids (r + 1)] at adds ⊢
    have again := createMachine_again (p := p) keeps (admissible (r + 1))
      (fun spec filled => ⟨r + 1, filled⟩) counted adds calm
    have more : p.attempts + (r + 1) * (p.attempts + 1) =
        p.attempts + r * (p.attempts + 1) + (p.attempts + 1) := by
      rw [Nat.succ_mul, Nat.add_assoc]
    dsimp only
    rw [more]
    exact again

/-- A machine without an instance is provisioned again and again. The look-ups of all runs add up:
a run succeeds exactly if they are enough by then. Only the first run creates, there is one
instance after each run, and all that succeed report the same of it. -/
theorem retries_converge (prepared : Prepared s ms w uid k) (p : Provisioner) :
    Converges s p ms w uid (Fake.Server.next (ms 0) k w.fake) := by
  have goes := run_goes prepared p
  generalize named : Fake.Server.next (ms 0) k w.fake = a at goes
  have threshold : a.addressAfterPolls = k := by rw [← named]; rfl
  constructor
  case succeeds =>
    intro r
    obtain ⟨result, -⟩ := goes r
    rw [result, Fake.Server.outcome]
    by_cases enough : a.addressAfterPolls ≤ p.attempts + r * (p.attempts + 1)
    · simp [enough]
    · simp [enough]
  case reports =>
    intro r i ok
    obtain ⟨result, -⟩ := goes r
    exact Fake.Server.eq_of_outcome (result.symm.trans ok)
  case fails =>
    intro r e failed
    have accounts := (createMachine_accounts (answerQuery s) (afterRuns s p ms w r) p (ms r)).1
    obtain ⟨result, -⟩ := goes r
    have failed' := failed
    rw [result, Fake.Server.outcome] at failed'
    split at failed'
    · cases failed'
    · cases failed'
      refine ⟨rfl, accounts.other _ failed fun final => ?_⟩
      cases final
  case single =>
    intro r
    obtain ⟨-, -, n, -, adds⟩ := goes r
    exact ⟨n, adds⟩
  case count =>
    intro r
    obtain ⟨-, -, n, -, adds⟩ := goes r
    have listed := Dict.perm_cons prepared.absent adds
    exact listed.length_eq

/-- A machine whose instance has its addresses after three look-ups. -/
def slow : Machine where
  metadata := { name := some "worker-a", uid := some "uid-1" }
  spec :=
    { kubelet := "1.30.2"
      provider := some (.obj
        [("cloudProvider", .str "fake"), ("operatingSystem", .str "ubuntu"),
          ("cloudProviderSpec", .obj [("addressAfterPolls", .num (.int 3))])]) }

/-- With one look-up after the first sight, the second run is the first that succeeds. -/
theorem slow_machine_converges :
    Prepared {} (fun _ => slow) {} "uid-1" 3 ∧
    ((List.range 3).map fun r =>
      (runReport {} { attempts := 1 } (fun _ => slow) {} r).providerId?) =
        [none, some "fake://fake-1", some "fake://fake-1"] ∧
    Converges {} { attempts := 1 } (fun _ => slow) {} "uid-1" (Fake.Server.next slow 3 {}) := by
  have prepared : Prepared {} (fun _ => slow) {} "uid-1" 3 := by
    have admissible : slow.Admissible {} 3 := ⟨rfl, ⟨_, _, rfl, rfl, rfl, rfl⟩, _, rfl⟩
    exact ⟨rfl, fun x => ⟨x, rfl⟩, fun _ => admissible, fun _ => rfl, rfl, rfl, nofun⟩
  exact ⟨prepared, by decide +kernel, retries_converge prepared { attempts := 1 }⟩

end MachineFleet.Clouds
