import MachineFleet.Proofs.Cloud.Defaults
import MachineFleet.Proofs.Container.Acceptance
import MachineFleet.Proofs.Fake.LookUps
import MachineFleet.Proofs.Provision.Independence
import MachineFleet.Proofs.Provision.Requests

/-!
One run for a machine on a cloud in memory. It makes an instance if there is none, and looks up the
one that there is; in both cases the look-ups so far tell what it results in.
-/

namespace MachineFleet

open Program

namespace Fake

variable {r : Resolver} {spec spec' : MachineSpec} {c c' : ProviderConfig} {x : Spec}

theorem require_of_payload (read : payload spec = .ok (c, x)) :
    ProviderConfig.require spec = .ok c := by
  obtain ⟨envelope, -⟩ := requirePayload_iff.mp read
  rw [ProviderConfig.require, envelope]
  rfl

theorem check_of_payload (read : payload spec = .ok (c, x)) : check r spec =
    if c.operatingSystem.isSupported then do
      let pass ← (r.bool? x.passValidation).mapError .config
      if pass = some false then throw (.invalidConfiguration "failing validation as requested")
    else throw (.invalidConfiguration
      ("unsupported operating system '" ++ c.operatingSystem.name ++ "'")) := by
  simp only [check, require_of_payload read, read, Bind.bind, Except.bind]
  cases c.operatingSystem.isSupported <;> rfl

theorem supported_of_check (read : payload spec = .ok (c, x)) (valid : check r spec = .ok ()) :
    c.operatingSystem.isSupported = true := by
  rw [check_of_payload read] at valid
  split at valid
  · assumption
  · cases valid

/-- With the defaults filled in, the same is read from a specification, and it is as valid. -/
theorem addDefaults_of_payload (read : payload spec = .ok (c, x)) (valid : check r spec = .ok ()) :
    ∃ spec' j, addDefaults spec = .ok spec' ∧ spec'.kubelet = spec.kubelet ∧
      payload spec' = .ok ({ c with cloudProviderSpec := j }, x) ∧ check r spec' = .ok () := by
  have filled : addDefaults spec = .ok ((c.withCloudSpec x.toJson).applyTo spec) := by
    rw [addDefaults, read]
    rfl
  have answered : Clouds.answer {} .fake (.addDefaults spec) {} =
      (.ok ((c.withCloudSpec x.toJson).applyTo spec), {}) :=
    congrArg (·, _) filled
  obtain ⟨-, others, reads⟩ := fake_rewrites.defaulted answer_fake answered
  obtain ⟨j, reread⟩ := reads c x read
  refine ⟨_, j, filled, ?_, reread, ?_⟩
  · rw [others]
  · rw [check_of_payload reread]
    rwa [check_of_payload read] at valid

end Fake

/-- The cloud in memory accepts the machine and can make an instance of it, which has addresses
after so many look-ups. -/
structure Machine.Admissible (r : Resolver) (k : Nat) (m : Machine) : Prop where
  valid : Fake.check r m.spec = .ok ()
  settings : ∃ c x, Fake.payload m.spec = .ok (c, x) ∧ c.cloudProvider = .fake ∧
    x.addressAfterPolls = k ∧ x.createError = none
  kubelet : ∃ v, readKubeletVersion m.spec.kubelet = .ok v

theorem Machine.Admissible.defaulted {r : Resolver} {k : Nat} {m : Machine}
    (admissible : m.Admissible r k) :
    ∃ spec, Fake.addDefaults m.spec = .ok spec ∧ ({ m with spec } : Machine).Admissible r k := by
  obtain ⟨valid, ⟨c, x, read, named, polls, makes⟩, v, version⟩ := admissible
  obtain ⟨spec, j, filled, kubelet, reread, valid'⟩ := Fake.addDefaults_of_payload read valid
  refine ⟨spec, filled, valid', ⟨_, x, reread, named, polls, makes⟩, v, ?_⟩
  show readKubeletVersion spec.kubelet = _
  rw [kubelet, version]

namespace Clouds

open Provisioner

/-- The cloud in memory is not about to fail, and all that the cache has of the specifications is
that they are valid. -/
structure Calm (specs : MachineSpec → Prop) (w : Clouds) : Prop where
  quiet : w.fake.failNext = false
  trusted : ∀ c, w.cache = some c → c.Truthful (fun _ => .ok ()) specs

variable {s : CloudSettings} {p : Provisioner} {m : Machine} {w : Clouds} {base : Dict Fake.Server}
  {a : Fake.Server} {c : ProviderConfig} {n k : Nat} {specs : MachineSpec → Prop}

theorem answerQuery_calm {q : ProvisionQuery} (asked : OfInstance q) (w : Clouds)
    (calm : Calm specs w) : Calm specs (answerQuery s q w).2 := by
  obtain ⟨quiet, trusted⟩ := calm
  cases q with
  | select cloud => exact asked.elim
  | addDefaults cloud spec => exact asked.elim
  | validate cloud spec => exact asked.elim
  | pause => exact ⟨quiet, trusted⟩
  | get cloud m =>
    obtain rfl : cloud = .fake := asked
    refine ⟨?_, trusted⟩
    show (Fake.get m w.fake).2.failNext = false
    unfold Fake.get
    split <;> exact quiet
  | create cloud m script =>
    obtain rfl : cloud = .fake := asked
    refine ⟨?_, trusted⟩
    show ((Fake.create m w.fake).run (saveMachine s) w.saved).1.2.failNext = false
    rcases Fake.create_cases (saveMachine s) w.saved m w.fake with ⟨e, failed⟩ | ⟨polls, placed⟩
    · rw [failed]
      exact quiet
    · rw [placed]
      unfold Fake.place
      split <;> exact quiet

theorem ensure_calm (named : c.cloudProvider = .fake) (calm : Calm specs w) :
    Calm specs (provision s (p.ensureInstance c m) w).2 :=
  run_keeps_of_asks (ensureInstance_asks named) (Calm specs) (fun _ => answerQuery_calm) w calm

theorem poll_adds (adds : w.fake.Adds base m.uid (a.seen n)) :
    (poll (answerQuery s) .fake m w).1.2 = .ok (a.seen (n + 1)).snapshot ∧
      (poll (answerQuery s) .fake m w).2.fake.Adds base m.uid (a.seen (n + 1)) :=
  Fake.get_adds adds

theorem afterPolls_adds (adds : w.fake.Adds base m.uid (a.seen n)) (j : Nat) :
    (afterPolls (answerQuery s) .fake m j w).fake.Adds base m.uid (a.seen (n + j)) := by
  induction j generalizing n w with
  | zero => exact adds
  | succ j ih =>
    have later := ih (poll_adds (s := s) adds).2
    rwa [Nat.add_right_comm] at later

theorem sights_seen (adds : w.fake.Adds base m.uid (a.seen n)) (j : Nat) :
    sights (answerQuery s) .fake m (a.seen n).snapshot w j = .ok (a.seen (n + j)).snapshot := by
  cases j with
  | zero => rfl
  | succ j => exact (poll_adds (afterPolls_adds adds j)).1

/-- Waiting looks the server up until it has its addresses, and no more often than it may. -/
theorem waits (adds : w.fake.Adds base m.uid (a.seen n)) (created : Bool)
    (saved : Option Machine) :
    let waiting := p.waitForAddresses .fake m created p.attempts saved (a.seen n).snapshot
    (waiting.run (answerQuery s) w).1.result =
        a.outcome p.attempts created (n + p.attempts) ∧
      ∃ n', n ≤ n' ∧ Counted a.addressAfterPolls (n + p.attempts) n' ∧
        (waiting.run (answerQuery s) w).2.fake.Adds base m.uid (a.seen n') := by
  obtain ⟨j, ends, -, result, after⟩ := waitForAddresses_stops (answerQuery s) .fake m p created
    p.attempts saved (a.seen n).snapshot w
  have within : j ≤ p.attempts := ends.within
  have counted : Counted a.addressAfterPolls (n + p.attempts) (n + j) := by
    refine ⟨Nat.add_le_add_left within n, fun less => ?_⟩
    have settled := ends.enough (Nat.lt_of_add_lt_add_left less)
    rw [sights_seen adds, Fake.Server.pending_seen] at settled
    exact Decidable.not_not.mp settled
  refine ⟨?_, n + j, Nat.le_add_right n j, counted, ?_⟩
  · rw [result, sights_seen adds, Fake.Server.conclude_seen]
    exact Fake.Server.outcome_congr (counted.iff 0)
  · rw [after]
    exact afterPolls_adds adds j

/-- A run on a cloud in memory that has a server for the machine. -/
theorem ensure_found (named : c.cloudProvider = .fake) (adds : w.fake.Adds base m.uid (a.seen n)) :
    let done := provision s (p.ensureInstance c m) w
    done.1.result = a.outcome p.attempts false (n + (p.attempts + 1)) ∧
      ∃ n', n ≤ n' ∧ Counted a.addressAfterPolls (n + (p.attempts + 1)) n' ∧
        done.2.fake.Adds base m.uid (a.seen n') := by
  obtain ⟨found, after⟩ : (answerQuery s (.get .fake m) w).1.2 = .ok (a.seen (n + 1)).snapshot ∧
      (answerQuery s (.get .fake m) w).2.fake.Adds base m.uid (a.seen (n + 1)) :=
    Fake.get_adds adds
  unfold provision ensureInstance
  rw [named]
  simp only [run]
  rcases told : (answerQuery s (.get .fake m) w).1 with ⟨saved, sight⟩
  rw [told] at found
  cases found
  obtain ⟨result, n', grows, counted, adds⟩ := waits (s := s) (p := p) after false saved
  have sum : n + 1 + p.attempts = n + (p.attempts + 1) := by omega
  rw [sum] at result counted
  exact ⟨result, n', Nat.le_of_succ_le grows, counted, adds⟩

/-- A run on a cloud in memory that has none creates. -/
theorem ensure_absent (named : c.cloudProvider = .fake)
    (absent : w.fake.servers.get? m.uid = none) :
    provision s (p.ensureInstance c m) w = provision s (p.createInstance c m none) w := by
  have missing : answerQuery s (.get .fake m) w = ((none, .error .instanceNotFound), w) := by
    have none : savedSince w w = none := by
      apply savedSince_eq
      rfl
    show ((savedSince w { w with fake := (Fake.get m w.fake).2 }, (Fake.get m w.fake).1),
      { w with fake := (Fake.get m w.fake).2 }) = _
    rw [Fake.get_absent absent, none]
  unfold provision ensureInstance
  rw [named]
  simp only [run, missing]
  rfl

/-- A creation that comes to it waits for the server that was made. -/
theorem create_placed {script : String} (scripted : p.userdata c.operatingSystem m = .ok script)
    (named : c.cloudProvider = .fake) (absent : w.fake.servers.get? m.uid = none)
    (placed : ((Fake.create m w.fake).run (saveMachine s) w.saved).1 =
      (.ok (Fake.place m k w.fake).1, (Fake.place m k w.fake).2)) (saved : Option Machine) :
    let a := Fake.Server.next m k w.fake
    let done := provision s (p.createInstance c m saved) w
    done.1.result = a.outcome p.attempts true p.attempts ∧
      ∃ n, Counted k p.attempts n ∧ done.2.fake.Adds w.fake.servers m.uid (a.seen n) := by
  obtain ⟨shown, adds⟩ := Fake.place_adds (k := k) absent
  have made : (answerQuery s (.create .fake m script) w).1.2 =
      .ok ((Fake.Server.next m k w.fake).seen 0).snapshot :=
    (congrArg Prod.fst placed).trans (congrArg Except.ok shown)
  have after : (answerQuery s (.create .fake m script) w).2.fake = (Fake.place m k w.fake).2 :=
    congrArg Prod.snd placed
  rw [← after] at adds
  unfold provision createInstance
  rw [named, scripted]
  simp only [run]
  rcases told : (answerQuery s (.create .fake m script) w).1 with ⟨saved', sight⟩
  rw [told] at made
  cases made
  have waited := waits (s := s) (p := p) adds true (saved'.or saved)
  rw [Nat.zero_add] at waited
  obtain ⟨result, n, -, counted, adds⟩ := waited
  exact ⟨result, n, counted, adds⟩

/-- What a run does on a cloud in memory that has no server for the machine. -/
theorem ensure_first (named : c.cloudProvider = .fake)
    (supported : c.operatingSystem.isSupported = true) (admissible : m.Admissible s.resolver k)
    (saves : ∀ x, ∃ y, s.save x = .ok y) (absent : w.fake.servers.get? m.uid = none) :
    let a := Fake.Server.next m k w.fake
    let done := provision s (p.ensureInstance c m) w
    done.1.result = a.outcome p.attempts true p.attempts ∧
      ∃ n, Counted k p.attempts n ∧ done.2.fake.Adds w.fake.servers m.uid (a.seen n) := by
  obtain ⟨-, ⟨d, x, read, -, rfl, makes⟩, v, version⟩ := admissible
  obtain ⟨e, selected⟩ := p.runtime.engine_of_kubelet version
  obtain ⟨script, -, built⟩ := Userdata.build_ok e p.extraUserdata supported
  have scripted := userdata_eq_ok_iff.mpr ⟨e, selected, built⟩
  obtain ⟨y, saved⟩ := saves (m.addFinalizer Fake.finalizer)
  have placed : ((Fake.create m w.fake).run (saveMachine s) w.saved).1 =
      (.ok (Fake.place m x.addressAfterPolls w.fake).1,
        (Fake.place m x.addressAfterPolls w.fake).2) := by
    simp only [Fake.create, read, makes, run, saveMachine, saved]
  rw [ensure_absent named absent]
  exact create_placed scripted named absent placed none

/-- What a run does on a cloud in memory that has a server which has been looked up before. -/
theorem ensure_again (named : c.cloudProvider = .fake) {total : Nat}
    (counted : Counted a.addressAfterPolls total n)
    (adds : w.fake.Adds base m.uid (a.seen n)) :
    let done := provision s (p.ensureInstance c m) w
    let total' := total + (p.attempts + 1)
    done.1.result = a.outcome p.attempts false total' ∧
      ∃ n', Counted a.addressAfterPolls total' n' ∧ done.2.fake.Adds base m.uid (a.seen n') := by
  obtain ⟨result, n', grows, later, adds⟩ := ensure_found (s := s) (p := p) named adds
  refine ⟨?_, n', counted.trans later grows, adds⟩
  rw [result]
  exact Fake.Server.outcome_congr (counted.iff _)

/-- The clouds when one has been selected. -/
def selected (s : CloudSettings) (w : Clouds) : Clouds :=
  if s.keepInstances then w else { w with fake := {} }

/-- A machine with a valid specification is looked for with the defaults filled in. -/
theorem attempt_eq {spec : MachineSpec} (decoded : ProviderConfig.require m.spec = .ok c)
    (builtin : requireBuiltin c.cloudProvider = .ok ()) {w' w'' : Clouds}
    (filled : answer s c.cloudProvider (.addDefaults m.spec) (selected s w) = (.ok spec, w'))
    (valid : validate s c.cloudProvider spec w' = (.ok (), w'')) :
    provision s (p.attempt m) w = provision s (p.ensureInstance c { m with spec }) w'' := by
  have chosen : answerQuery s (.select c.cloudProvider) w = (.ok (), selected s w) :=
    congrArg (·, selected s w) builtin
  unfold provision attempt
  rw [decoded]
  simp only [run, chosen]
  simp only [answerQuery, filled, run, valid]

/-- An admissible machine is looked for, whatever the cache has. -/
theorem attempt_ensures (keeps : s.keepInstances = true) (admissible : m.Admissible s.resolver k)
    (among : ∀ spec, Fake.addDefaults m.spec = .ok spec → specs spec) (calm : Calm specs w) :
    ∃ c spec v, c.cloudProvider = .fake ∧ c.operatingSystem.isSupported = true ∧
      ({ m with spec } : Machine).Admissible s.resolver k ∧ Twins w v ∧ Calm specs v ∧
      provision s (p.attempt m) w = provision s (p.ensureInstance c { m with spec }) v := by
  obtain ⟨c, x, read, named, -⟩ := admissible.settings
  obtain ⟨spec, defaulted, again⟩ := admissible.defaulted
  obtain ⟨verdict, twins, trusted⟩ := validate_answers (among spec defaulted) calm.quiet
    calm.trusted again.valid fun _ _ _ => rfl
  have quiet : (validate s .fake spec w).2.fake.failNext = false := by
    obtain ⟨_, same⟩ := twins
    rw [same]
    exact calm.quiet
  have supported := Fake.supported_of_check read admissible.valid
  have filled : answer s c.cloudProvider (.addDefaults m.spec) (selected s w) = (.ok spec, w) := by
    rw [named, selected, if_pos keeps]
    exact congrArg (·, w) defaulted
  refine ⟨c, spec, _, named, supported, again, twins, ⟨quiet, trusted⟩, ?_⟩
  refine attempt_eq (Fake.require_of_payload read) ?_ filled ?_
  · rw [named]
    rfl
  · rw [named, ← verdict]

theorem createMachine_eq (p : Provisioner) (m : Machine) (w : Clouds) :
    provision s (p.createMachine m) w =
      ((provision s (p.attempt m) w).1.report, (provision s (p.attempt m) w).2) := by
  simp only [provision, createMachine, run_bind, run]

theorem createMachine_first (keeps : s.keepInstances = true)
    (saves : ∀ x, ∃ y, s.save x = .ok y) (admissible : m.Admissible s.resolver k)
    (among : ∀ spec, Fake.addDefaults m.spec = .ok spec → specs spec)
    (absent : w.fake.servers.get? m.uid = none) (calm : Calm specs w) :
    let a := Fake.Server.next m k w.fake
    let done := provision s (p.createMachine m) w
    done.1.result = a.outcome p.attempts true p.attempts ∧ Calm specs done.2 ∧
      ∃ n, Counted k p.attempts n ∧ done.2.fake.Adds w.fake.servers m.uid (a.seen n) := by
  obtain ⟨c, spec, v, named, supported, again, ⟨calls, same⟩, calm, ensures⟩ :=
    attempt_ensures (p := p) keeps admissible among calm
  have absent' : v.fake.servers.get? m.uid = none := by rwa [same]
  obtain ⟨result, n, counted, adds⟩ :=
    ensure_first (p := p) named supported again saves absent'
  dsimp only
  rw [createMachine_eq, ensures, ProvisionAttempt.report_result]
  rw [same] at result adds
  exact ⟨result, ensure_calm named calm, n, counted, adds⟩

theorem createMachine_again (keeps : s.keepInstances = true)
    (admissible : m.Admissible s.resolver k)
    (among : ∀ spec, Fake.addDefaults m.spec = .ok spec → specs spec) {total : Nat}
    (counted : Counted a.addressAfterPolls total n) (adds : w.fake.Adds base m.uid (a.seen n))
    (calm : Calm specs w) :
    let done := provision s (p.createMachine m) w
    let total' := total + (p.attempts + 1)
    done.1.result = a.outcome p.attempts false total' ∧ Calm specs done.2 ∧
      ∃ n', Counted a.addressAfterPolls total' n' ∧ done.2.fake.Adds base m.uid (a.seen n') := by
  obtain ⟨c, spec, v, named, -, -, ⟨calls, same⟩, calm, ensures⟩ :=
    attempt_ensures (p := p) keeps admissible among calm
  have adds' : v.fake.Adds base m.uid (a.seen n) := by rwa [same]
  obtain ⟨result, n', counted, adds⟩ :=
    ensure_again (s := s) (p := p) (m := { m with spec }) named counted adds'
  dsimp only
  rw [createMachine_eq, ensures, ProvisionAttempt.report_result]
  exact ⟨result, ensure_calm named calm, n', counted, adds⟩

end Clouds

end MachineFleet
