import MachineFleet.Proofs.Fake.State
import MachineFleet.Proofs.Provision.Sighting
import MachineFleet.Registry

/-!
A batch of machines, provisioned one after the other by the clouds that are built in. The cloud in
memory keeps every instance under the UID of its machine for the rest of the batch, so two
machines are reported on one instance exactly if their UIDs are equal. A machine without a UID has
the empty one, whatever its name: two of these share an instance.
-/

namespace MachineFleet

def MachineReport.providerId? (r : MachineReport) : Option String :=
  r.result.toOption.map ProvisionedInstance.providerId

theorem MachineReport.ok_of_providerId? {r : MachineReport} {id : String}
    (shown : r.providerId? = some id) : ∃ i, r.result = .ok i ∧ i.providerId = id := by
  unfold providerId? at shown
  cases outcome : r.result with
  | error e =>
    rw [outcome] at shown
    cases shown
  | ok i =>
    rw [outcome] at shown
    exact ⟨i, rfl, Option.some.inj shown⟩

namespace Clouds

open Program ProvisionEvent

variable {s : CloudSettings} {w : Clouds}

theorem direct_grows (s : CloudSettings) (cloud : CloudProvider) {c : CloudCall}
    (keeps : Fake.removes c = false) (w : Clouds) :
    Fake.Grows w.fake (direct s cloud c w).2.fake := by
  unfold direct
  split
  · exact Fake.answer_grows (saveMachine s) w.saved s.resolver keeps w.fake
  · exact .same rfl rfl
  · exact .same rfl rfl
  · exact .same rfl rfl

/-- What is true before a validation and after one without the cache is true after it. -/
theorem validate_keeps {cloud : CloudProvider} {spec : MachineSpec} (kept : Clouds → Prop)
    (cached : ∀ w cache, kept w → kept { w with cache }) {w : Clouds} (holds : kept w)
    (asked : kept (direct s cloud (.validate spec) w).2) : kept (validate s cloud spec w).2 := by
  unfold validate
  split
  · exact asked
  · rename_i cache _
    unfold ValidationCache.validate
    dsimp only [StateT.run, Bind.bind, StateT.bind, pure, StateT.pure]
    -- Only without an outcome in the cache is the cloud asked.
    cases hit : cache.get w.now spec with
    | mk outcome cache' =>
      cases outcome with
      | some o => exact cached w _ holds
      | none => exact cached _ _ asked

theorem validate_grows (s : CloudSettings) (cloud : CloudProvider) (spec : MachineSpec)
    (w : Clouds) : Fake.Grows w.fake (validate s cloud spec w).2.fake :=
  validate_keeps (fun after => Fake.Grows w.fake after.fake) (fun _ _ => id) (.same rfl rfl)
    (direct_grows s cloud rfl w)

theorem answerQuery_grows (keeps : s.keepInstances = true) (q : ProvisionQuery) (w : Clouds) :
    Fake.Grows w.fake (answerQuery s q w).2.fake := by
  cases q with
  | select cloud =>
    simp only [answerQuery, keeps, if_true]
    exact .same rfl rfl
  | addDefaults cloud spec => exact direct_grows s cloud rfl w
  | validate cloud spec => exact validate_grows s cloud spec w
  | get cloud m => exact direct_grows s cloud rfl w
  | create cloud m script => exact direct_grows s cloud rfl w
  | pause => exact .same rfl rfl

/-- The cloud keeps an instance that it has shown under the UID of the machine. -/
theorem answerQuery_holds {q : ProvisionQuery} {m : Machine} {i : Instance}
    (shows : Shows .fake m i ⟨q, (answerQuery s q w).1⟩) :
    Fake.Holds (answerQuery s q w).2.fake m.uid i.providerId := by
  generalize event : (⟨q, (answerQuery s q w).1⟩ : ProvisionEvent) = e at shows
  cases shows with
  | got saved =>
    obtain ⟨rfl, told⟩ := Sigma.mk.inj event
    have found : (Fake.get m w.fake).1 = .ok i := congrArg Prod.snd (eq_of_heq told)
    exact (Fake.get_shown found).holds
  | made script saved =>
    obtain ⟨rfl, told⟩ := Sigma.mk.inj event
    have made : ((Fake.create m w.fake).run (saveMachine s) w.saved).1.1 = .ok i :=
      congrArg Prod.snd (eq_of_heq told)
    exact (Fake.create_shown (saveMachine s) w.saved made).holds

variable {uid providerId : String}

theorem provision_numbered (keeps : s.keepInstances = true) {α : Type} (x : Provisioning α)
    (numbered : Fake.Numbered w.fake) : Fake.Numbered (provision s x w).2.fake :=
  run_keeps (fun w => Fake.Numbered w.fake)
    (fun q w before => (answerQuery_grows keeps q w).numbered before) x w numbered

theorem provision_holds (keeps : s.keepInstances = true) {α : Type} (x : Provisioning α)
    (holds : Fake.Holds w.fake uid providerId) :
    Fake.Holds (provision s x w).2.fake uid providerId :=
  run_keeps (fun w => Fake.Holds w.fake uid providerId)
    (fun q w before => (answerQuery_grows keeps q w).holds before) x w holds

/-- Once a machine has been reported on an instance, the instance is kept under its UID. -/
theorem createMachine_holds (keeps : s.keepInstances = true) (p : Provisioner) {m : Machine}
    (inMemory : m.IsIn .fake) {i : ProvisionedInstance}
    (ok : (provision s (p.createMachine m) w).1.result = .ok i) :
    Fake.Holds (provision s (p.createMachine m) w).2.fake m.uid i.providerId := by
  obtain ⟨config, spec, x, created, e, member, decoded, shows, rfl⟩ :=
    Provisioner.reported_of_ok (answerQuery s) ok
  obtain ⟨config', decoded', named⟩ := inMemory
  cases decoded.symm.trans decoded'
  rw [named] at shows
  exact run_recalls (fun w e => ∀ m x, Shows .fake m x e → Fake.Holds w.fake m.uid x.providerId)
    (fun _ _ _ _ shows => answerQuery_holds shows)
    (fun q w e before m x shows => (answerQuery_grows keeps q w).holds (before m x shows))
    (p.createMachine m) w member { m with spec } x shows

/-- The machines with their reports, in the order in which they were given. -/
def reported (s : CloudSettings) (w : Clouds) (p : Provisioner) (ms : List Machine) :
    List (Machine × MachineReport) :=
  ms.zip (provision s (p.createMachines ms) w).1

theorem provision_cons (p : Provisioner) (m : Machine) (ms : List Machine) (w : Clouds) :
    provision s (p.createMachines (m :: ms)) w =
      let first := provision s (p.createMachine m) w
      let rest := provision s (p.createMachines ms) first.2
      (first.1 :: rest.1, rest.2) := by
  simp only [provision, Provisioner.createMachines, run_bind, run]

theorem length_createMachines (p : Provisioner) (ms : List Machine) (w : Clouds) :
    (provision s (p.createMachines ms) w).1.length = ms.length := by
  induction ms generalizing w with
  | nil => rfl
  | cons m rest ih =>
    rw [provision_cons]
    exact congrArg Nat.succ (ih _)

theorem createMachines_holds (keeps : s.keepInstances = true) (p : Provisioner)
    (ms : List Machine) (w : Clouds) {m : Machine} {r : MachineReport}
    (member : (m, r) ∈ reported s w p ms) (inMemory : m.IsIn .fake) {i : ProvisionedInstance}
    (ok : r.result = .ok i) :
    Fake.Holds (provision s (p.createMachines ms) w).2.fake m.uid i.providerId := by
  induction ms generalizing w with
  | nil => cases member
  | cons first rest ih =>
    unfold reported at member
    rw [provision_cons] at member ⊢
    rcases List.mem_cons.mp member with same | later
    · cases same
      exact provision_holds keeps _ (createMachine_holds keeps p inMemory ok)
    · exact ih _ later

/-- How the instances that a batch is reported on go with the UIDs of its machines. -/
structure Keyed (s : CloudSettings) (w : Clouds) (p : Provisioner) (ms : List Machine) : Prop where
  all : (provision s (p.createMachines ms) w).1.length = ms.length
  kept : ∀ a ∈ reported s w p ms, a.1.IsIn .fake → ∀ i, a.2.result = .ok i →
    Fake.Holds (provision s (p.createMachines ms) w).2.fake a.1.uid i.providerId
  shared : ∀ a ∈ reported s w p ms, ∀ b ∈ reported s w p ms, a.1.IsIn .fake → b.1.IsIn .fake →
    ∀ i j, a.2.result = .ok i → b.2.result = .ok j →
    (i.providerId = j.providerId ↔ a.1.uid = b.1.uid)
  apart : (∀ m ∈ ms, m.IsIn .fake) → (ms.map Machine.uid).Nodup →
    ((provision s (p.createMachines ms) w).1.filterMap MachineReport.providerId?).Nodup

theorem reported_pairwise {R : Machine → Machine → Prop} (p : Provisioner) {ms : List Machine}
    (apart : ms.Pairwise R) : (reported s w p ms).Pairwise fun a b => R a.1 b.1 := by
  have firsts : (reported s w p ms).map Prod.fst = ms :=
    List.map_fst_zip (Nat.le_of_eq (length_createMachines p ms w).symm)
  rw [← firsts] at apart
  exact List.pairwise_map.mp apart

theorem reported_snd (p : Provisioner) (ms : List Machine) :
    (reported s w p ms).map Prod.snd = (provision s (p.createMachines ms) w).1 :=
  List.map_snd_zip (Nat.le_of_eq (length_createMachines p ms w))

/-- On the cloud in memory, two machines of a batch are reported on one instance exactly if their
UIDs are equal, where no UID and the empty one are the same. -/
theorem batch_is_keyed_by_uid (keeps : s.keepInstances = true) (reached : Fake.Reached w.fake)
    (p : Provisioner) (ms : List Machine) : Keyed s w p ms := by
  have numbered := provision_numbered keeps (p.createMachines ms) reached.numbered
  have shared : ∀ a ∈ reported s w p ms, ∀ b ∈ reported s w p ms, a.1.IsIn .fake →
      b.1.IsIn .fake → ∀ i j, a.2.result = .ok i → b.2.result = .ok j →
      (i.providerId = j.providerId ↔ a.1.uid = b.1.uid) := by
    intro a memberA b memberB inA inB i j okA okB
    exact Fake.holds_iff numbered (createMachines_holds keeps p ms w memberA inA okA)
      (createMachines_holds keeps p ms w memberB inB okB)
  refine ⟨length_createMachines p ms w, ?_, shared, ?_⟩
  · intro a member inMemory i ok
    exact createMachines_holds keeps p ms w member inMemory ok
  · intro inMemory distinct
    have apart := reported_pairwise (s := s) (w := w) p (List.pairwise_map.mp distinct)
    rw [← reported_snd, List.filterMap_map]
    refine List.pairwise_filterMap.mpr (apart.imp_of_mem ?_)
    intro a b memberA memberB differ id shownA id' shownB same
    obtain ⟨i, okA, rfl⟩ := MachineReport.ok_of_providerId? shownA
    obtain ⟨j, okB, rfl⟩ := MachineReport.ok_of_providerId? shownB
    have inA := inMemory a.1 (List.of_mem_zip memberA).1
    have inB := inMemory b.1 (List.of_mem_zip memberB).1
    exact differ ((shared a memberA b memberB inA inB i j okA okB).mp same)

/-- A machine of the cloud in memory. -/
def worker (name : String) (uid : Option String) : Machine where
  metadata := { name := some name, namespaceName := some "workers", uid }
  spec :=
    { kubelet := "1.30.2"
      provider := some (.obj
        [("cloudProvider", .str "fake"), ("operatingSystem", .str "ubuntu")]) }

/-- Three machines of which one has no UID. -/
def mixed : List Machine :=
  [worker "worker-a" (some "uid-1"), worker "worker-b" none, worker "worker-c" (some "uid-2")]

theorem mixed_batch_is_keyed :
    ((provision {} (({} : Provisioner).createMachines mixed) {}).1.filterMap
      MachineReport.providerId? = ["fake://fake-1", "fake://fake-2", "fake://fake-3"]) ∧
    ({} : CloudSettings).keepInstances = true ∧ Fake.Reached ({} : Clouds).fake ∧
    Keyed {} {} {} mixed :=
  ⟨by decide +kernel, rfl, .empty, batch_is_keyed_by_uid rfl .empty {} mixed⟩

/-- Two machines with different names and no UID are reported on one instance. -/
theorem unidentified_machines_share :
    let ms := [worker "worker-a" none, worker "worker-b" none]
    (ms.map fun m => (m.metadata.namespaceName, m.metadata.name)).Nodup ∧
    (ms.filterMap fun m => m.metadata.uid).Nodup ∧
    (provision {} (({} : Provisioner).createMachines ms) {}).1.filterMap
      MachineReport.providerId? = ["fake://fake-1", "fake://fake-1"] := by
  decide +kernel

end Clouds

end MachineFleet
