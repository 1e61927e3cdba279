import MachineFleet.Proofs.Fake.Verdict
import MachineFleet.Proofs.Provision.Batch

/-!
A batch of machines where each selected cloud is a new one. What the machines before may leave
behind is the time and a cache of validation outcomes, and every outcome in the cache is what
validating its machine again would give. So each machine is reported on as if it were alone.
-/

namespace MachineFleet

open Program

/-- No cloud behind a network is built in for the machine. -/
def Machine.IsLocal (m : Machine) : Prop := ∀ cloud ∈ builtinClouds, m.IsIn cloud → cloud = .fake

theorem mem_of_requireBuiltin {cloud : CloudProvider} {u : Unit}
    (selected : requireBuiltin cloud = .ok u) : cloud ∈ builtinClouds := by
  unfold requireBuiltin at selected
  split at selected
  · rename_i contained
    exact List.contains_iff_mem.mp contained
  · cases selected

instance (m : Machine) : Decidable m.IsLocal :=
  match decoded : ProviderConfig.require m.spec with
  | .error _ => .isTrue fun _ _ ⟨_, read, _⟩ => by cases decoded.symm.trans read
  | .ok config => decidable_of_iff
      (config.cloudProvider ∈ builtinClouds → config.cloudProvider = .fake) (by
        constructor
        · rintro inMemory _ builtin ⟨_, read, rfl⟩
          cases decoded.symm.trans read
          exact inMemory builtin
        · exact fun isLocal builtin => isLocal _ builtin ⟨config, decoded, rfl⟩)

/-- The text under which the cloud in memory is asked about the machine. -/
def Machine.validatedText? (m : Machine) : Option String :=
  match ProviderConfig.require m.spec with
  | .error _ => none
  | .ok config =>
    if config.cloudProvider = .fake then
      (Fake.addDefaults m.spec).toOption.map ValidationCache.canonicalText
    else none

/-- What the cloud in memory is asked about one of the machines. -/
def Validated (ms : List Machine) (spec : MachineSpec) : Prop :=
  ∃ m ∈ ms, m.IsIn .fake ∧ Fake.addDefaults m.spec = .ok spec

variable {ms : List Machine} {m : Machine} {spec spec' : MachineSpec}

theorem Fake.addDefaults_sorted (defaulted : Fake.addDefaults spec = .ok spec') :
    ∃ j : Json, spec'.provider = some j.sorted := by
  obtain ⟨⟨c, payload⟩, -, applied⟩ := ok_of_bind defaulted
  cases applied
  exact ⟨_, rfl⟩

/-- Of the machines of a batch, those with one key have one verdict. -/
theorem check_eq_of_key (r : Resolver)
    (separates : Digest.Separates (ms.filterMap Machine.validatedText?))
    (member : Validated ms spec) (member' : Validated ms spec')
    (same : ValidationCache.key spec = ValidationCache.key spec') :
    Fake.check r spec = Fake.check r spec' := by
  have text : ∀ {spec}, Validated ms spec →
      ValidationCache.canonicalText spec ∈ ms.filterMap Machine.validatedText? := by
    rintro spec ⟨m, member, ⟨config, decoded, named⟩, defaulted⟩
    refine List.mem_filterMap.mpr ⟨m, member, ?_⟩
    simp only [Machine.validatedText?, decoded, named, if_true, defaulted]
    rfl
  have texts := separates _ (text member) _ (text member') same
  obtain ⟨_, -, -, defaulted⟩ := member
  obtain ⟨_, -, -, defaulted'⟩ := member'
  obtain ⟨j, present⟩ := Fake.addDefaults_sorted defaulted
  obtain ⟨j', present'⟩ := Fake.addDefaults_sorted defaulted'
  have order : spec.InOrder := fun v same => by
    cases present.symm.trans same
    exact Json.inOrder_sorted j
  have order' : spec'.InOrder := fun v same => by
    cases present'.symm.trans same
    exact Json.inOrder_sorted j'
  exact Fake.check_eq_of_text order order' present present' texts

namespace Clouds

variable {s : CloudSettings} {w w' : Clouds}

/-- There is no cache, or nothing has been stored in it. -/
def IsFresh (w : Clouds) : Prop := ∀ c, w.cache = some c → c.entries = .empty

/-- What the cache has of these machines is what validating them gives. -/
def Truthful (s : CloudSettings) (ms : List Machine) (w : Clouds) : Prop :=
  ∀ c, w.cache = some c → c.Truthful (Fake.check s.resolver) (Validated ms)

theorem truthful_of_fresh (fresh : w.IsFresh) : w.Truthful s ms := by
  intro c present spec _ e found
  rw [fresh c present] at found
  cases found

/-- The clouds in memory differ in no more than how often they have validated. -/
def Twins (w w' : Clouds) : Prop := ∃ n, w'.fake = { w.fake with validateCalls := n }

theorem Twins.refl (w : Clouds) : Twins w w := ⟨w.fake.validateCalls, rfl⟩

theorem Twins.trans {u v w : Clouds} (first : Twins u v) (second : Twins v w) : Twins u w := by
  obtain ⟨n, vu⟩ := first
  obtain ⟨k, wv⟩ := second
  exact ⟨k, by rw [wv, vu]⟩

theorem Twins.symm (twins : Twins w w') : Twins w' w := by
  obtain ⟨n, same⟩ := twins
  exact ⟨w.fake.validateCalls, by rw [same]⟩

theorem direct_validate (quiet : w.fake.failNext = false) :
    (direct s .fake (.validate spec) w).1 = Fake.check s.resolver spec ∧
      Twins w (direct s .fake (.validate spec) w).2 := by
  refine ⟨Fake.validate_fst quiet, w.fake.validateCalls + 1, ?_⟩
  show (Fake.validate s.resolver spec w.fake).2 = _
  unfold Fake.validate
  rw [if_neg (by rw [quiet]; exact Bool.false_ne_true), ← quiet]

/-- With or without the cache, a specification that the cache is truthful about gets its own
verdict. -/
theorem validate_answers {truth : MachineSpec → Except CloudError Unit}
    {among : MachineSpec → Prop} (member : among spec) (quiet : w.fake.failNext = false)
    (truthful : ∀ c, w.cache = some c → c.Truthful truth among)
    (verdict : Fake.check s.resolver spec = truth spec)
    (shared : ∀ other, among other → ValidationCache.key other = ValidationCache.key spec →
      truth other = truth spec) :
    (validate s .fake spec w).1 = truth spec ∧ Twins w (validate s .fake spec w).2 ∧
      ∀ c, (validate s .fake spec w).2.cache = some c → c.Truthful truth among := by
  have asked : (direct s .fake (.validate spec) w).1 = truth spec :=
    (direct_validate quiet).1.trans verdict
  have twins : Twins w (direct s .fake (.validate spec) w).2 := (direct_validate quiet).2
  unfold validate
  split
  · rename_i uncached
    exact ⟨asked, twins, fun c present => by cases uncached.symm.trans present⟩
  · rename_i cache cached
    have known := truthful cache cached
    have looked := known.get w.now spec
    have first := ValidationCache.get_fst cache w.now spec
    unfold ValidationCache.validate
    dsimp only [StateT.run, Bind.bind, StateT.bind, pure, StateT.pure]
    cases hit : cache.get w.now spec with
    | mk outcome cache' =>
      rw [hit] at looked first
      cases outcome with
      | some o =>
        obtain ⟨e, live, rfl⟩ := Option.map_eq_some_iff.mp first.symm
        refine ⟨known spec member e (ValidationCache.known?_eq_some.mp live).1, .refl w, ?_⟩
        intro c present
        cases present
        exact looked
      | none =>
        refine ⟨asked, twins, ?_⟩
        intro c present
        cases present
        show (cache'.record _ spec (direct s .fake (.validate spec) w).1).Truthful _ _
        rw [asked]
        refine looked.record _ shared fun o kept => ?_
        rw [← verdict] at kept ⊢
        exact Fake.answer_of_outcome? kept

theorem validate_tells (separates : Digest.Separates (ms.filterMap Machine.validatedText?))
    (member : Validated ms spec) (quiet : w.fake.failNext = false) (truthful : w.Truthful s ms) :
    (validate s .fake spec w).1 = Fake.check s.resolver spec ∧
      Twins w (validate s .fake spec w).2 ∧ (validate s .fake spec w).2.Truthful s ms :=
  validate_answers member quiet truthful rfl fun _ among same =>
    check_eq_of_key s.resolver separates among member same

/-- The clouds in memory are twins, and both caches are truthful about these machines. -/
structure Alike (s : CloudSettings) (ms : List Machine) (w w' : Clouds) : Prop where
  twins : Twins w w'
  left : w.Truthful s ms
  right : w'.Truthful s ms

theorem answerQuery_addDefaults (spec : MachineSpec) (w : Clouds) :
    answerQuery s (.addDefaults .fake spec) w = (Fake.addDefaults spec, w) := rfl

/-- What is asked to find or create an instance in memory. -/
def OfInstance : ProvisionQuery → Prop
  | .get cloud _ => cloud = .fake
  | .create cloud _ _ => cloud = .fake
  | .pause => True
  | _ => False

/-- The answer, the instances afterwards and the machine that is saved, if one is, depend neither on
how often the cloud has validated nor on what was saved before. -/
def Concludes (s : CloudSettings) (f : Fake.State) (c : CloudCall) (a : c.Answer) (f' : Fake.State)
    (last : Option Machine) : Prop :=
  ∀ n saved, (Fake.answer s.resolver c { f with validateCalls := n }).run (saveMachine s) saved =
    ((a, { f' with validateCalls := n }), last.toList ++ saved)

theorem concludes_get (f : Fake.State) (m : Machine) :
    Concludes s f (.get m) (Fake.get m f).1 (Fake.get m f).2 none := by
  intro n saved
  simp only [Fake.answer, run, Fake.get]
  cases f.servers.get? m.uid <;> rfl

theorem concludes_create (f : Fake.State) (m : Machine) (script : String) :
    ∃ a f' last, Concludes s f (.create m script) a f' last := by
  unfold Concludes
  simp only [Fake.answer, Fake.create]
  cases Fake.payload m.spec with
  | error e => exact ⟨.error e, f, none, fun _ _ => rfl⟩
  | ok read =>
    dsimp only
    cases read.2.createError with
    | some reason => exact ⟨_, f, none, fun _ _ => rfl⟩
    | none =>
      simp only [run, saveMachine]
      cases s.save (m.addFinalizer Fake.finalizer) with
      | error e => exact ⟨.error e, f, none, fun _ _ => rfl⟩
      | ok m' =>
        refine ⟨.ok (Fake.place m read.2.addressAfterPolls f).1,
          (Fake.place m read.2.addressAfterPolls f).2, some m', fun n saved => ?_⟩
        simp only [run, Fake.place]
        cases f.servers.get? m.uid <;> rfl

theorem savedSince_eq {last : Option Machine} (saved : w'.saved = last.toList ++ w.saved) :
    savedSince w w' = last := by
  unfold savedSince
  rw [saved]
  cases last <;> simp

theorem direct_of_concludes {c : CloudCall} {a : c.Answer} {f f' : Fake.State}
    {last : Option Machine} (concludes : Concludes s f c a f' last) {n : Nat}
    (same : w.fake = { f with validateCalls := n }) :
    direct s .fake c w =
      (a, { w with fake := { f' with validateCalls := n }, saved := last.toList ++ w.saved }) := by
  unfold direct
  simp only [same, concludes n w.saved]

theorem direct_alike {c : CloudCall} {a : c.Answer} {f' : Fake.State} {last : Option Machine}
    (concludes : Concludes s w.fake c a f' last) (twins : Twins w w') :
    (direct s .fake c w).1 = (direct s .fake c w').1 ∧
      savedSince w (direct s .fake c w).2 = savedSince w' (direct s .fake c w').2 ∧
      Twins (direct s .fake c w).2 (direct s .fake c w').2 := by
  obtain ⟨n, same⟩ := twins
  rw [direct_of_concludes concludes (w := w) rfl, direct_of_concludes concludes same]
  exact ⟨rfl, (savedSince_eq rfl).trans (savedSince_eq rfl).symm, n, rfl⟩

theorem answerQuery_alike (q : ProvisionQuery) (asked : OfInstance q) (w w' : Clouds)
    (alike : Alike s ms w w') : (answerQuery s q w).1 = (answerQuery s q w').1 ∧
      Alike s ms (answerQuery s q w).2 (answerQuery s q w').2 := by
  cases q with
  | select cloud => exact asked.elim
  | addDefaults cloud spec => exact asked.elim
  | validate cloud spec => exact asked.elim
  | get cloud m =>
    obtain rfl : cloud = .fake := asked
    obtain ⟨same, saved, twins⟩ := direct_alike (concludes_get (s := s) w.fake m) alike.twins
    exact ⟨Prod.ext saved same, twins, alike.left, alike.right⟩
  | create cloud m script =>
    obtain rfl : cloud = .fake := asked
    obtain ⟨a, f', last, concludes⟩ := concludes_create (s := s) w.fake m script
    obtain ⟨same, saved, twins⟩ := direct_alike concludes alike.twins
    exact ⟨Prod.ext saved same, twins, alike.left, alike.right⟩
  | pause => exact ⟨rfl, alike.twins, alike.left, alike.right⟩

end Clouds

namespace Provisioner

open Clouds

variable {p : Provisioner}

theorem waitForAddresses_asks (created : Bool) (n : Nat) (saved : Option Machine) (i : Instance) :
    (p.waitForAddresses .fake m created n saved i).Asks OfInstance := by
  induction n generalizing saved i with
  | zero =>
    unfold waitForAddresses
    split <;> exact trivial
  | succ n ih =>
    unfold waitForAddresses
    split
    · refine ⟨trivial, fun _ => ⟨rfl, fun a => ?_⟩⟩
      obtain ⟨s, answer⟩ := a
      cases answer with
      | ok i => exact ih _ i
      | error e => exact trivial
    · exact trivial

theorem ensureInstance_asks {config : ProviderConfig} (inMemory : config.cloudProvider = .fake) :
    (p.ensureInstance config m).Asks OfInstance := by
  unfold ensureInstance createInstance
  rw [inMemory]
  refine ⟨rfl, fun a => ?_⟩
  obtain ⟨s, answer⟩ := a
  cases answer with
  | ok i => exact waitForAddresses_asks _ _ _ _
  | error e =>
    dsimp only
    split
    · split
      · exact trivial
      · refine ⟨rfl, fun a => ?_⟩
        obtain ⟨s', answer⟩ := a
        cases answer with
        | ok i => exact waitForAddresses_asks _ _ _ _
        | error e => exact trivial
    · exact trivial

end Provisioner

namespace Clouds

open Provisioner

variable {s : CloudSettings} {w w' : Clouds} {p : Provisioner}

/-- A machine of the batch is attempted alike wherever nothing wrong has been stored before, and
nothing wrong is stored. -/
theorem attempt_alike (each : s.keepInstances = false)
    (separates : Digest.Separates (ms.filterMap Machine.validatedText?)) (member : m ∈ ms)
    (inMemory : m.IsLocal) (left : w.Truthful s ms) (right : w'.Truthful s ms) :
    (provision s (p.attempt m) w).1 = (provision s (p.attempt m) w').1 ∧
      (provision s (p.attempt m) w).2.Truthful s ms := by
  unfold provision attempt
  cases decoded : ProviderConfig.require m.spec with
  | error e => exact ⟨rfl, left⟩
  | ok config =>
    simp only [run, answerQuery, each, Bool.false_eq_true, if_false]
    cases selected : requireBuiltin config.cloudProvider with
    | error e => exact ⟨rfl, left⟩
    | ok _ =>
      have named : config.cloudProvider = .fake :=
        inMemory _ (mem_of_requireBuiltin selected) ⟨config, decoded, rfl⟩
      -- The selected cloud is a new one in both runs; all that differs is what was before.
      have alike : Alike s ms { w with fake := {} } { w' with fake := {} } := ⟨.refl _, left, right⟩
      have quiet : ({ w with fake := {} } : Clouds).fake.failNext = false := rfl
      generalize ({ w with fake := {} } : Clouds) = v at alike quiet ⊢
      have quiet' : ({ w' with fake := {} } : Clouds).fake.failNext = false := rfl
      generalize ({ w' with fake := {} } : Clouds) = v' at alike quiet' ⊢
      rw [named]
      simp only [run, answerQuery_addDefaults]
      cases defaulted : Fake.addDefaults m.spec with
      | error e => exact ⟨rfl, alike.left⟩
      | ok spec =>
        -- One of the verdicts, or both, may come from a cache.
        have validated : Validated ms spec := ⟨m, member, ⟨config, decoded, named⟩, defaulted⟩
        obtain ⟨verdict, twins, truthful⟩ := validate_tells separates validated quiet alike.left
        obtain ⟨verdict', twins', truthful'⟩ :=
          validate_tells separates validated quiet' alike.right
        have after : Alike s ms (validate s .fake spec v).2 (validate s .fake spec v').2 :=
          ⟨(twins.symm.trans alike.twins).trans twins', truthful, truthful'⟩
        simp only [run, answerQuery, verdict, verdict']
        cases Fake.check s.resolver spec with
        | error e => exact ⟨rfl, truthful⟩
        | ok _ =>
          obtain ⟨same, alike⟩ := run_alike answerQuery_alike (ensureInstance_asks named) after
          exact ⟨same, alike.left⟩

theorem createMachine_alike (each : s.keepInstances = false)
    (separates : Digest.Separates (ms.filterMap Machine.validatedText?)) (member : m ∈ ms)
    (inMemory : m.IsLocal) (left : w.Truthful s ms) (right : w'.Truthful s ms) :
    (provision s (p.createMachine m) w).1 = (provision s (p.createMachine m) w').1 ∧
      (provision s (p.createMachine m) w).2.Truthful s ms := by
  obtain ⟨same, truthful⟩ := attempt_alike (p := p) each separates member inMemory left right
  unfold provision at same truthful ⊢
  simp only [createMachine, run_bind, run]
  exact ⟨congrArg ProvisionAttempt.report same, truthful⟩

/-- A batch of machines of the cloud in memory, or of clouds that are not built in, is reported on
in order as if each machine were alone, whatever the time, the time to live of the cache, and
whether there is one. -/
theorem batch_is_independent (each : s.keepInstances = false) (p : Provisioner) (ms : List Machine)
    (inMemory : ∀ m ∈ ms, m.IsLocal)
    (separates : Digest.Separates (ms.filterMap Machine.validatedText?))
    (fresh : w.IsFresh) (fresh' : w'.IsFresh) :
    (provision s (p.createMachines ms) w).1 =
      ms.map fun m => (provision s (p.createMachine m) w').1 := by
  -- The cache is truthful about the whole batch, so the induction is on what is left of it.
  have batch : ∀ rest : List Machine, (∀ m ∈ rest, m ∈ ms) → ∀ v : Clouds, v.Truthful s ms →
      (provision s (p.createMachines rest) v).1 =
        rest.map fun m => (provision s (p.createMachine m) w').1 := by
    intro rest within
    induction rest with
    | nil => exact fun _ _ => rfl
    | cons m rest ih =>
      intro v truthful
      have member : m ∈ ms := within m List.mem_cons_self
      obtain ⟨same, after⟩ := createMachine_alike (p := p) each separates member
        (inMemory m member) truthful (truthful_of_fresh fresh')
      have later := ih (fun m member => within m (List.mem_cons_of_mem _ member)) _ after
      rw [provision_cons]
      exact congrArg₂ List.cons same later
  exact batch ms (fun _ member => member) w (truthful_of_fresh fresh)

/-- Two machines with one provider section, and between them one without a section and one of a
cloud that is not built in. -/
def shared : List Machine :=
  [worker "worker-a" (some "uid-1"),
    { metadata := { name := some "lost" } },
    { metadata := { name := some "elsewhere" }
      spec := { provider := some (.obj
        [("cloudProvider", .str "aws"), ("operatingSystem", .str "ubuntu")]) } },
    worker "worker-b" (some "uid-2")]

/-- With a cache that is full after the first machine, and without any. -/
theorem shared_batch_is_independent :
    let s : CloudSettings := { keepInstances := false }
    let cached : Clouds := { cache := some { ttl := ValidationCache.defaultTtl } }
    (provision s (({} : Provisioner).createMachines shared) {}).1.map MachineReport.providerId? =
      [some "fake://fake-1", none, none, some "fake://fake-1"] ∧
    (provision s (({} : Provisioner).createMachines shared) cached).1 =
      shared.map fun m => (provision s (({} : Provisioner).createMachine m) {}).1 := by
  intro s cached
  refine ⟨by decide +kernel, batch_is_independent rfl {} shared ?_ ?_ ?_ ?_⟩
  · decide +kernel
  · have same : ∀ a ∈ shared.filterMap Machine.validatedText?,
        ∀ b ∈ shared.filterMap Machine.validatedText?, a = b := by decide +kernel
    exact fun a first b second _ => same a first b second
  · rintro c ⟨⟩
    rfl
  · rintro c ⟨⟩

end Clouds

end MachineFleet
