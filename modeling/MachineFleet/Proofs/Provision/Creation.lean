import MachineFleet.Proofs.Http.Origin
import MachineFleet.Proofs.Provision.Round
import MachineFleet.Proofs.Provision.Waiting

/-!
What a report tells of where its instance comes from. The flag for a creation says that the first
look-up found no instance. On a cloud in memory that is the same as that this run made it. On a
cloud with an API there are two look-ups, and the one of the creation may find what the first one
has missed: then the flag is set although no record was made.
-/

namespace MachineFleet

open Program

/-- What a report tells of the creation of a server in memory, by the servers before and after. -/
structure Fake.TellsCreation (before after : State) (uid : String) (i : ProvisionedInstance) :
    Prop where
  flag : i.created = true ↔ before.servers.get? uid = none
  made : before.servers.get? uid = none → ∃ a, a.ordinal = before.lastOrdinal + 1 ∧
    after.Adds before.servers uid a ∧ i.providerId = a.snapshot.providerId
  kept : ∀ a, before.servers.get? uid = some a → ∃ n, after.Adds before.servers uid (a.seen n) ∧
    i.providerId = a.snapshot.providerId

/-- What comes back for a request. -/
def Network.answer (q : Http.Request) : Network → Http.Reply × Network
  | .peer p => ((p.answer q).1, .peer (p.answer q).2)
  | .unreachable => (.dropped, .unreachable)

theorem Network.run_eq {α : Type} (x : Http.Exchange α) (n : Network) :
    n.run x = x.run Network.answer n := by
  induction x generalizing n with
  | done a => cases n <;> rfl
  | ask q next ih =>
    cases n with
    | peer p => exact ih _ (.peer (p.answer q).2)
    | unreachable => exact ih _ .unreachable

namespace Clouds

open Provisioner ProvisionEvent

variable {s : CloudSettings} {p : Provisioner} {m : Machine} {w w' : Clouds} {cloud : CloudProvider}
  {S : Http.Service} {fill : MachineSpec → Except CloudError MachineSpec} {t : List ProvisionEvent}
  {a : ProvisionAttempt} {i : ProvisionedInstance}

/-- The cloud is one with this API, and its defaults are filled in without a request. -/
structure Backs (s : CloudSettings) (cloud : CloudProvider) (S : Http.Service)
    (fill : MachineSpec → Except CloudError MachineSpec) : Prop where
  answers : ∀ call w, direct s cloud call w =
    ((w.network.run (S.answer s.resolver call)).1,
      { w with network := (w.network.run (S.answer s.resolver call)).2 })
  courses : ∀ {call : CloudCall} {t : List Http.Event} {a : call.Answer},
    Yields (S.answer s.resolver call) t a → S.Course s.resolver call t a
  validates : ∀ {spec : MachineSpec} {t : List Http.Event} {a : Except CloudError Unit},
    Yields (S.answer s.resolver (.validate spec)) t a → ∀ e ∈ t, S.LooksUp e.1
  fills : ∀ spec w, answer s cloud (.addDefaults spec) w = (fill spec, w)

/-- The requests that have been made since, with their replies. -/
abbrev Exchanged (w : Clouds) (t : List Http.Event) (w' : Clouds) : Prop :=
  Traces Network.answer w.network t w'.network

theorem Backs.exchanged (backs : Backs s cloud S fill) (call : CloudCall) (w : Clouds) :
    ∃ t, Exchanged w t (direct s cloud call w).2 ∧
      Yields (S.answer s.resolver call) t (direct s cloud call w).1 := by
  rw [backs.answers, Network.run_eq]
  exact ⟨_, traces_run _ _, yields_run _ _ _⟩

theorem Backs.get (backs : Backs s cloud S fill) (w : Clouds) :
    ∃ t, Exchanged w t (answerQuery s (.get cloud m) w).2 ∧
      S.Course s.resolver (.get m) t (answerQuery s (.get cloud m) w).1.2 := by
  obtain ⟨t, exchanged, yields⟩ := backs.exchanged (.get m) w
  exact ⟨t, exchanged, backs.courses yields⟩

theorem Backs.create (backs : Backs s cloud S fill) (script : String) (w : Clouds) :
    ∃ t, Exchanged w t (answerQuery s (.create cloud m script) w).2 ∧
      S.Course s.resolver (.create m script) t (answerQuery s (.create cloud m script) w).1.2 := by
  obtain ⟨t, exchanged, yields⟩ := backs.exchanged (.create m script) w
  exact ⟨t, exchanged, backs.courses yields⟩

theorem Backs.validate (backs : Backs s cloud S fill) (spec : MachineSpec) (w : Clouds) :
    ∃ t, (∀ e ∈ t, S.LooksUp e.1) ∧ Exchanged w t (validate s cloud spec w).2 := by
  refine validate_keeps (fun after => ∃ t, (∀ e ∈ t, S.LooksUp e.1) ∧ Exchanged w t after)
    (fun _ _ => id) ⟨[], nofun, .nil _⟩ ?_
  obtain ⟨t, exchanged, yields⟩ := backs.exchanged (.validate spec) w
  exact ⟨t, backs.validates yields, exchanged⟩

/-- Each look-up of waiting that ends in a success sees a record. -/
theorem Backs.polls (backs : Backs s cloud S fill) {created : Bool} {attempts n : Nat}
    {saved : Option Machine} {x : Instance} (h : Polls cloud m created attempts n saved x t a)
    (ok : a.result = .ok i) (traces : Traces (answerQuery s) w t w') :
    i.created = created ∧
      ∃ u, (∀ e ∈ u, S.Sees s.resolver m e) ∧ Exchanged w u w' := by
  induction h generalizing w with
  | ready _ =>
    cases ok
    cases traces_nil traces
    exact ⟨rfl, [], nofun, .nil _⟩
  | exhausted _ => cases ok
  | lost _ => cases ok
  | again _ _ ih =>
    obtain ⟨-, traces⟩ := traces_cons traces
    obtain ⟨told, traces⟩ := traces_cons traces
    obtain ⟨flag, u, sees, later⟩ := ih ok traces
    obtain ⟨v, exchanged, course⟩ :=
      backs.get (m := m) (answerQuery s .pause w).2
    rw [told] at course
    obtain ⟨e, rfl, seen⟩ := course.sees
    exact ⟨flag, e :: u, List.forall_mem_cons.mpr ⟨seen, sees⟩, exchanged.append later⟩

theorem Backs.origin (backs : Backs s cloud S fill) {config : ProviderConfig}
    (h : Ensures p config m t a) (named : config.cloudProvider = cloud) (ok : a.result = .ok i)
    (traces : Traces (answerQuery s) w t w') {checks : List Http.Event}
    (looks : ∀ q ∈ checks, S.LooksUp q.1) :
    ∃ u, Exchanged w u w' ∧ S.Origin s.resolver m (checks ++ u) i.created := by
  subst named
  cases h with
  | unreadable _ => cases ok
  | unscripted _ _ => cases ok
  | uncreated _ _ => cases ok
  | found polls =>
    obtain ⟨told, traces⟩ := traces_cons traces
    obtain ⟨u, exchanged, course⟩ := backs.get (m := m) w
    rw [told] at course
    obtain ⟨e, rfl, seen⟩ := course.sees
    obtain ⟨flag, v, sees, later⟩ := backs.polls polls ok traces
    rw [flag]
    exact ⟨_, exchanged.append later, .found looks seen sees⟩
  | created missing scripted polls =>
    obtain ⟨told, traces⟩ := traces_cons traces
    obtain ⟨u, exchanged, course⟩ := backs.get (m := m) w
    rw [told] at course
    obtain ⟨e, rfl, missed⟩ := course.misses missing
    obtain ⟨told, traces⟩ := traces_cons traces
    obtain ⟨v, created, course⟩ :=
      backs.create (m := m) _ (answerQuery s (.get config.cloudProvider m) w).2
    rw [told] at course
    obtain ⟨flag, z, sees, later⟩ := backs.polls polls ok traces
    rw [flag]
    refine ⟨e :: (v ++ z), exchanged.append (created.append later), ?_⟩
    rcases course.creates with ⟨e', rfl, seen⟩ | posts
    · exact .overlooked looks missed seen sees
    · exact .made looks missed posts sees

/-- An attempt that succeeds has filled in the defaults and validated them before it looks for the
instance. -/
theorem attempt_of_ok (ok : (provision s (p.attempt m) w).1.result = .ok i) :
    ∃ c spec w' w'', ProviderConfig.require m.spec = .ok c ∧
      answer s c.cloudProvider (.addDefaults m.spec) (selected s w) = (.ok spec, w') ∧
      validate s c.cloudProvider spec w' = (.ok (), w'') ∧
      provision s (p.attempt m) w = provision s (p.ensureInstance c { m with spec }) w'' := by
  have course := course_of_yields (yields_run (answerQuery s) (p.attempt m) w)
  have traces : Traces (answerQuery s) w _ _ := traces_run (p.attempt m) w
  change ((p.attempt m).run (answerQuery s) w).1.result = .ok i at ok
  generalize (p.attempt m).transcript (answerQuery s) w = t at course traces
  generalize ((p.attempt m).run (answerQuery s) w).1 = a at course ok
  cases course with
  | undecoded _ => cases ok
  | unselected _ => cases ok
  | undefaulted _ => cases ok
  | invalid _ => cases ok
  | valid decoded _ =>
    obtain ⟨builtin, traces⟩ := traces_cons traces
    obtain ⟨filled, traces⟩ := traces_cons traces
    obtain ⟨valid, -⟩ := traces_cons traces
    have filled := Prod.ext (y := (_, _)) filled rfl
    have valid := Prod.ext (y := (_, _)) valid rfl
    exact ⟨_, _, _, _, decoded, filled, valid, attempt_eq decoded builtin filled valid⟩

theorem tells_of_backs (backs : Backs s cloud S fill) (inCloud : m.IsIn cloud)
    (ok : (provision s (p.attempt m) w).1.result = .ok i) :
    ∃ spec t, fill m.spec = .ok spec ∧ Exchanged w t (provision s (p.attempt m) w).2 ∧
      S.TellsCreation s.resolver { m with spec } t i.created := by
  obtain ⟨c, spec, w', w'', decoded, filled, valid, same⟩ := attempt_of_ok ok
  obtain ⟨c', decoded', rfl⟩ := inCloud
  cases decoded.symm.trans decoded'
  rw [backs.fills] at filled
  obtain ⟨defaulted, rfl⟩ := Prod.mk.inj filled
  obtain ⟨checks, looks, checked⟩ := backs.validate spec (selected s w)
  rw [valid] at checked
  rw [same] at ok ⊢
  have ensures := ensures_of_yields
    (yields_run (answerQuery s) (p.ensureInstance c { m with spec }) w'')
  obtain ⟨u, exchanged, origin⟩ := backs.origin ensures rfl ok (traces_run _ _) looks
  have start : (selected s w).network = w.network := by
    unfold selected
    split <;> rfl
  unfold Exchanged at checked
  rw [start] at checked
  exact ⟨spec, checks ++ u, defaulted, checked.append exchanged, origin.tells⟩

theorem create_of_ok {c : ProviderConfig} (named : c.cloudProvider = .fake)
    (absent : w.fake.servers.get? m.uid = none) {saved : Option Machine}
    (ok : (provision s (p.createInstance c m saved) w).1.result = .ok i) :
    ∃ k n, let a := Fake.Server.next m k w.fake
      i = a.provisioned true ∧
        (provision s (p.createInstance c m saved) w).2.fake.Adds w.fake.servers m.uid
          (a.seen n) := by
  cases scripted : p.userdata c.operatingSystem m with
  | error e =>
    unfold provision createInstance at ok
    rw [scripted] at ok
    cases ok
  | ok script =>
    rcases Fake.create_cases (saveMachine s) w.saved m w.fake with ⟨e, failed⟩ | ⟨k, placed⟩
    · have uncreated : (answerQuery s (.create .fake m script) w).1.2 = .error e :=
        congrArg Prod.fst failed
      unfold provision createInstance at ok
      rw [named, scripted] at ok
      simp only [Program.run] at ok
      rcases told : (answerQuery s (.create .fake m script) w).1 with ⟨saved', sight⟩
      rw [told] at ok uncreated
      cases uncreated
      cases ok
    · obtain ⟨result, n, -, adds⟩ := create_placed scripted named absent placed saved
      exact ⟨k, n, Fake.Server.eq_of_outcome (result.symm.trans ok), adds⟩

theorem tells_of_fake (inMemory : m.IsIn .fake)
    (ok : (provision s (p.attempt m) w).1.result = .ok i) :
    Fake.TellsCreation (selected s w).fake (provision s (p.attempt m) w).2.fake m.uid i := by
  obtain ⟨c, spec, w', w'', decoded, filled, valid, same⟩ := attempt_of_ok ok
  obtain ⟨c', decoded', named⟩ := inMemory
  cases decoded.symm.trans decoded'
  rw [named] at filled valid
  obtain rfl : selected s w = w' := congrArg Prod.snd filled
  have unchanged : w''.fake.servers = (selected s w).fake.servers ∧
      w''.fake.lastOrdinal = (selected s w).fake.lastOrdinal := by
    let Kept (after : Clouds) : Prop := after.fake.servers = (selected s w).fake.servers ∧
      after.fake.lastOrdinal = (selected s w).fake.lastOrdinal
    have kept : Kept (validate s .fake spec (selected s w)).2 := by
      apply validate_keeps Kept (fun _ _ => id) ⟨rfl, rfl⟩
      show Kept { selected s w with
        fake := (Fake.validate s.resolver spec (selected s w).fake).2 }
      unfold Fake.validate
      split <;> exact ⟨rfl, rfl⟩
    rw [valid] at kept
    exact kept
  obtain ⟨servers, last⟩ := unchanged
  rw [same] at ok ⊢
  cases held : (selected s w).fake.servers.get? m.uid with
  | none =>
    have absent : w''.fake.servers.get? m.uid = none := by rw [servers, held]
    rw [ensure_absent (m := { m with spec }) named absent] at ok ⊢
    obtain ⟨k, n, rfl, adds⟩ := create_of_ok (m := { m with spec }) named absent ok
    rw [servers] at adds
    refine ⟨⟨fun _ => held, fun _ => rfl⟩, fun _ => ⟨_, ?_, adds, rfl⟩, ?_⟩
    · exact congrArg (· + 1) last
    · intro a present
      cases held.symm.trans present
  | some a =>
    have adds : w''.fake.Adds (selected s w).fake.servers m.uid (a.seen a.polls) := by
      intro uid
      rw [servers]
      split
      · rename_i own
        rw [own, held]
        rfl
      · rfl
    obtain ⟨result, n, -, -, after⟩ :=
      ensure_found (s := s) (p := p) (m := { m with spec }) named adds
    obtain rfl := Fake.Server.eq_of_outcome (result.symm.trans ok)
    have taken : (selected s w).fake.servers.get? m.uid ≠ none := by simp [held]
    refine ⟨⟨nofun, fun absent => absurd absent taken⟩, fun absent => absurd absent taken, ?_⟩
    intro b present
    cases held.symm.trans present
    exact ⟨n, after, rfl⟩

theorem hetzner_backs (s : CloudSettings) :
    Backs s .hetzner (Hetzner.service s.hetznerBase) Hetzner.addDefaults where
  answers _ _ := rfl
  courses := Hetzner.course_of_yields
  validates yields := (Hetzner.validate_looks _ _ _ _ yields).requests
  fills spec w := by
    rw [answer_hetzner, ← addDefaults_hetzner]

theorem vultr_backs (s : CloudSettings) :
    Backs s .vultr (Vultr.service s.vultrBase) .ok where
  answers _ _ := rfl
  courses := Vultr.course_of_yields
  validates yields := (Vultr.validate_looks _ _ _ _ yields).requests
  fills := answer_vultr

/-- A report on an instance tells that it was created if the first look-up found none. In memory
this is to say that the run made the server. On Hetzner and on Vultr, whatever the API replies, it
is to say that a record was made, by the only request for one, or that the search of the creation
found a record which the first search had missed. -/
theorem creation_is_told (s : CloudSettings) (w : Clouds) (p : Provisioner) (m : Machine)
    (ok : (provision s (p.createMachine m) w).1.result = .ok i) :
    let after := (provision s (p.createMachine m) w).2
    (m.IsIn .fake → Fake.TellsCreation (selected s w).fake after.fake m.uid i) ∧
    (m.IsIn .hetzner → ∃ spec t, Hetzner.addDefaults m.spec = .ok spec ∧ Exchanged w t after ∧
      (Hetzner.service s.hetznerBase).TellsCreation s.resolver { m with spec } t i.created) ∧
    (m.IsIn .vultr → ∃ t, Exchanged w t after ∧
      (Vultr.service s.vultrBase).TellsCreation s.resolver m t i.created) := by
  rw [createMachine_eq] at ok ⊢
  rw [ProvisionAttempt.report_result] at ok
  refine ⟨fun inMemory => tells_of_fake inMemory ok,
    fun inCloud => tells_of_backs (hetzner_backs s) inCloud ok, fun inCloud => ?_⟩
  obtain ⟨spec, t, same, exchanged, tells⟩ := tells_of_backs (vultr_backs s) inCloud ok
  cases same
  exact ⟨t, exchanged, tells⟩

def leased : Machine where
  metadata := { name := some "worker-1", uid := some "uid-1" }
  spec :=
    { kubelet := "1.30.2"
      provider := some (.obj
        [("cloudProvider", .str "hetzner"), ("operatingSystem", .str "ubuntu"),
          ("cloudProviderSpec", .obj [("token", .str "key"), ("serverType", .str "cx22")])]) }

/-- What is replied to the validation and to the first look-up, and then this. -/
def leasing (replies : List Http.Reply) : Clouds where
  network := .peer
    { replies :=
        [.response 200 "\x7b\"locations\":[\x7b\"id\":1,\"name\":\"fsn1\"\x7d]\x7d",
          .response 200 "\x7b\"server_types\":[\x7b\"id\":1,\"name\":\"cx22\"\x7d]\x7d",
          .response 200 "\x7b\"images\":[\x7b\"id\":1,\"name\":\"ubuntu-24.04\"\x7d]\x7d",
          .response 200 "\x7b\"servers\":[]\x7d"] ++ replies }

/-- A server with an address, as a part of a reply. -/
def serverText : String := "\x7b\"id\":41,\"name\":\"worker-1\",\"status\":\"running\",
  \"public_net\":\x7b\"ipv4\":\x7b\"ip\":\"203.0.113.7\"\x7d\x7d\x7d"

/-- The second search lists none as well, and then the server is made. -/
def making : Clouds := leasing
  [.response 200 "\x7b\"servers\":[]\x7d",
    .response 201 ("\x7b\"server\":" ++ serverText ++ "\x7d")]

/-- The second search lists the server. -/
def overlooking : Clouds := leasing
  [.response 200 ("\x7b\"servers\":[" ++ serverText ++ "]\x7d")]

/-- The methods of the requests that have been made, in order. -/
def methods (w : Clouds) : List Http.Method :=
  match w.network with
  | .peer p => (p.requests.map Http.Request.method).reverse
  | .unreachable => []

theorem made_server_is_told :
    let done := provision {} (({} : Provisioner).createMachine leased) making
    methods done.2 = [.get, .get, .get, .get, .get, .post] ∧
    ∃ i, done.1.result = .ok i ∧ i.created = true ∧ ∃ spec t,
      Hetzner.addDefaults leased.spec = .ok spec ∧ Exchanged making t done.2 ∧
      (Hetzner.service ({} : CloudSettings).hetznerBase).TellsCreation {} { leased with spec } t
        i.created := by
  have run :
      let done := provision {} (({} : Provisioner).createMachine leased) making
      methods done.2 = [.get, .get, .get, .get, .get, .post] ∧
        done.1.result.toOption.map ProvisionedInstance.created = some true := by decide +kernel
  obtain ⟨asked, told⟩ := run
  obtain ⟨i, some, created⟩ := Option.map_eq_some_iff.mp told
  have ok := toOption_eq_some_iff.mp some
  have inCloud : leased.IsIn .hetzner := ⟨_, rfl, rfl⟩
  exact ⟨asked, i, ok, created,
    (creation_is_told {} making {} leased ok).2.1 inCloud⟩

/-- No server is made, and the one that there was before is reported as created. -/
theorem overlooked_server_is_told_created :
    let done := provision {} (({} : Provisioner).createMachine leased) overlooking
    methods done.2 = [.get, .get, .get, .get, .get] ∧
    (done.1.result.toOption.map fun i => (i.providerId, i.created)) =
      some ("hcloud://41", true) := by
  decide +kernel

end Clouds

end MachineFleet
