import MachineFleet.Proofs.Provision.Report

/-!
Which requests provisioning makes of a cloud. They come in one order, a failure is the last of
them, and the only failure that leads on is a first look-up that finds no instance: it leads to a
creation, but only once the script for the node has been made.
-/

namespace MachineFleet

/-- The request to a cloud that a question makes, if it makes one. -/
@[simp]
def ProvisionQuery.call? : ProvisionQuery → Option (CloudProvider × CloudCall)
  | .addDefaults c spec => some (c, .addDefaults spec)
  | .validate c spec => some (c, .validate spec)
  | .get c m => some (c, .get m)
  | .create c m script => some (c, .create m script)
  | .select _ => none
  | .pause => none

def CloudCall.isCreate : CloudCall → Bool
  | .create _ _ => true
  | _ => false

namespace ProvisionEvent

def calls (t : List ProvisionEvent) : List (CloudProvider × CloudCall) :=
  t.filterMap fun e => e.1.call?

@[simp]
def failure? : ProvisionEvent → Option CloudError
  | ⟨.select _, .error e⟩ => some e
  | ⟨.addDefaults _ _, .error e⟩ => some e
  | ⟨.validate _ _, .error e⟩ => some e
  | ⟨.get _ _, _, .error e⟩ => some e
  | ⟨.create _ _ _, _, .error e⟩ => some e
  | _ => none

@[simp]
def accepts : ProvisionEvent → Bool
  | ⟨.validate _ _, .ok _⟩ => true
  | _ => false

@[simp]
def lookup? : ProvisionEvent → Option (Except CloudError Instance)
  | ⟨.get _ _, _, r⟩ => some r
  | _ => none

def firstLookup (t : List ProvisionEvent) : Option (Except CloudError Instance) :=
  t.findSome? lookup?

@[simp] theorem calls_nil : calls [] = [] := rfl

@[simp] theorem calls_cons (e : ProvisionEvent) (t : List ProvisionEvent) :
    calls (e :: t) = e.1.call?.toList ++ calls t := by
  unfold calls
  rw [List.filterMap_cons]
  cases e.1.call? <;> rfl

@[simp] theorem firstLookup_nil : firstLookup [] = none := rfl

@[simp] theorem firstLookup_cons (e : ProvisionEvent) (t : List ProvisionEvent) :
    firstLookup (e :: t) = e.lookup?.or (firstLookup t) := by
  unfold firstLookup
  rw [List.findSome?_cons]
  cases e.lookup? <;> rfl

end ProvisionEvent

open ProvisionEvent

/-- The requests for a machine in the order in which they are made: defaults, validation, a
look-up, a creation if there is a script for it, and `n` more look-ups. -/
def callOrder (c : CloudProvider) (m : Machine) (spec : MachineSpec) (script : Option String)
    (n : Nat) : List (CloudProvider × CloudCall) :=
  [(c, .addDefaults m.spec), (c, .validate spec), (c, .get { m with spec })] ++
    script.toList.map (fun s => (c, .create { m with spec } s)) ++
    List.replicate n (c, .get { m with spec })

/-- Of the events `t`, which follow those in `earlier`, a failure is the last one, and the run
ends with it. The first look-up of all is excepted where it finds no instance. -/
def EndsOnFailure (earlier t : List ProvisionEvent)
    (result : Except ProvisionError ProvisionedInstance) : Prop :=
  ∀ before e after cause, t = before ++ e :: after → e.failure? = some cause →
    ¬ (firstLookup (earlier ++ before) = none ∧ e.lookup?.isSome = true ∧
      cause.classify = .notFound) →
    after = [] ∧ result = .error (.cloud cause)

namespace EndsOnFailure

variable {earlier t : List ProvisionEvent} {result : Except ProvisionError ProvisionedInstance}

theorem nil : EndsOnFailure earlier [] result := by
  intro before e after cause split
  cases before <;> cases split

theorem cons {x : ProvisionEvent} (sound : x.failure? = none)
    (rest : EndsOnFailure (earlier ++ [x]) t result) : EndsOnFailure earlier (x :: t) result := by
  intro before e after cause split failed unexcepted
  rcases List.cons_eq_append_iff.mp split with ⟨rfl, same⟩ | ⟨before', rfl, tail⟩
  · cases same
    rw [sound] at failed
    cases failed
  · exact rest before' e after cause tail failed (by simpa using unexcepted)

theorem last {x : ProvisionEvent} {cause : CloudError} (failed : x.failure? = some cause)
    (ends : result = .error (.cloud cause)) : EndsOnFailure earlier [x] result := by
  intro before e after cause' split failed' _
  rcases List.cons_eq_append_iff.mp split with ⟨rfl, same⟩ | ⟨before', rfl, tail⟩
  · cases same
    rw [failed] at failed'
    cases failed'
    exact ⟨rfl, ends⟩
  · cases before' <;> cases tail

theorem missing {x : ProvisionEvent} {cause : CloudError} (first : firstLookup earlier = none)
    (lookup : x.lookup?.isSome = true) (failed : x.failure? = some cause)
    (absent : cause.classify = .notFound)
    (rest : EndsOnFailure (earlier ++ [x]) t result) : EndsOnFailure earlier (x :: t) result := by
  intro before e after cause' split failed' unexcepted
  rcases List.cons_eq_append_iff.mp split with ⟨rfl, same⟩ | ⟨before', rfl, tail⟩
  · cases same
    rw [failed] at failed'
    cases failed'
    exact absurd ⟨by simpa using first, lookup, absent⟩ unexcepted
  · exact rest before' e after cause' tail failed' (by simpa using unexcepted)

end EndsOnFailure

/-- The look-ups of a poll are as many as are left at most, and a failure is the last of them. -/
theorem polls_calls {c : CloudProvider} {m : Machine} {created : Bool} {attempts n : Nat}
    {saved : Option Machine} {i : Instance} {t : List ProvisionEvent} {a : ProvisionAttempt}
    (h : Polls c m created attempts n saved i t a) (earlier : List ProvisionEvent) :
    (∃ k, k ≤ n ∧ calls t = List.replicate k (c, .get m)) ∧ EndsOnFailure earlier t a.result := by
  induction h generalizing earlier with
  | ready _ => exact ⟨⟨0, Nat.zero_le _, rfl⟩, .nil⟩
  | exhausted _ => exact ⟨⟨0, Nat.zero_le _, rfl⟩, .nil⟩
  | lost _ => exact ⟨⟨1, by omega, rfl⟩, .cons rfl (.last rfl rfl)⟩
  | again _ _ ih =>
    obtain ⟨⟨k, bound, eq⟩, ends⟩ := ih (earlier ++ [pause] ++ [get c m _ (.ok _)])
    refine ⟨⟨k + 1, by omega, ?_⟩, .cons rfl (.cons rfl ends)⟩
    simp [eq, List.replicate_succ]

/-- Polling fails for want of addresses or of an answer, never for want of a script. -/
theorem polls_result {c : CloudProvider} {m : Machine} {created : Bool} {attempts n : Nat}
    {saved : Option Machine} {i : Instance} {t : List ProvisionEvent} {a : ProvisionAttempt}
    (h : Polls c m created attempts n saved i t a) :
    (∀ x, a.result ≠ .error (.runtime x)) ∧ (∀ j, a.result = .ok j → j.created = created) ∧
      (i.addresses.isEmpty = false → a.result = .ok (i.provisioned created)) := by
  induction h with
  | ready _ =>
    refine ⟨nofun, fun j hj => ?_, fun _ => rfl⟩
    cases hj
    rfl
  | exhausted bare => exact ⟨nofun, nofun, fun addressed => by simp [bare] at addressed⟩
  | lost bare => exact ⟨nofun, nofun, fun addressed => by simp [bare] at addressed⟩
  | again bare _ ih => exact ⟨ih.1, ih.2.1, fun addressed => by simp [bare] at addressed⟩

/-- The first look-up found that there is no instance. -/
def FoundNone (t : List ProvisionEvent) : Prop :=
  ∃ e, firstLookup t = some (.error e) ∧ e.classify = .notFound

/-- What follows from the first look-up of a valid machine: a creation exactly when there is no
instance and there is a script, and otherwise the instance that was found or a failure. -/
structure FollowsLookup (p : Provisioner) (config : ProviderConfig) (m : Machine)
    (t : List ProvisionEvent) (result : Except ProvisionError ProvisionedInstance) : Prop where
  calls : ∃ script n, n ≤ p.attempts ∧
    calls t = (config.cloudProvider, .get m) ::
      (script.toList.map (fun s => (config.cloudProvider, .create m s)) ++
        List.replicate n (config.cloudProvider, .get m)) ∧
    ∀ s, script = some s ↔ FoundNone t ∧ p.userdata config.operatingSystem m = .ok s
  unscripted : ∀ x, FoundNone t → p.userdata config.operatingSystem m = .error x →
    result = .error (.runtime x)
  reuse : ∀ i, firstLookup t = some (.ok i) →
    (∀ x, result ≠ .error (.runtime x)) ∧ (∀ j, result = .ok j → j.created = false) ∧
      (i.addresses.isEmpty = false → result = .ok (i.provisioned false))

theorem ensures_follows {p : Provisioner} {config : ProviderConfig} {m : Machine}
    {t : List ProvisionEvent} {a : ProvisionAttempt} (h : Ensures p config m t a) :
    FollowsLookup p config m t a.result := by
  cases h with
  | found h =>
    obtain ⟨⟨k, bound, eq⟩, _⟩ := polls_calls h []
    refine ⟨⟨none, k, bound, by simp [eq], fun s => ?_⟩, fun x missing => ?_, fun i first => ?_⟩
    · simp [FoundNone]
    · simp [FoundNone] at missing
    · have same := Except.ok.inj (Option.some.inj first)
      exact same ▸ polls_result h
  | unreadable other =>
    refine ⟨⟨none, 0, Nat.zero_le _, rfl, fun s => ?_⟩, fun x missing => ?_, fun i first => ?_⟩
    · simp [FoundNone, other]
    · simp [FoundNone, other] at missing
    · simp at first
  | unscripted absent failed =>
    refine ⟨⟨none, 0, Nat.zero_le _, rfl, fun s => ?_⟩, fun x _ hx => ?_, fun i first => ?_⟩
    · simp [failed]
    · rw [failed] at hx
      cases hx
      rfl
    · simp at first
  | @uncreated s s' e e' script absent scripted =>
    refine ⟨⟨some script, 0, Nat.zero_le _, rfl, fun s => ?_⟩, fun x _ hx => ?_, fun i first => ?_⟩
    · simp [FoundNone, absent, scripted]
    · simp [scripted] at hx
    · simp at first
  | @created s s' e script i t a absent scripted h =>
    obtain ⟨⟨k, bound, eq⟩, _⟩ := polls_calls h []
    refine ⟨⟨some script, k, bound, by simp [eq], fun s => ?_⟩, fun x _ hx => ?_, fun i first => ?_⟩
    · simp [FoundNone, absent, scripted]
    · simp [scripted] at hx
    · simp at first

theorem ensures_ends {p : Provisioner} {config : ProviderConfig} {m : Machine}
    {t : List ProvisionEvent} {a : ProvisionAttempt} (h : Ensures p config m t a)
    (earlier : List ProvisionEvent) (first : firstLookup earlier = none) :
    EndsOnFailure earlier t a.result := by
  cases h with
  | found h => exact .cons rfl (polls_calls h _).2
  | unreadable _ => exact .last rfl rfl
  | unscripted absent _ => exact .missing first rfl rfl absent .nil
  | uncreated absent _ => exact .missing first rfl rfl absent (.last rfl rfl)
  | created absent _ h => exact .missing first rfl rfl absent (.cons rfl (polls_calls h _).2)

theorem userdata_eq_ok_iff {p : Provisioner} {os : OperatingSystem} {m : Machine}
    {script : String} :
    p.userdata os m = .ok script ↔ ∃ engine, p.runtime.engine m.spec.kubelet = .ok engine ∧
      Userdata.build engine os p.extraUserdata = .ok script := by
  unfold Provisioner.userdata
  cases engine : p.runtime.engine m.spec.kubelet with
  | error x => simp [bind, Except.bind]
  | ok e => simp [bind, Except.bind]

theorem engine_of_bad_kubelet {c : RuntimeConfig} {v : String} {x : RuntimeError}
    (h : readKubeletVersion v = .error x) : c.engine v = .error x := by
  simp [RuntimeConfig.engine, h, bind, Except.bind]

theorem build_of_unsupported (e : Engine) (name : String) (extra : Option String) :
    Userdata.build e (.other name) extra = .error (.unknownOperatingSystem name) := by
  cases e <;> rfl

theorem no_script {p : Provisioner} {os : OperatingSystem} {m : Machine}
    (h : (∃ x, readKubeletVersion m.spec.kubelet = .error x) ∨ os.isSupported = false)
    (script : String) : p.userdata os m ≠ .ok script := by
  rw [Ne, userdata_eq_ok_iff]
  rintro ⟨engine, selected, built⟩
  rcases h with ⟨x, bad⟩ | unsupported
  · rw [engine_of_bad_kubelet bad] at selected
    cases selected
  · cases os with
    | other name =>
      rw [build_of_unsupported] at built
      cases built
    | _ => cases unsupported

/-- The requests and the outcome of a machine whose envelope can be read. `spec` is the
specification with the defaults of the cloud. -/
structure OrderlyRequests (p : Provisioner) (config : ProviderConfig) (m : Machine)
    (spec : MachineSpec) (t : List ProvisionEvent)
    (result : Except ProvisionError ProvisionedInstance) : Prop where
  defaults : ∀ e ∈ t, ∀ s, e.defaults? = some s → s = spec
  order : ∃ script n, n ≤ p.attempts ∧
    calls t <+: callOrder config.cloudProvider m spec script n
  once : (calls t).countP (fun c => c.2.isCreate) ≤ 1
  create : ∀ script, (config.cloudProvider, .create { m with spec } script) ∈ calls t ↔
    t.any accepts = true ∧ FoundNone t ∧
      ∃ engine, p.runtime.engine spec.kubelet = .ok engine ∧
        Userdata.build engine config.operatingSystem p.extraUserdata = .ok script
  failure : EndsOnFailure [] t result
  unscripted : ∀ x, FoundNone t →
    p.userdata config.operatingSystem { m with spec } = .error x → result = .error (.runtime x)
  unusable : (∃ x, readKubeletVersion spec.kubelet = .error x) ∨
      config.operatingSystem.isSupported = false →
    ∀ c ∈ calls t, c.2.isCreate = false
  reuse : ∀ i, firstLookup t = some (.ok i) →
    (∀ x, result ≠ .error (.runtime x)) ∧ (∀ j, result = .ok j → j.created = false) ∧
      (i.addresses.isEmpty = false → result = .ok (i.provisioned false))

theorem countP_callOrder_le (c : CloudProvider) (m : Machine) (spec : MachineSpec)
    (script : Option String) (n : Nat) :
    (callOrder c m spec script n).countP (fun c => c.2.isCreate) ≤ 1 := by
  cases script <;> simp [callOrder, List.countP_replicate, CloudCall.isCreate]

theorem orderly_of_early {p : Provisioner} {config : ProviderConfig} {m : Machine}
    {spec : MachineSpec} {t : List ProvisionEvent}
    {result : Except ProvisionError ProvisionedInstance}
    (defaults : ∀ e ∈ t, ∀ s, e.defaults? = some s → s = spec)
    (calls : calls t <+:
      [(config.cloudProvider, .addDefaults m.spec), (config.cloudProvider, .validate spec)])
    (unlooked : firstLookup t = none) (failure : EndsOnFailure [] t result) :
    OrderlyRequests p config m spec t result := by
  have uncreated : ∀ c ∈ ProvisionEvent.calls t, c.2.isCreate = false := fun c hc => by
    have hc := calls.subset hc
    simp only [List.mem_cons, List.not_mem_nil, or_false] at hc
    rcases hc with rfl | rfl <;> rfl
  refine ⟨defaults, ⟨none, 0, Nat.zero_le _, calls.trans ?_⟩, ?_, fun script => ?_,
    failure, fun x missing => ?_, fun _ => uncreated, fun i first => ?_⟩
  · exact ⟨[(config.cloudProvider, .get { m with spec })], rfl⟩
  · rw [List.countP_eq_zero.mpr fun c hc => by simp [uncreated c hc]]
    exact Nat.zero_le 1
  · constructor
    · intro h
      exact absurd (uncreated _ h) (by simp [CloudCall.isCreate])
    · rintro ⟨_, ⟨e, first, _⟩, _⟩
      simp [unlooked] at first
  · obtain ⟨e, first, _⟩ := missing
    simp [unlooked] at first
  · simp [unlooked] at first

theorem orderly_of_valid {p : Provisioner} {config : ProviderConfig} {m : Machine}
    {spec : MachineSpec} {t : List ProvisionEvent} {a : ProvisionAttempt}
    (h : Ensures p config { m with spec } t a) :
    OrderlyRequests p config m spec
      (select config.cloudProvider (.ok ()) ::
        addDefaults config.cloudProvider m.spec (.ok spec) ::
        validate config.cloudProvider spec (.ok ()) :: t) a.result := by
  obtain ⟨⟨script, n, bound, eq, made⟩, unscripted, reuse⟩ := ensures_follows h
  have ends := ensures_ends h [select config.cloudProvider (.ok ()),
    addDefaults config.cloudProvider m.spec (.ok spec),
    validate config.cloudProvider spec (.ok ())] rfl
  have order : calls (select config.cloudProvider (.ok ()) ::
      addDefaults config.cloudProvider m.spec (.ok spec) ::
      validate config.cloudProvider spec (.ok ()) :: t) =
        callOrder config.cloudProvider m spec script n := by
    simp [eq, callOrder]
  have created : ∀ s, (config.cloudProvider, CloudCall.create { m with spec } s) ∈
      callOrder config.cloudProvider m spec script n ↔ script = some s := fun s => by
    simp [callOrder, List.mem_replicate, eq_comm]
  refine ⟨fun e he s hs => ?_, ⟨script, n, bound, order ▸ List.prefix_rfl⟩, ?_, fun s => ?_,
    .cons rfl (.cons rfl (.cons rfl ends)), unscripted, fun unusable c hc => ?_, reuse⟩
  · simp only [List.mem_cons] at he
    rcases he with rfl | rfl | rfl | he
    · cases hs
    · exact (Option.some.inj hs).symm
    · cases hs
    · have none := (ensures_accounts h).2.2.1
      simp only [last, List.findSome?_eq_none_iff, List.mem_reverse] at none
      rw [none e he] at hs
      cases hs
  · rw [order]
    exact countP_callOrder_le _ _ _ _ _
  · rw [order, created, made, userdata_eq_ok_iff]
    simp [FoundNone]
  · have none : script = none := by
      cases script with
      | none => rfl
      | some s =>
        have scripted := ((made s).mp rfl).2
        exact absurd scripted (no_script (m := { m with spec }) unusable s)
    rw [order, none] at hc
    simp only [callOrder, Option.toList_none, List.map_nil, List.append_nil, List.mem_append,
      List.mem_cons, List.not_mem_nil, or_false, List.mem_replicate] at hc
    rcases hc with (rfl | rfl | rfl) | ⟨_, rfl⟩ <;> rfl

/-- Whatever the clouds answer, a machine whose envelope cannot be read leads to no question, and
any other to requests in order. -/
theorem createMachine_requests {σ : Type} (answer : (q : ProvisionQuery) → σ → q.Answer × σ)
    (s : σ) (p : Provisioner) (m : Machine) :
    match ProviderConfig.require m.spec with
    | .error e => (p.createMachine m).transcript answer s = [] ∧
        ((p.createMachine m).run answer s).1.result = .error (.cloud e)
    | .ok config => ∃ spec, OrderlyRequests p config m spec
        ((p.createMachine m).transcript answer s)
        ((p.createMachine m).run answer s).1.result := by
  obtain ⟨a, course, report⟩ := Provisioner.createMachine_course answer p m s
  rw [report, ProvisionAttempt.report_result]
  generalize (p.createMachine m).transcript answer s = t at course
  cases course with
  | undecoded h =>
    rw [h]
    exact ⟨rfl, rfl⟩
  | @unselected config e h =>
    rw [h]
    exact ⟨m.spec, orderly_of_early (by simp) (by simp) rfl (.last rfl rfl)⟩
  | @undefaulted config e h =>
    rw [h]
    exact ⟨m.spec, orderly_of_early (by simp) (by simp) rfl (.cons rfl (.last rfl rfl))⟩
  | @invalid config spec e h =>
    rw [h]
    refine ⟨spec, orderly_of_early ?_ (by simp) rfl (.cons rfl (.cons rfl (.last rfl rfl)))⟩
    simp [eq_comm]
  | @valid config spec t a h ensures =>
    rw [h]
    exact ⟨spec, orderly_of_valid ensures⟩

end MachineFleet
