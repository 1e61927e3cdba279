import MachineFleet.Proofs.Provision.Report

/-!
Which instances provisioning a machine gets to see. All are sought for that machine in the cloud
that its envelope names, and all but the last have no addresses.
-/

namespace MachineFleet

/-- The envelope of the machine can be read and names the cloud. -/
def Machine.IsIn (m : Machine) (cloud : CloudProvider) : Prop :=
  ∃ config, ProviderConfig.require m.spec = .ok config ∧ config.cloudProvider = cloud

namespace ProvisionEvent

/-- The event shows an instance of the machine in the cloud. -/
inductive Shows (c : CloudProvider) (m : Machine) (i : Instance) : ProvisionEvent → Prop where
  | got (saved : Option Machine) : Shows c m i (get c m saved (.ok i))
  | made (script : String) (saved : Option Machine) :
      Shows c m i (create c m script saved (.ok i))

/-- The instances that the events show, in order. -/
def seen (t : List ProvisionEvent) : List Instance := t.filterMap instance?

@[simp] theorem seen_nil : seen [] = [] := rfl

@[simp] theorem seen_cons (e : ProvisionEvent) (t : List ProvisionEvent) :
    seen (e :: t) = e.instance?.toList ++ seen t := by
  unfold seen
  rw [List.filterMap_cons]
  cases e.instance? <;> rfl

end ProvisionEvent

open ProvisionEvent

variable {p : Provisioner} {m : Machine} {t : List ProvisionEvent} {a : ProvisionAttempt}

theorem polls_shows {c : CloudProvider} {created : Bool} {attempts n : Nat}
    {saved : Option Machine} {i : Instance} (h : Polls c m created attempts n saved i t a)
    {e : ProvisionEvent} (member : e ∈ t) {x : Instance} (shown : e.instance? = some x) :
    Shows c m x e := by
  induction h with
  | ready _ => cases member
  | exhausted _ => cases member
  | lost _ =>
    simp only [List.mem_cons, List.not_mem_nil, or_false] at member
    rcases member with rfl | rfl <;> cases shown
  | again _ _ ih =>
    simp only [List.mem_cons] at member
    rcases member with rfl | rfl | later
    · cases shown
    · cases shown
      exact .got _
    · exact ih later

theorem ensures_shows {config : ProviderConfig} (h : Ensures p config m t a) {e : ProvisionEvent}
    (member : e ∈ t) {x : Instance} (shown : e.instance? = some x) :
    Shows config.cloudProvider m x e := by
  cases h with
  | found h =>
    rcases List.mem_cons.mp member with rfl | later
    · cases shown
      exact .got _
    · exact polls_shows h later shown
  | unreadable _ =>
    cases List.mem_singleton.mp member
    cases shown
  | unscripted _ _ =>
    cases List.mem_singleton.mp member
    cases shown
  | uncreated _ _ =>
    simp only [List.mem_cons, List.not_mem_nil, or_false] at member
    rcases member with rfl | rfl <;> cases shown
  | created _ _ h =>
    simp only [List.mem_cons] at member
    rcases member with rfl | rfl | later
    · cases shown
    · cases shown
      exact .made _ _
    · exact polls_shows h later shown

theorem course_shows (h : Course p m t a) {e : ProvisionEvent} (member : e ∈ t) {x : Instance}
    (shown : e.instance? = some x) : ∃ config spec, ProviderConfig.require m.spec = .ok config ∧
      Shows config.cloudProvider { m with spec } x e := by
  cases h with
  | undecoded _ => cases member
  | unselected _ =>
    cases List.mem_singleton.mp member
    cases shown
  | undefaulted _ =>
    simp only [List.mem_cons, List.not_mem_nil, or_false] at member
    rcases member with rfl | rfl <;> cases shown
  | invalid _ =>
    simp only [List.mem_cons, List.not_mem_nil, or_false] at member
    rcases member with rfl | rfl | rfl <;> cases shown
  | @valid config spec t a decoded h =>
    simp only [List.mem_cons] at member
    rcases member with rfl | rfl | rfl | later
    · cases shown
    · cases shown
    · cases shown
    · exact ⟨config, spec, decoded, ensures_shows h later shown⟩

/-- What an attempt ends in after the instances have been seen: with the first of them that has
addresses, which is the last one seen, and without any if none of as many as may be tried has. -/
structure Settles (attempts : Nat) (seen : List Instance)
    (result : Except ProvisionError ProvisionedInstance) : Prop where
  ready : ∀ r, result = .ok r → ∃ bare x created, seen = bare ++ [x] ∧
    (∀ b ∈ bare, b.addresses.isEmpty = true) ∧ x.addresses.isEmpty = false ∧
    r = x.provisioned created
  reports : ∀ x ∈ seen, x.addresses.isEmpty = false → ∃ r, result = .ok r
  exhausted : ∀ id n, result = .error (.noAddresses id n) → n = attempts ∧ seen.length = n + 1 ∧
    (∀ x ∈ seen, x.addresses.isEmpty = true) ∧ (seen.getLast?.map Instance.providerId) = some id

theorem Settles.of_error {attempts : Nat} {seen : List Instance} {e : ProvisionError}
    (bare : ∀ x ∈ seen, x.addresses.isEmpty = true) (other : ∀ id n, e ≠ .noAddresses id n) :
    Settles attempts seen (.error e) where
  ready := nofun
  reports x member sited := by cases (bare x member).symm.trans sited
  exhausted id n h := absurd (Except.error.inj h) (other id n)

theorem bare_concat {earlier : List Instance} {i : Instance}
    (bare : ∀ b ∈ earlier, b.addresses.isEmpty = true) (empty : i.addresses.isEmpty = true) :
    ∀ b ∈ earlier ++ [i], b.addresses.isEmpty = true :=
  List.forall_mem_append.mpr ⟨bare, List.forall_mem_singleton.mpr empty⟩

/-- The events of polling come after those that showed the first instance. -/
theorem polls_settles {c : CloudProvider} {created : Bool} {attempts n : Nat}
    {saved : Option Machine} {i : Instance} (h : Polls c m created attempts n saved i t a)
    (earlier : List Instance) (bare : ∀ b ∈ earlier, b.addresses.isEmpty = true)
    (count : earlier.length + n = attempts) :
    Settles attempts (earlier ++ i :: seen t) a.result := by
  induction h generalizing earlier with
  | @ready n saved i addressed =>
    refine ⟨fun r h => ⟨earlier, i, created, rfl, bare, addressed, ?_⟩,
      fun _ _ _ => ⟨_, rfl⟩, nofun⟩
    cases h
    rfl
  | @exhausted saved i empty =>
    have all := bare_concat bare empty
    refine ⟨nofun, fun x member sited => ?_, fun id k h => ?_⟩
    · cases (all x member).symm.trans sited
    · cases h
      exact ⟨rfl, by simpa using count, all, by simp⟩
  | lost empty => exact .of_error (bare_concat bare empty) fun _ _ => nofun
  | @again n saved s i j t a empty _ ih =>
    have rest := ih (earlier ++ [i]) (bare_concat bare empty) (by simp; omega)
    simpa using rest

theorem ensures_settles {config : ProviderConfig} (h : Ensures p config m t a) :
    Settles p.attempts (seen t) a.result := by
  cases h with
  | found h => simpa using polls_settles h [] (by simp) (by simp)
  | unreadable _ => exact .of_error nofun fun _ _ => nofun
  | unscripted _ _ => exact .of_error nofun fun _ _ => nofun
  | uncreated _ _ => exact .of_error nofun fun _ _ => nofun
  | created _ _ h => simpa using polls_settles h [] (by simp) (by simp)

theorem course_settles (h : Course p m t a) : Settles p.attempts (seen t) a.result := by
  cases h with
  | undecoded _ => exact .of_error nofun fun _ _ => nofun
  | unselected _ => exact .of_error nofun fun _ _ => nofun
  | undefaulted _ => exact .of_error nofun fun _ _ => nofun
  | invalid _ => exact .of_error nofun fun _ _ => nofun
  | valid _ h => simpa using ensures_settles h

namespace Provisioner

variable {σ : Type} (answer : (q : ProvisionQuery) → σ → q.Answer × σ)

theorem createMachine_settles (p : Provisioner) (m : Machine) (s : σ) :
    Settles p.attempts (seen ((p.createMachine m).transcript answer s))
      ((p.createMachine m).run answer s).1.result := by
  obtain ⟨a, course, report⟩ := p.createMachine_course answer m s
  rw [report, a.report_result]
  exact course_settles course

theorem createMachine_shows (p : Provisioner) (m : Machine) (s : σ) {e : ProvisionEvent}
    (member : e ∈ (p.createMachine m).transcript answer s) {x : Instance}
    (shown : e.instance? = some x) : ∃ config spec, ProviderConfig.require m.spec = .ok config ∧
      Shows config.cloudProvider { m with spec } x e := by
  obtain ⟨a, course, _⟩ := p.createMachine_course answer m s
  exact course_shows course member shown

/-- What a report says of an instance was shown while the machine was provisioned. -/
theorem reported_of_ok {p : Provisioner} {m : Machine} {s : σ} {r : ProvisionedInstance}
    (ok : ((p.createMachine m).run answer s).1.result = .ok r) :
    ∃ config spec x created, ∃ e ∈ (p.createMachine m).transcript answer s,
      ProviderConfig.require m.spec = .ok config ∧
      Shows config.cloudProvider { m with spec } x e ∧ r = x.provisioned created := by
  obtain ⟨bare, x, created, order, _, _, reported⟩ :=
    (p.createMachine_settles answer m s).ready r ok
  have last : x ∈ seen ((p.createMachine m).transcript answer s) := by
    rw [order]
    simp
  obtain ⟨e, member, shown⟩ := List.mem_filterMap.mp last
  obtain ⟨config, spec, decoded, shows⟩ := p.createMachine_shows answer m s member shown
  exact ⟨config, spec, x, created, e, member, decoded, shows, reported⟩

end Provisioner

end MachineFleet
