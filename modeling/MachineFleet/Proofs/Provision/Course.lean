import MachineFleet.Proofs.Program.Transcript
import MachineFleet.Provision.Provisioner

/-!
The courses that provisioning one machine can take: which questions are asked in which order, and
how each of the ends is reached. Everything that is said about all runs is read off this list.
-/

namespace MachineFleet

abbrev ProvisionEvent : Type := Program.Event ProvisionQuery ProvisionQuery.Answer

namespace ProvisionEvent

abbrev select (c : CloudProvider) (r : Except CloudError Unit) : ProvisionEvent := ⟨.select c, r⟩

abbrev addDefaults (c : CloudProvider) (spec : MachineSpec) (r : Except CloudError MachineSpec) :
    ProvisionEvent := ⟨.addDefaults c spec, r⟩

abbrev validate (c : CloudProvider) (spec : MachineSpec) (r : Except CloudError Unit) :
    ProvisionEvent := ⟨.validate c spec, r⟩

abbrev get (c : CloudProvider) (m : Machine) (saved : Option Machine)
    (r : Except CloudError Instance) : ProvisionEvent := ⟨.get c m, saved, r⟩

abbrev create (c : CloudProvider) (m : Machine) (script : String) (saved : Option Machine)
    (r : Except CloudError Instance) : ProvisionEvent := ⟨.create c m script, saved, r⟩

abbrev pause : ProvisionEvent := ⟨.pause, ()⟩

end ProvisionEvent

open ProvisionEvent

/-- How an instance is looked up until it has addresses, with the number of look-ups that are
left and the machine that was saved last. -/
inductive Polls (c : CloudProvider) (m : Machine) (created : Bool) (attempts : Nat) :
    Nat → Option Machine → Instance → List ProvisionEvent → ProvisionAttempt → Prop where
  | ready {n : Nat} {saved : Option Machine} {i : Instance} :
      i.addresses.isEmpty = false →
      Polls c m created attempts n saved i [] (.succeeded m saved created i)
  | exhausted {saved : Option Machine} {i : Instance} :
      i.addresses.isEmpty = true →
      Polls c m created attempts 0 saved i []
        (.failed m saved (.noAddresses i.providerId attempts))
  | lost {n : Nat} {saved s : Option Machine} {i : Instance} {e : CloudError} :
      i.addresses.isEmpty = true →
      Polls c m created attempts (n + 1) saved i [pause, get c m s (.error e)]
        (.failed m (s.or saved) (.cloud e))
  | again {n : Nat} {saved s : Option Machine} {i j : Instance} {t : List ProvisionEvent}
      {a : ProvisionAttempt} :
      i.addresses.isEmpty = true →
      Polls c m created attempts n (s.or saved) j t a →
      Polls c m created attempts (n + 1) saved i (pause :: get c m s (.ok j) :: t) a

/-- How the instance of a machine with a valid specification is found or created. -/
inductive Ensures (p : Provisioner) (config : ProviderConfig) (m : Machine) :
    List ProvisionEvent → ProvisionAttempt → Prop where
  | found {s : Option Machine} {i : Instance} {t : List ProvisionEvent} {a : ProvisionAttempt} :
      Polls config.cloudProvider m false p.attempts p.attempts s i t a →
      Ensures p config m (get config.cloudProvider m s (.ok i) :: t) a
  | unreadable {s : Option Machine} {e : CloudError} :
      e.classify ≠ .notFound →
      Ensures p config m [get config.cloudProvider m s (.error e)] (.failed m s (.cloud e))
  | unscripted {s : Option Machine} {e : CloudError} {r : RuntimeError} :
      e.classify = .notFound → p.userdata config.operatingSystem m = .error r →
      Ensures p config m [get config.cloudProvider m s (.error e)] (.failed m s (.runtime r))
  | uncreated {s s' : Option Machine} {e e' : CloudError} {script : String} :
      e.classify = .notFound → p.userdata config.operatingSystem m = .ok script →
      Ensures p config m
        [get config.cloudProvider m s (.error e),
          create config.cloudProvider m script s' (.error e')]
        (.failed m (s'.or s) (.cloud e'))
  | created {s s' : Option Machine} {e : CloudError} {script : String} {i : Instance}
      {t : List ProvisionEvent} {a : ProvisionAttempt} :
      e.classify = .notFound → p.userdata config.operatingSystem m = .ok script →
      Polls config.cloudProvider m true p.attempts p.attempts (s'.or s) i t a →
      Ensures p config m
        (get config.cloudProvider m s (.error e) ::
          create config.cloudProvider m script s' (.ok i) :: t) a

/-- How a machine is provisioned. -/
inductive Course (p : Provisioner) (m : Machine) :
    List ProvisionEvent → ProvisionAttempt → Prop where
  | undecoded {e : CloudError} :
      ProviderConfig.require m.spec = .error e →
      Course p m [] (.failed m none (.cloud e))
  | unselected {config : ProviderConfig} {e : CloudError} :
      ProviderConfig.require m.spec = .ok config →
      Course p m [select config.cloudProvider (.error e)] (.failed m none (.cloud e))
  | undefaulted {config : ProviderConfig} {e : CloudError} :
      ProviderConfig.require m.spec = .ok config →
      Course p m
        [select config.cloudProvider (.ok ()),
          addDefaults config.cloudProvider m.spec (.error e)]
        (.failed m none (.cloud e))
  | invalid {config : ProviderConfig} {spec : MachineSpec} {e : CloudError} :
      ProviderConfig.require m.spec = .ok config →
      Course p m
        [select config.cloudProvider (.ok ()),
          addDefaults config.cloudProvider m.spec (.ok spec),
          validate config.cloudProvider spec (.error e)]
        (.failed { m with spec } none (.cloud e))
  | valid {config : ProviderConfig} {spec : MachineSpec} {t : List ProvisionEvent}
      {a : ProvisionAttempt} :
      ProviderConfig.require m.spec = .ok config →
      Ensures p config { m with spec } t a →
      Course p m
        (select config.cloudProvider (.ok ()) ::
          addDefaults config.cloudProvider m.spec (.ok spec) ::
          validate config.cloudProvider spec (.ok ()) :: t) a

namespace Provisioner

open Program

variable {p : Provisioner} {m : Machine} {t : List ProvisionEvent} {a : ProvisionAttempt}

theorem polls_of_yields {c : CloudProvider} {created : Bool} {n : Nat} {saved : Option Machine}
    {i : Instance} (h : Yields (p.waitForAddresses c m created n saved i) t a) :
    Polls c m created p.attempts n saved i t a := by
  induction n generalizing saved i t with
  | zero =>
    unfold waitForAddresses at h
    split at h
    · rename_i bare
      obtain ⟨rfl, rfl⟩ := yields_done h
      exact .exhausted bare
    · rename_i addressed
      obtain ⟨rfl, rfl⟩ := yields_done h
      exact .ready (by simpa using addressed)
  | succ n ih =>
    unfold waitForAddresses at h
    split at h
    · rename_i bare
      obtain ⟨_, u, rfl, hu⟩ := yields_ask h
      obtain ⟨⟨s, r⟩, v, rfl, hv⟩ := yields_ask hu
      cases r with
      | ok j => exact .again bare (ih hv)
      | error e =>
        obtain ⟨rfl, rfl⟩ := yields_done hv
        exact .lost bare
    · rename_i addressed
      obtain ⟨rfl, rfl⟩ := yields_done h
      exact .ready (by simpa using addressed)

theorem ensures_of_yields {config : ProviderConfig}
    (h : Yields (p.ensureInstance config m) t a) : Ensures p config m t a := by
  obtain ⟨⟨s, r⟩, u, rfl, hu⟩ := yields_ask h
  cases r with
  | ok i => exact .found (polls_of_yields hu)
  | error e =>
    dsimp only at hu
    split at hu
    · rename_i missing
      unfold createInstance at hu
      split at hu
      · rename_i r unscripted
        obtain ⟨rfl, rfl⟩ := yields_done hu
        exact .unscripted missing unscripted
      · rename_i script scripted
        obtain ⟨⟨s', r⟩, v, rfl, hv⟩ := yields_ask hu
        cases r with
        | ok i => exact .created missing scripted (polls_of_yields hv)
        | error e' =>
          obtain ⟨rfl, rfl⟩ := yields_done hv
          exact .uncreated missing scripted
    · rename_i other
      obtain ⟨rfl, rfl⟩ := yields_done hu
      exact .unreadable other

/-- Every run of an attempt takes one of the courses. -/
theorem course_of_yields (h : Yields (p.attempt m) t a) : Course p m t a := by
  unfold attempt at h
  split at h
  · rename_i e undecoded
    obtain ⟨rfl, rfl⟩ := yields_done h
    exact .undecoded undecoded
  · rename_i config decoded
    obtain ⟨r, t₁, rfl, h₁⟩ := yields_ask h
    cases r with
    | error e =>
      obtain ⟨rfl, rfl⟩ := yields_done h₁
      exact .unselected decoded
    | ok _ =>
      obtain ⟨r, t₂, rfl, h₂⟩ := yields_ask h₁
      cases r with
      | error e =>
        obtain ⟨rfl, rfl⟩ := yields_done h₂
        exact .undefaulted decoded
      | ok spec =>
        obtain ⟨r, t₃, rfl, h₃⟩ := yields_ask h₂
        cases r with
        | error e =>
          obtain ⟨rfl, rfl⟩ := yields_done h₃
          exact .invalid decoded
        | ok _ => exact .valid decoded (ensures_of_yields h₃)

/-- The report of a run is that of an attempt which takes one of the courses. -/
theorem createMachine_course {σ : Type} (answer : (q : ProvisionQuery) → σ → q.Answer × σ)
    (p : Provisioner) (m : Machine) (s : σ) :
    ∃ a, Course p m ((p.createMachine m).transcript answer s) a ∧
      ((p.createMachine m).run answer s).1 = a.report := by
  obtain ⟨a, u, v, ht, ha, hr⟩ := yields_bind (yields_run answer (p.createMachine m) s)
  obtain ⟨rfl, hreport⟩ := yields_done hr
  rw [ht, List.append_nil]
  exact ⟨a, course_of_yields ha, hreport⟩

end Provisioner

end MachineFleet
