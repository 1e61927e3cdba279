import MachineFleet.Proofs.Cloud.Error
import MachineFleet.Proofs.Provision.Course

/-!
What the report on a machine says, over every course that provisioning can take. The status tells
of a success or of a terminal failure and of nothing else, and the rest of the machine changes only
where the cloud filled in defaults or saved finalizers.
-/

namespace MachineFleet

namespace NodeAddress

def ofEntry (e : String × AddressType) : NodeAddress := { address := e.1, type := e.2.name }

/-- The order of a status: by type, and addresses of one type by address. -/
def Before (a b : NodeAddress) : Prop :=
  a.type < b.type ∨ (a.type = b.type ∧ a.address < b.address)

theorem precedes_iff (a b : NodeAddress) :
    a.precedes b = true ↔ a.type < b.type ∨ (a.type = b.type ∧ a.address ≤ b.address) := by
  simp [precedes]

theorem precedes_trans (a b c : NodeAddress) (hab : a.precedes b = true)
    (hbc : b.precedes c = true) : a.precedes c = true := by
  rw [precedes_iff] at hab hbc ⊢
  rcases hab with hab | ⟨tab, hab⟩
  · rcases hbc with hbc | ⟨tbc, _⟩
    · exact .inl (String.lt_trans hab hbc)
    · exact .inl (tbc ▸ hab)
  · rcases hbc with hbc | ⟨tbc, hbc⟩
    · exact .inl (tab ▸ hbc)
    · exact .inr ⟨tab.trans tbc, String.le_trans hab hbc⟩

theorem precedes_total (a b : NodeAddress) : (a.precedes b || b.precedes a) = true := by
  rw [Bool.or_eq_true, precedes_iff, precedes_iff]
  by_cases below : a.type < b.type
  · exact .inl (.inl below)
  · by_cases same : a.type = b.type
    · rcases String.le_total a.address b.address with h | h
      · exact .inl (.inr ⟨same, h⟩)
      · exact .inr (.inr ⟨same.symm, h⟩)
    · exact .inr (.inl (Dict.key_lt_of_not below same))

theorem precedes_antisymm (a b : NodeAddress) (hab : a.precedes b = true)
    (hba : b.precedes a = true) : a = b := by
  rw [precedes_iff] at hab hba
  rcases hab with hab | ⟨same, hab⟩
  · rcases hba with hba | ⟨same, _⟩
    · exact absurd (String.lt_trans hab hba) (String.lt_irrefl _)
    · exact absurd (same ▸ hab) (String.lt_irrefl _)
  · rcases hba with hba | ⟨_, hba⟩
    · exact absurd (same ▸ hba) (String.lt_irrefl _)
    · cases a
      cases b
      simp only [NodeAddress.mk.injEq]
      exact ⟨String.le_antisymm hab hba, same⟩

theorem before_of_precedes {a b : NodeAddress} (h : a.precedes b = true)
    (distinct : a.address ≠ b.address) : Before a b := by
  rcases (precedes_iff a b).mp h with lower | ⟨same, le⟩
  · exact .inl lower
  · refine .inr ⟨same, Decidable.byContradiction fun not => distinct ?_⟩
    exact String.le_antisymm le (String.not_lt.mp not)

end NodeAddress

/-- A list has each address of a map once and in order, and any enumeration of the map is recorded
as this list. -/
structure AddressesListed (l : List NodeAddress) (d : Dict AddressType) : Prop where
  perm : l.Perm (d.entries.map NodeAddress.ofEntry)
  sorted : l.Pairwise NodeAddress.Before
  enumeration : ∀ (s : MachineStatus) (es : List (String × AddressType)), es.Perm d.entries →
    (s.setAddresses (es.map NodeAddress.ofEntry)).addresses = l

namespace MachineStatus

theorem sorted_setAddresses (s : MachineStatus) (as : List NodeAddress) :
    (s.setAddresses as).addresses.Pairwise fun a b => a.precedes b = true :=
  List.pairwise_mergeSort NodeAddress.precedes_trans NodeAddress.precedes_total as

theorem perm_setAddresses (s : MachineStatus) (as : List NodeAddress) :
    (s.setAddresses as).addresses.Perm as := List.mergeSort_perm as _

theorem setAddresses_eq_of_perm (s s' : MachineStatus) {as bs : List NodeAddress}
    (h : as.Perm bs) : (s.setAddresses as).addresses = (s'.setAddresses bs).addresses := by
  have perm := ((perm_setAddresses s as).trans h).trans (perm_setAddresses s' bs).symm
  exact List.Perm.eq_of_pairwise (fun a b _ _ => NodeAddress.precedes_antisymm a b)
    (sorted_setAddresses s as) (sorted_setAddresses s' bs) perm

theorem addressesListed (s : MachineStatus) (d : Dict AddressType) :
    AddressesListed (s.setAddresses (d.entries.map NodeAddress.ofEntry)).addresses d where
  perm := perm_setAddresses s _
  sorted := by
    have distinct : (d.entries.map NodeAddress.ofEntry).Pairwise
        fun a b => a.address ≠ b.address := by
      rw [List.pairwise_map]
      refine d.ordered.imp fun {a b} lt same => ?_
      have keys : a.1 = b.1 := same
      exact String.lt_irrefl _ (keys ▸ lt)
    have distinct' := (perm_setAddresses s _).symm.pairwise distinct fun {a b} h => Ne.symm h
    exact (sorted_setAddresses s _).imp₂
      (fun _ _ h n => NodeAddress.before_of_precedes h n) distinct'
  enumeration := fun s' _ h => setAddresses_eq_of_perm s' s (h.map _)

end MachineStatus

namespace ProvisionEvent

@[simp]
def saved? : ProvisionEvent → Option Machine
  | ⟨.get _ _, saved, _⟩ => saved
  | ⟨.create _ _ _, saved, _⟩ => saved
  | _ => none

@[simp]
def defaults? : ProvisionEvent → Option MachineSpec
  | ⟨.addDefaults _ _, .ok spec⟩ => some spec
  | _ => none

@[simp]
def instance? : ProvisionEvent → Option Instance
  | ⟨.get _ _, _, .ok i⟩ => some i
  | ⟨.create _ _ _, _, .ok i⟩ => some i
  | _ => none

/-- What the last event shows that shows anything. -/
def last {β : Type} (f : ProvisionEvent → Option β) (t : List ProvisionEvent) : Option β :=
  t.reverse.findSome? f

@[simp] theorem last_nil {β : Type} (f : ProvisionEvent → Option β) : last f [] = none := rfl

@[simp] theorem last_cons {β : Type} (f : ProvisionEvent → Option β) (e : ProvisionEvent)
    (t : List ProvisionEvent) : last f (e :: t) = (last f t).or (f e) := by
  simp only [last, List.reverse_cons, List.findSome?_append, List.findSome?_cons,
    List.findSome?_nil]
  cases f e <;> rfl

end ProvisionEvent

open ProvisionEvent

def Instance.provisioned (i : Instance) (created : Bool) : ProvisionedInstance :=
  { providerId := i.providerId, status := i.status, addresses := i.addresses, created }

theorem polls_accounts {c : CloudProvider} {m : Machine} {created : Bool} {attempts n : Nat}
    {saved : Option Machine} {i : Instance} {t : List ProvisionEvent} {a : ProvisionAttempt}
    (h : Polls c m created attempts n saved i t a) :
    a.machine = m ∧ a.saved = (last saved? t).or saved ∧ last defaults? t = none ∧
      ∀ r, a.result = .ok r →
        ∃ x, (last instance? t).or (some i) = some x ∧ r = x.provisioned created := by
  induction h with
  | @ready n saved i _ =>
    refine ⟨rfl, rfl, rfl, fun r h => ⟨i, rfl, ?_⟩⟩
    cases h
    rfl
  | exhausted _ => exact ⟨rfl, rfl, rfl, fun r h => by cases h⟩
  | lost _ => exact ⟨rfl, by simp [ProvisionAttempt.failed], by simp, fun r h => by cases h⟩
  | again _ _ ih =>
    obtain ⟨machine, saved, defaults, result⟩ := ih
    refine ⟨machine, ?_, ?_, fun r h => ?_⟩
    · rw [saved]
      simp [Option.or_assoc]
    · simp [defaults]
    · obtain ⟨x, hx, rfl⟩ := result r h
      exact ⟨x, by simpa [Option.or_assoc] using hx, rfl⟩

theorem ensures_accounts {p : Provisioner} {config : ProviderConfig} {m : Machine}
    {t : List ProvisionEvent} {a : ProvisionAttempt} (h : Ensures p config m t a) :
    a.machine = m ∧ a.saved = last saved? t ∧ last defaults? t = none ∧
      ∀ r, a.result = .ok r →
        ∃ x created, last instance? t = some x ∧ r = x.provisioned created := by
  cases h with
  | found h =>
    obtain ⟨machine, saved, defaults, result⟩ := polls_accounts h
    refine ⟨machine, by simpa using saved, by simpa using defaults, fun r h => ?_⟩
    obtain ⟨x, hx, hr⟩ := result r h
    exact ⟨x, false, by simpa using hx, hr⟩
  | unreadable _ => exact ⟨rfl, by simp [ProvisionAttempt.failed], by simp, fun r h => by cases h⟩
  | unscripted _ _ => exact ⟨rfl, by simp [ProvisionAttempt.failed], by simp, fun r h => by cases h⟩
  | uncreated _ _ => exact ⟨rfl, by simp [ProvisionAttempt.failed], by simp, fun r h => by cases h⟩
  | created _ _ h =>
    obtain ⟨machine, saved, defaults, result⟩ := polls_accounts h
    refine ⟨machine, by simpa [Option.or_assoc] using saved, by simpa using defaults, fun r h => ?_⟩
    obtain ⟨x, hx, hr⟩ := result r h
    exact ⟨x, true, by simpa using hx, hr⟩

/-- What an attempt leaves behind: the machine with the defaults of the cloud, the machine that
was saved last, and on success the instance that was seen last. -/
theorem course_accounts {p : Provisioner} {m : Machine} {t : List ProvisionEvent}
    {a : ProvisionAttempt} (h : Course p m t a) :
    a.machine = { m with spec := (last defaults? t).getD m.spec } ∧ a.saved = last saved? t ∧
      ∀ r, a.result = .ok r → ∃ spec x created, last defaults? t = some spec ∧
        last instance? t = some x ∧ r = x.provisioned created := by
  cases h with
  | undecoded _ => exact ⟨rfl, rfl, fun r h => by cases h⟩
  | unselected _ => exact ⟨rfl, rfl, fun r h => by cases h⟩
  | undefaulted _ => exact ⟨rfl, rfl, fun r h => by cases h⟩
  | invalid _ => exact ⟨rfl, rfl, fun r h => by cases h⟩
  | @valid config spec t a _ h =>
    obtain ⟨machine, saved, defaults, result⟩ := ensures_accounts h
    refine ⟨by simp [machine, defaults], by simpa using saved, fun r h => ?_⟩
    obtain ⟨x, created, hx, hr⟩ := result r h
    exact ⟨spec, x, created, by simp [defaults], by simp [hx], hr⟩

/-- The class of a failure and what it puts into a status never disagree. -/
theorem ProvisionError.classify_terminal_iff (e : ProvisionError) :
    e.classify = .terminal ↔ e.terminal?.isSome = true := by
  cases e with
  | cloud e => exact e.classify_terminal_iff
  | runtime r => cases r <;> simp [classify, terminal?]
  | noAddresses id n => simp [classify, terminal?]

/-- What the report on a machine says after the given events. -/
structure MachineReport.Accounts (input : Machine) (t : List ProvisionEvent)
    (r : MachineReport) : Prop where
  resource : r.machine.apiVersion = input.apiVersion ∧ r.machine.kind = input.kind
  metadata : r.machine.metadata =
    { input.metadata with finalizers := ((last saved? t).getD input).metadata.finalizers }
  success : ∀ i, r.result = .ok i → ∃ spec x l,
    last defaults? t = some spec ∧ last instance? t = some x ∧
      i.providerId = x.providerId ∧ i.status = x.status ∧ i.addresses = x.addresses ∧
      r.machine.spec = { spec with providerId := some x.providerId } ∧
      AddressesListed l x.addresses ∧
      r.machine.status = some { errorReason := none, errorMessage := none, addresses := l }
  terminal : ∀ e, r.result = .error e → e.classify = .terminal → ∃ cause,
    e.terminal? = some cause ∧
      r.machine.status = some {
        errorReason := some cause.reason.name, errorMessage := some cause.message
        addresses := (input.status.getD {}).addresses }
  other : ∀ e, r.result = .error e → e.classify ≠ .terminal → r.machine.status = input.status
  failure : ∀ e, r.result = .error e → r.machine.spec = (last defaults? t).getD input.spec

namespace ProvisionAttempt

theorem report_result (a : ProvisionAttempt) : a.report.result = a.result := by
  unfold report
  split
  · rfl
  · split <;> rfl

theorem report_of_ok {a : ProvisionAttempt} {i : ProvisionedInstance} (h : a.result = .ok i) :
    a.report.machine =
      { a.savedMachine with
        spec := { a.savedMachine.spec with providerId := some i.providerId }
        status := some ((a.savedMachine.status.getD {}).clearError.setAddresses
          (i.addresses.entries.map NodeAddress.ofEntry)) } := by
  simp only [report, h]
  rfl

theorem report_of_terminal {a : ProvisionAttempt} {e : ProvisionError} {cause : TerminalError}
    (h : a.result = .error e) (ht : e.terminal? = some cause) :
    a.report.machine =
      { a.savedMachine with
        status := some ((a.savedMachine.status.getD {}).setTerminalError cause.reason.name
          cause.message) } := by
  simp only [report, h, ht]
  rfl

theorem report_of_other {a : ProvisionAttempt} {e : ProvisionError}
    (h : a.result = .error e) (ht : e.terminal? = none) : a.report.machine = a.savedMachine := by
  simp only [report, h, ht]

theorem savedMachine_eq {a : ProvisionAttempt} {input : Machine} {spec : MachineSpec}
    (h : a.machine = { input with spec }) :
    a.savedMachine = { input with
      spec
      metadata := { input.metadata with
        finalizers := (a.saved.getD input).metadata.finalizers } } := by
  unfold savedMachine
  cases saved : a.saved with
  | none => simpa using h
  | some m => simp [h, Machine.withFinalizers]

end ProvisionAttempt

open ProvisionAttempt in
theorem accounts_of_course {p : Provisioner} {m : Machine} {t : List ProvisionEvent}
    {a : ProvisionAttempt} (h : Course p m t a) : a.report.Accounts m t := by
  obtain ⟨machine, saved, result⟩ := course_accounts h
  have kept := savedMachine_eq machine
  rw [saved] at kept
  cases outcome : a.result with
  | ok i =>
    obtain ⟨spec, x, created, hspec, hx, rfl⟩ := result i outcome
    have written := report_of_ok outcome
    rw [kept] at written
    have absent : ∀ e, a.report.result ≠ .error e := fun e he => by
      rw [report_result, outcome] at he
      cases he
    refine ⟨by simp [written], by simp [written], fun i hi => ?_, fun e he => absurd he (absent e),
      fun e he => absurd he (absent e), fun e he => absurd he (absent e)⟩
    rw [report_result, outcome] at hi
    cases hi
    refine ⟨spec, x, _, hspec, hx, rfl, rfl, rfl, ?_,
      MachineStatus.addressesListed (m.status.getD {}).clearError _, ?_⟩
    · simp [written, hspec, Instance.provisioned]
    · rw [written]
      rfl
  | error e =>
    have same : ∀ e', a.report.result = .error e' → e' = e := fun e' he => by
      rw [report_result, outcome] at he
      exact (Except.error.inj he).symm
    have absent : ∀ i, a.report.result ≠ .ok i := fun i hi => by
      rw [report_result, outcome] at hi
      cases hi
    cases ht : e.terminal? with
    | some cause =>
      have written := report_of_terminal outcome ht
      rw [kept] at written
      have terminal : e.classify = .terminal := e.classify_terminal_iff.mpr (by simp [ht])
      refine ⟨by simp [written], by simp [written], fun i hi => absurd hi (absent i),
        fun e' he _ => ?_, fun e' he other => ?_, fun e' _ => by simp [written]⟩
      · cases same e' he
        refine ⟨cause, ht, ?_⟩
        rw [written]
        rfl
      · cases same e' he
        exact absurd terminal other
    | none =>
      have written := report_of_other outcome ht
      rw [kept] at written
      refine ⟨by simp [written], by simp [written], fun i hi => absurd hi (absent i),
        fun e' he terminal => ?_, fun e' _ _ => by simp [written], fun e' _ => by simp [written]⟩
      cases same e' he
      have some := e.classify_terminal_iff.mp terminal
      simp [ht] at some

/-- Whatever the clouds answer, provisioning a machine ends with a report that accounts for what
was answered. -/
theorem createMachine_accounts {σ : Type} (answer : (q : ProvisionQuery) → σ → q.Answer × σ)
    (s : σ) (p : Provisioner) (m : Machine) :
    ((p.createMachine m).run answer s).1.Accounts m ((p.createMachine m).transcript answer s) ∧
      ∀ e : ProvisionError, e.classify = .terminal ↔ e.terminal?.isSome = true := by
  obtain ⟨a, course, report⟩ := Provisioner.createMachine_course answer p m s
  rw [report]
  exact ⟨accounts_of_course course, ProvisionError.classify_terminal_iff⟩

end MachineFleet
