import MachineFleet.Proofs.Provision.Report
import MachineFleet.Registry

/-!
How the addresses of an instance are waited for. The instances that can be seen are the first one
and those that the look-ups result in, one after each pause. Waiting ends with the first of them
that has addresses or with the first look-up that fails, and is given up when neither has come
after as many look-ups as there may be. No pause and no look-up comes after that.
-/

namespace MachineFleet

open Program ProvisionEvent

/-- There is an instance, but nothing is known of where it is. -/
def Pending (sight : Except CloudError Instance) : Prop :=
  ∃ x, sight = .ok x ∧ x.addresses.isEmpty = true

/-- Waiting ends with this one of the sights, counted from the first one. -/
structure StopsAt (limit : Nat) (sights : Nat → Except CloudError Instance) (k : Nat) : Prop where
  within : k ≤ limit
  before : ∀ j < k, Pending (sights j)
  enough : k < limit → ¬ Pending (sights k)

/-- What waiting results in when it ends with the sight. -/
def conclude (limit : Nat) (created : Bool) :
    Except CloudError Instance → Except ProvisionError ProvisionedInstance
  | .error e => .error (.cloud e)
  | .ok x =>
    if x.addresses.isEmpty then .error (.noAddresses x.providerId limit)
    else .ok (x.provisioned created)

/-- Waiting results in the first sight that is not pending, and nothing is asked after it. -/
structure Waited (limit : Nat) (created : Bool) (sights : Nat → Except CloudError Instance)
    (polls : Nat → List ProvisionEvent) (t : List ProvisionEvent)
    (result : Except ProvisionError ProvisionedInstance) : Prop where
  ready : ∀ r, result = .ok r ↔ ∃ k ≤ limit, ∃ x, (∀ j < k, Pending (sights j)) ∧
    sights k = .ok x ∧ x.addresses.isEmpty = false ∧ x.provisioned created = r
  lost : ∀ e, result = .error (.cloud e) ↔
    ∃ k ≤ limit, (∀ j < k, Pending (sights j)) ∧ sights k = .error e
  exhausted : ∀ id n, result = .error (.noAddresses id n) ↔
    (∀ j ≤ limit, Pending (sights j)) ∧ limit = n ∧
      ∃ x, sights limit = .ok x ∧ x.providerId = id
  unrelated : ∀ e, result ≠ .error (.runtime e)
  asks : ∃ k, StopsAt limit sights k ∧ t = polls k

section Sights

variable {limit k k' : Nat} {created : Bool} {sights : Nat → Except CloudError Instance}

theorem StopsAt.eq (first : StopsAt limit sights k) (second : StopsAt limit sights k') :
    k = k' := by
  rcases Nat.lt_trichotomy k k' with less | same | more
  · exact absurd (second.before k less) (first.enough (Nat.lt_of_lt_of_le less second.within))
  · exact same
  · exact absurd (first.before k' more) (second.enough (Nat.lt_of_lt_of_le more first.within))

theorem stopsAt_limit (all : ∀ j ≤ limit, Pending (sights j)) : StopsAt limit sights limit where
  within := Nat.le_refl limit
  before j less := all j (Nat.le_of_lt less)
  enough less := absurd less (Nat.lt_irrefl limit)

theorem not_pending_error (e : CloudError) : ¬ Pending (.error e) := nofun

theorem not_pending_of_addressed {x : Instance} (addressed : x.addresses.isEmpty = false) :
    ¬ Pending (.ok x) := by
  rintro ⟨y, same, empty⟩
  cases same
  cases empty.symm.trans addressed

theorem conclude_eq_ok_iff {sight : Except CloudError Instance} {r : ProvisionedInstance} :
    conclude limit created sight = .ok r ↔
      ∃ x, sight = .ok x ∧ x.addresses.isEmpty = false ∧ x.provisioned created = r := by
  cases sight with
  | error e => simp [conclude]
  | ok x => cases empty : x.addresses.isEmpty <;> simp [conclude, empty]

theorem conclude_eq_cloud_iff {sight : Except CloudError Instance} {e : CloudError} :
    conclude limit created sight = .error (.cloud e) ↔ sight = .error e := by
  cases sight with
  | error e' => simp [conclude]
  | ok x => cases empty : x.addresses.isEmpty <;> simp [conclude, empty]

theorem conclude_eq_noAddresses_iff {sight : Except CloudError Instance} {id : String} {n : Nat} :
    conclude limit created sight = .error (.noAddresses id n) ↔
      limit = n ∧ ∃ x, sight = .ok x ∧ x.addresses.isEmpty = true ∧ x.providerId = id := by
  cases sight with
  | error e => simp [conclude]
  | ok x => cases empty : x.addresses.isEmpty <;> simp [conclude, empty, and_comm]

theorem conclude_ne_runtime (sight : Except CloudError Instance) (e : RuntimeError) :
    conclude limit created sight ≠ .error (.runtime e) := by
  cases sight with
  | error e' => simp [conclude]
  | ok x => cases empty : x.addresses.isEmpty <;> simp [conclude, empty]

/-- The result tells which sight waiting ended with. -/
theorem Waited.of_stopsAt {polls : Nat → List ProvisionEvent} (ends : StopsAt limit sights k) :
    Waited limit created sights polls (polls k) (conclude limit created (sights k)) := by
  have only : ∀ {k'}, StopsAt limit sights k' → sights k = sights k' := fun other =>
    congrArg sights (ends.eq other)
  constructor
  case ready =>
    intro r
    rw [conclude_eq_ok_iff]
    constructor
    · rintro ⟨x, told, addressed, same⟩
      exact ⟨k, ends.within, x, ends.before, told, addressed, same⟩
    · rintro ⟨k', within, x, before, told, addressed, same⟩
      have settled : ¬ Pending (sights k') := told ▸ not_pending_of_addressed addressed
      exact ⟨x, (only ⟨within, before, fun _ => settled⟩).trans told, addressed, same⟩
  case lost =>
    intro e
    rw [conclude_eq_cloud_iff]
    constructor
    · exact fun told => ⟨k, ends.within, ends.before, told⟩
    · rintro ⟨k', within, before, told⟩
      have settled : ¬ Pending (sights k') := told ▸ not_pending_error e
      exact (only ⟨within, before, fun _ => settled⟩).trans told
  case exhausted =>
    intro id n
    rw [conclude_eq_noAddresses_iff]
    constructor
    · rintro ⟨rfl, x, told, empty, same⟩
      have pending : Pending (sights k) := ⟨x, told, empty⟩
      -- A sight that is pending ends waiting only if it is the last one there may be.
      obtain rfl : k = limit := (Nat.lt_or_eq_of_le ends.within).resolve_left fun less =>
        ends.enough less pending
      refine ⟨fun j within => ?_, rfl, x, told, same⟩
      rcases Nat.lt_or_eq_of_le within with less | rfl
      · exact ends.before j less
      · exact pending
    · rintro ⟨all, rfl, x, told, same⟩
      obtain ⟨y, told', empty⟩ := all limit (Nat.le_refl limit)
      obtain rfl : x = y := Except.ok.inj (told.symm.trans told')
      exact ⟨rfl, x, (only (stopsAt_limit all)).trans told, empty, same⟩
  case unrelated => exact conclude_ne_runtime (sights k)
  case asks => exact ⟨k, ends, rfl⟩

end Sights

namespace Provisioner

section Polls

variable {σ : Type} (answer : (q : ProvisionQuery) → σ → q.Answer × σ) (c : CloudProvider)
  (m : Machine)

/-- The answer to a look-up after a pause. -/
def poll (s : σ) : (Option Machine × Except CloudError Instance) × σ :=
  answer (.get c m) (answer .pause s).2

/-- The state after so many look-ups. -/
def afterPolls : Nat → σ → σ
  | 0, s => s
  | k + 1, s => afterPolls k (poll answer c m s).2

/-- The answer to the look-up with this number. -/
def pollAnswer (s : σ) (k : Nat) : Option Machine × Except CloudError Instance :=
  (poll answer c m (afterPolls answer c m k s)).1

/-- What there is to see: the first instance, then what the look-ups result in. -/
def sights (i : Instance) (s : σ) : Nat → Except CloudError Instance
  | 0 => .ok i
  | k + 1 => (pollAnswer answer c m s k).2

/-- So many look-ups, each of them after a pause. -/
def polls (s : σ) (k : Nat) : List ProvisionEvent :=
  (List.range k).flatMap fun j => [pause, ⟨.get c m, pollAnswer answer c m s j⟩]

theorem polls_succ (s : σ) (k : Nat) : polls answer c m s (k + 1) =
    pause :: ⟨.get c m, (poll answer c m s).1⟩ :: polls answer c m (poll answer c m s).2 k := by
  simp only [polls, List.range_succ_eq_map, List.flatMap_cons, List.flatMap_map]
  rfl

variable {answer c m}

theorem sights_succ {i j : Instance} {s : σ} (found : (poll answer c m s).1.2 = .ok j) (k : Nat) :
    sights answer c m i s (k + 1) = sights answer c m j (poll answer c m s).2 k := by
  cases k with
  | zero => exact found
  | succ k => rfl

theorem stopsAt_lost {n : Nat} {i : Instance} {s : σ} {e : CloudError}
    (empty : i.addresses.isEmpty = true) (failed : (poll answer c m s).1.2 = .error e) :
    StopsAt (n + 1) (sights answer c m i s) 1 where
  within := Nat.succ_le_succ (Nat.zero_le n)
  before
    | 0, _ => ⟨i, rfl, empty⟩
  enough _ := by
    rw [show sights answer c m i s 1 = .error e from failed]
    exact not_pending_error e

/-- A look-up that finds an instance brings the end of waiting one step nearer. -/
theorem stopsAt_succ {n k : Nat} {i j : Instance} {s : σ} (empty : i.addresses.isEmpty = true)
    (found : (poll answer c m s).1.2 = .ok j)
    (ends : StopsAt n (sights answer c m j (poll answer c m s).2) k) :
    StopsAt (n + 1) (sights answer c m i s) (k + 1) where
  within := Nat.succ_le_succ ends.within
  before
    | 0, _ => ⟨i, rfl, empty⟩
    | l + 1, less => by
      rw [sights_succ found]
      exact ends.before l (Nat.lt_of_succ_lt_succ less)
  enough less := by
    rw [sights_succ found]
    exact ends.enough (Nat.lt_of_succ_lt_succ less)

variable (answer c m) in
/-- The run of the loop with `n` look-ups left. -/
theorem waitForAddresses_stops (p : Provisioner) (created : Bool) (n : Nat)
    (saved : Option Machine) (i : Instance) (s : σ) :
    ∃ k, StopsAt n (sights answer c m i s) k ∧
      (p.waitForAddresses c m created n saved i).transcript answer s = polls answer c m s k ∧
      ((p.waitForAddresses c m created n saved i).run answer s).1.result =
        conclude p.attempts created (sights answer c m i s k) ∧
      ((p.waitForAddresses c m created n saved i).run answer s).2 = afterPolls answer c m k s := by
  induction n generalizing saved i s with
  | zero =>
    refine ⟨0, ⟨Nat.le_refl 0, nofun, nofun⟩, ?_⟩
    unfold waitForAddresses
    split
    · rename_i empty
      exact ⟨rfl, (conclude_eq_noAddresses_iff.mpr ⟨rfl, i, rfl, empty, rfl⟩).symm, rfl⟩
    · rename_i addressed
      have settled : i.addresses.isEmpty = false := by simpa using addressed
      exact ⟨rfl, (conclude_eq_ok_iff.mpr ⟨i, rfl, settled, rfl⟩).symm, rfl⟩
  | succ n ih =>
    unfold waitForAddresses
    split
    · rename_i empty
      rw [transcript, transcript, run, run]
      obtain ⟨⟨later, sight⟩, told⟩ :
          ∃ reply, (answer (.get c m) (answer .pause s).2).1 = reply := ⟨_, rfl⟩
      have found : (poll answer c m s).1 = (later, sight) := told
      rw [told]
      cases sight with
      | error e =>
        have failed : (poll answer c m s).1.2 = .error e := congrArg Prod.snd found
        refine ⟨1, stopsAt_lost empty failed, ?_, ?_, rfl⟩
        · rw [polls_succ, found]
          rfl
        · rw [show sights answer c m i s 1 = .error e from failed]
          rfl
      | ok j =>
        have seen : (poll answer c m s).1.2 = .ok j := congrArg Prod.snd found
        obtain ⟨k, ends, asked, result, after⟩ := ih (later.or saved) j (poll answer c m s).2
        refine ⟨k + 1, stopsAt_succ empty seen ends, ?_, ?_, after⟩
        · rw [polls_succ, found, ← asked]
          rfl
        · rw [sights_succ seen]
          exact result
    · rename_i addressed
      have settled : i.addresses.isEmpty = false := by simpa using addressed
      exact ⟨0, ⟨Nat.zero_le _, nofun, fun _ => not_pending_of_addressed settled⟩, rfl,
        (conclude_eq_ok_iff.mpr ⟨i, rfl, settled, rfl⟩).symm, rfl⟩

end Polls

theorem now_direct (s : CloudSettings) (c : CloudProvider) (call : CloudCall) (w : Clouds) :
    (Clouds.direct s c call w).2.now = w.now := by
  unfold Clouds.direct
  split <;> rfl

/-- Only the pauses take time. -/
theorem now_afterPolls (s : CloudSettings) (c : CloudProvider) (m : Machine) (k : Nat)
    (w : Clouds) :
    (afterPolls (Clouds.answerQuery s) c m k w).now = w.now + k * s.interval := by
  induction k generalizing w with
  | zero => simp [afterPolls]
  | succ k ih =>
    have once : (poll (Clouds.answerQuery s) c m w).2.now = w.now + s.interval :=
      now_direct s c (.get m) _
    rw [afterPolls, ih, once, Nat.succ_mul]
    omega

/-- Whatever the look-ups result in, the addresses of an instance are waited for until the first
sight of them and no longer; and it takes as many intervals as there are look-ups. -/
theorem addresses_are_awaited (p : Provisioner) (c : CloudProvider) (m : Machine)
    (created : Bool) (saved : Option Machine) (i : Instance) :
    let waiting := p.waitForAddresses c m created p.attempts saved i
    (∀ {σ : Type} (answer : (q : ProvisionQuery) → σ → q.Answer × σ) (s : σ),
      Waited p.attempts created (sights answer c m i s) (polls answer c m s)
        (waiting.transcript answer s) (waiting.run answer s).1.result) ∧
    ∀ (s : CloudSettings) (w : Clouds), ∃ k,
      StopsAt p.attempts (sights (Clouds.answerQuery s) c m i w) k ∧
        (Clouds.provision s waiting w).2.now = w.now + k * s.interval := by
  refine ⟨fun answer s => ?_, fun s w => ?_⟩
  · obtain ⟨k, ends, asked, result, _⟩ :=
      waitForAddresses_stops answer c m p created p.attempts saved i s
    rw [asked, result]
    exact .of_stopsAt ends
  · obtain ⟨k, ends, _, _, after⟩ :=
      waitForAddresses_stops (Clouds.answerQuery s) c m p created p.attempts saved i w
    refine ⟨k, ends, ?_⟩
    rw [Clouds.provision, after, now_afterPolls]

end Provisioner

end MachineFleet
