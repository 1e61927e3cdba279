import MachineFleet.Cloud.ValidationCache
import MachineFleet.Proofs.Http.Restraint
import MachineFleet.Proofs.Provision.Report

/-!
Replies by which an API says that it has too much to do, or is broken. An operation that fails
over one ends in a failure that may be tried again and leaves no trace, on Vultr whatever the
reply says. On Hetzner a reply that says that resources are exhausted is believed whatever its
status is, and the failure is terminal.
-/

namespace MachineFleet

/-- The failure may be tried again. It is written to no Machine status, and no cache of
validations stores it. -/
structure Deferred (e : CloudError) : Prop where
  transient : e.classify = .transient
  nonterminal : e.terminal? = none
  unrecorded : ∀ {σ : Type} (answer : (q : ProvisionQuery) → σ → q.Answer × σ) (s : σ)
    (p : Provisioner) (m : Machine),
    ((p.createMachine m).run answer s).1.result = .error (.cloud e) →
      ((p.createMachine m).run answer s).1.machine.status = m.status
  unstored : ∀ (cache : ValidationCache) (now : Nat) (spec : MachineSpec),
    cache.record now spec (.error e) = cache

theorem deferred_of_transient {e : CloudError} (transient : e.classify = .transient) :
    Deferred e := by
  have other : e.classify ≠ .terminal := by
    rw [transient]
    nofun
  refine ⟨transient, ?_, ?_, ?_⟩
  · have without : ¬ e.terminal?.isSome = true := fun some =>
      other (e.classify_terminal_iff.mpr some)
    simpa using without
  · intro σ answer s p m ends
    obtain ⟨a, course, report⟩ := Provisioner.createMachine_course answer p m s
    rw [report] at ends ⊢
    exact (accounts_of_course course).other _ ends other
  · intro cache now spec
    simp only [ValidationCache.record, ValidationCache.outcome?, if_neg other]

namespace Http

def Reply.IsOverload : Reply → Prop
  | .response status _ => status = 429 ∨ 500 ≤ status
  | .dropped => False

theorem not_isSuccess {status : Nat} (overload : status = 429 ∨ 500 ≤ status) :
    isSuccess status = false := by
  have above : ¬ status ≤ 299 := by omega
  simp [isSuccess, above]

namespace Service

variable (s : Service)

/-- The run ends in a failure, and the event has the first reply that was one. -/
def EndedBy {α : Type} (t : List Event) (a : Except CloudError α) (e : Event)
    (cause : CloudError) : Prop :=
  a = .error cause ∧ s.Fails e ∧ ∃ u v, t = u ++ e :: v ∧ ∀ e' ∈ u, ¬ s.Fails e'

variable {s} {r : Resolver} {call : CloudCall} {t : List Event} {e : Event} {cause : CloudError}

theorem cause_of_orderly {α : Type} {allowed : Request → Prop} {o : Except CloudError α}
    {u v : List Event} (orderly : Operation.Orderly allowed s.fault t o) (fails : s.Fails e)
    (split : t = u ++ e :: v) (ends : o = .error cause) : s.fault e.1 e.2 = some cause := by
  obtain ⟨cause', failed⟩ := Option.ne_none_iff_exists'.mp ((s.fails_iff e).mp fails)
  obtain ⟨_, ends'⟩ := orderly.stops u e v cause' split failed
  rw [failed, Except.error.inj (ends'.symm.trans ends)]

/-- A run that fails only as one of its requests does ends in nothing that comes later. -/
theorem cause_of_request {α : Type} {a : Except CloudError α} {k w : Event} {u v x y : List Event}
    (quiet : ∀ e' ∈ u, s.fault e'.1 e'.2 = none)
    (ends : ∀ cause, a = .error cause → s.fault k.1 k.2 = some cause) (fails : s.Fails w)
    (split : u ++ k :: v = x ++ w :: y) (first : ∀ e' ∈ x, ¬ s.Fails e')
    (failed : a = .error cause) : s.fault w.1 w.2 = some cause := by
  rcases split_append split with ⟨z, early, _⟩ | ⟨z, rfl, later⟩
  · exact absurd (quiet w (by simp [early])) ((s.fails_iff w).mp fails)
  cases z with
  | nil =>
    cases later
    exact ends cause failed
  | cons k' z =>
    cases later
    have failing : s.Fails k := (s.fails_iff k).mpr (by rw [ends cause failed]; nofun)
    exact absurd failing (first k (by simp))

/-- What a run ends in is the failure that its first failing reply is. -/
theorem Course.cause_of_endedBy {a : call.Answer} (course : s.Course r call t a)
    (ended : s.EndedBy t a e cause) : s.fault e.1 e.2 = some cause := by
  obtain ⟨failed, fails, u, v, split, first⟩ := ended
  have quiet : ∀ {w : List Event}, (∀ e' ∈ w, s.fault e'.1 e'.2 = none) → e ∉ w :=
    fun sound member => (s.fails_iff e).mp fails (sound e member)
  have member : e ∈ t := by simp [split]
  cases course with
  | apart _ _ => cases member
  | unresolved _ _ _ => cases member
  | validated _ orderly => exact cause_of_orderly orderly fails split failed
  | unsearched _ _ search =>
    cases failed
    exact cause_of_orderly search.orderly fails split rfl
  | missed _ search => exact absurd member (quiet fun _ => search.orderly.sound)
  | got _ _ => cases failed
  | kept _ _ => cases failed
  | unprepared _ search prepares =>
    cases failed
    rcases split_append split with ⟨w, early, _⟩ | ⟨w, _, later⟩
    · exact absurd (by simp [early]) (quiet fun _ => search.orderly.sound)
    · exact cause_of_orderly prepares fails later rfl
  | posted _ search prepares _ ends _ _ _ =>
    rw [← List.append_assoc] at split
    refine cause_of_request (fun e' before => ?_) ends fails split first failed
    rcases List.mem_append.mp before with searched | prepared
    · exact search.orderly.sound searched
    · exact prepares.sound prepared
  | absent _ _ => cases failed
  | leaving _ _ => cases failed
  | unmarked _ _ => cases failed
  | altered _ _ search _ ends _ =>
    exact cause_of_request (fun _ => search.orderly.sound) ends fails split first failed

variable (s) in
/-- A failure over an overload is deferred, but where the reply means one of its own. -/
def Defers (meant : Reply → Option CloudError) (_ : Resolver) (call : CloudCall) (t : List Event)
    (a : call.Answer) : Prop :=
  ∀ e cause, s.EndedBy t a e cause → e.2.IsOverload →
    match meant e.2 with
    | some own => cause = own
    | none => Deferred cause

/-- An operation that fails over an overload fails as the reply says. -/
theorem Course.defers {meant : Reply → Option CloudError} {a : call.Answer}
    (course : s.Course r call t a)
    (means : ∀ q reply cause, Reply.IsOverload reply → s.fault q reply = some cause →
      match meant reply with
      | some own => cause = own
      | none => Deferred cause) : s.Defers meant r call t a :=
  fun e cause ended overload => means e.1 e.2 cause overload (course.cause_of_endedBy ended)

end Service

end Http

namespace Hetzner

open Http

/-- What a reply means that says that resources are exhausted. -/
def exhausted? : Reply → Option CloudError
  | .dropped => none
  | .response _ body =>
    match Json.decodeText errorReader body with
    | .ok (code, m) =>
      if ApiError.capacityCodes.contains code then some (.ofReason .insufficientResources m)
      else none
    | .error _ => none

theorem toCloud_of_overload {status : Nat} (overload : status = 429 ∨ 500 ≤ status)
    (code m : String) : (ApiError.api status code m).toCloud =
      if ApiError.capacityCodes.contains code then .ofReason .insufficientResources m
      else .api status m := by
  have authorized : ¬ (status = 401 ∨ status = 403) := by omega
  simp only [ApiError.toCloud, if_neg authorized]

theorem fault_of_overload (base : String) (q : Request) (reply : Reply) (cause : CloudError)
    (overload : reply.IsOverload) (failed : fault base q reply = some cause) :
    match exhausted? reply with
    | some own => cause = own
    | none => Deferred cause := by
  cases reply with
  | dropped => cases overload
  | response status body =>
    have refused : ¬ isSuccess status = true := by simp [not_isSuccess overload]
    have unread : ∀ code m : String, check (.response status body) = .error (.api status code m) →
        cause = if ApiError.capacityCodes.contains code then .ofReason .insufficientResources m
          else .api status m := by
      intro code m unread
      rw [fault_of_unread base unread, toCloud_of_overload overload] at failed
      exact (Option.some.inj failed).symm
    cases told : Json.decodeText errorReader body with
    | error e =>
      have plain : cause = .api status body :=
        unread "" body (by simp only [check, if_neg refused, told])
      simp only [exhausted?, told, plain]
      exact deferred_of_transient rfl
    | ok error =>
      obtain ⟨code, m⟩ := error
      have meant := unread code m (by simp only [check, if_neg refused, told])
      simp only [exhausted?, told]
      by_cases exhausted : ApiError.capacityCodes.contains code = true
      · rw [if_pos exhausted] at meant ⊢
        exact meant
      · rw [if_neg exhausted] at meant ⊢
        rw [meant]
        exact deferred_of_transient rfl

end Hetzner

namespace Vultr

open Http

theorem toCloud_of_overload {status : Nat} (overload : status = 429 ∨ 500 ≤ status) (m : String) :
    (ApiError.api status m).toCloud = .api status m := by
  have authorized : ¬ (status = 401 ∨ status = 403) := by omega
  have busy : ¬ (status < 500 ∧ status ≠ 429 ∧ ApiError.isCapacity m = true) := by
    rintro ⟨below, other, _⟩
    omega
  simp only [ApiError.toCloud, if_neg authorized, if_neg busy]

theorem fault_of_overload (base : String) (q : Request) (reply : Reply) (cause : CloudError)
    (overload : reply.IsOverload) (failed : fault base q reply = some cause) :
    Deferred cause := by
  cases reply with
  | dropped => cases overload
  | response status body =>
    have refused : ¬ isSuccess status = true := by simp [not_isSuccess overload]
    obtain ⟨m, unread⟩ : ∃ m, check (.response status body) = .error (.api status m) := by
      simp only [check, if_neg refused]
      cases Json.decodeText errorReader body with
      | ok m => exact ⟨m, rfl⟩
      | error e => exact ⟨body, rfl⟩
    rw [fault_of_unread base unread, toCloud_of_overload overload] at failed
    cases failed
    exact deferred_of_transient rfl

end Vultr

namespace Http.Service

/-- Whatever the API replies, no operation on Vultr that fails over an overload leaves a trace,
and none on Hetzner unless the reply says that resources are exhausted. -/
theorem overload_is_deferred (base : String) :
    (Hetzner.service base).Always ((Hetzner.service base).Defers Hetzner.exhausted?) ∧
      (Vultr.service base).Always ((Vultr.service base).Defers fun _ => none) := by
  constructor
  · exact always_of_course Hetzner.course_of_yields fun course =>
      course.defers (Hetzner.fault_of_overload base)
  · exact always_of_course Vultr.course_of_yields fun course =>
      course.defers (Vultr.fault_of_overload base)

end Http.Service

namespace Hetzner

open Http

namespace Exhaustion

def spec : MachineSpec where
  provider := some (.obj [("cloudProvider", .str "hetzner"), ("operatingSystem", .str "ubuntu"),
    ("cloudProviderSpec", .obj [("token", .str "key"), ("serverType", .str "cx22")])])

def reply : Reply :=
  .response 503 "\x7b\"error\":\x7b\"code\":\"resource_unavailable\",\"message\":\"busy\"\x7d\x7d"

/-- Every request is answered alike. -/
def peer (_ : Request) (_ : Unit) : Reply × Unit := (reply, ())

def validation : Exchange (CloudCall.validate spec).Answer := validate "" {} spec

theorem terminal : ∃ cause, (validation.run peer ()).1 = .error cause ∧
    cause.terminal? = some ⟨.insufficientResources, "busy"⟩ := by
  have told : (failure? (validation.run peer ()).1).bind CloudError.terminal? =
      some ⟨.insufficientResources, "busy"⟩ := by decide +kernel
  obtain ⟨cause, failed, means⟩ := Option.bind_eq_some_iff.mp told
  exact ⟨cause, failure?_eq_some.mp failed, means⟩

theorem asked_once : ∃ e, validation.transcript peer () = [e] ∧ e.2 = reply := by
  have single : (validation.transcript peer ()).length = 1 := by decide +kernel
  obtain ⟨e, only⟩ := List.length_eq_one_iff.mp single
  obtain ⟨_, answered⟩ := Program.answered validation ()
    (by rw [only]; exact List.mem_singleton.mpr rfl : e ∈ validation.transcript peer ())
  exact ⟨e, only, answered⟩

end Exhaustion

open Exhaustion in
/-- Status 503 does not keep a validation on Hetzner from ending for good. -/
theorem exhausted_overload_is_terminal :
    ¬ (service "").Always ((service "").Defers fun _ => none) := by
  intro always
  obtain ⟨cause, ends, means⟩ := terminal
  obtain ⟨e, only, answered⟩ := asked_once
  have ended : (service "").EndedBy (validation.transcript peer ()) (validation.run peer ()).1 e
      cause := by
    refine ⟨ends, .inl ?_, [], [], only, nofun⟩
    rw [answered]
    rfl
  have overload : e.2.IsOverload := by
    rw [answered]
    exact .inr (by decide)
  have deferred : Deferred cause := always Unit peer () {} (.validate spec) e cause ended overload
  cases means.symm.trans deferred.nonterminal

end Hetzner

end MachineFleet
