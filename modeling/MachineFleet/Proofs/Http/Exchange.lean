import MachineFleet.Cloud.Operation
import MachineFleet.Proofs.Outcome
import MachineFleet.Proofs.Program.Transcript

/-!
What an operation exchanges with a service, and what it ends in. The parts of an operation are
orderly: the first reply that is a failure is the last one, and the part ends in that failure.
-/

namespace MachineFleet

namespace Http

/-- A request with its reply. -/
abbrev Event : Type := Program.Event Request fun _ => Reply

end Http

/-- The failure that a result is, if it is one. -/
def failure? {α : Type} : Except CloudError α → Option CloudError
  | .ok _ => none
  | .error e => some e

theorem failure?_eq_some {α : Type} {r : Except CloudError α} {e : CloudError} :
    failure? r = some e ↔ r = .error e := by
  cases r <;> simp [failure?]

theorem failure?_map {ε α β : Type} (toCloud : ε → CloudError) (f : α → β) (x : Except ε α) :
    failure? ((x.map f).mapError toCloud) = failure? (x.mapError toCloud) := by
  cases x <;> rfl

/-- A result that is a failure is one of these. -/
def FailsAs {α : Type} (P : CloudError → Prop) (r : Except CloudError α) : Prop :=
  ∀ e, r = .error e → P e

namespace FailsAs

variable {ε α β : Type} {P : CloudError → Prop}

theorem ok (a : α) : FailsAs P (.ok a) := nofun

theorem error {e : CloudError} (holds : P e) : FailsAs P (.error e : Except CloudError α) := by
  rintro _ ⟨⟩
  exact holds

theorem recast {e : CloudError} (fails : FailsAs P (.error e : Except CloudError α)) :
    FailsAs P (.error e : Except CloudError β) :=
  error (fails e rfl)

theorem mapError {toCloud : ε → CloudError} (holds : ∀ e, P (toCloud e)) (x : Except ε α) :
    FailsAs P (x.mapError toCloud) := by
  cases x with
  | ok a => exact ok a
  | error e => exact error (holds e)

theorem bind {x : Except CloudError α} {f : α → Except CloudError β} (first : FailsAs P x)
    (rest : ∀ a, FailsAs P (f a)) : FailsAs P (x >>= f) := by
  cases x with
  | ok a => exact rest a
  | error e => exact first.recast

theorem payload (unread : ∀ m, P (.invalidConfiguration ("failed to parse " ++ m)))
    (name : String) (r : Json.Reader α) (spec : MachineSpec) :
    FailsAs P (ProviderConfig.requirePayload name r spec) := by
  refine .bind (.mapError (fun e => ?_) _) fun _ => .bind (.mapError (fun e => ?_) _) fun _ => .ok _
  · rw [show "failed to parse provider config: " = "failed to parse " ++ "provider config: " by
      decide, String.append_assoc]
    exact unread _
  · rw [String.append_assoc, String.append_assoc]
    exact unread _

end FailsAs

/-- Whatever went wrong, it is not that there is no instance. -/
def Definite {α : Type} (r : Except CloudError α) : Prop :=
  ∀ e, r = .error e → e.classify ≠ .notFound

namespace Definite

variable {ε α β : Type}

theorem ok (a : α) : Definite (.ok a) := nofun

theorem error {e : CloudError} (other : e.classify ≠ .notFound) :
    Definite (.error e : Except CloudError α) :=
  FailsAs.error other

theorem recast {e : CloudError} (definite : Definite (.error e : Except CloudError α)) :
    Definite (.error e : Except CloudError β) :=
  FailsAs.recast definite

theorem mapError {toCloud : ε → CloudError} (other : ∀ e, (toCloud e).classify ≠ .notFound)
    (x : Except ε α) : Definite (x.mapError toCloud) :=
  FailsAs.mapError other x

theorem bind {x : Except CloudError α} {f : α → Except CloudError β} (first : Definite x)
    (rest : ∀ a, Definite (f a)) : Definite (x >>= f) :=
  FailsAs.bind first rest

theorem resolved (x : Except ConfigError α) : Definite (x.mapError CloudError.config) :=
  mapError (fun _ h => by cases h) x

theorem payload (name : String) (r : Json.Reader α) (spec : MachineSpec) :
    Definite (ProviderConfig.requirePayload name r spec) :=
  FailsAs.payload (fun _ h => by cases h) name r spec

end Definite

namespace Operation

open Program Http

variable {ε α β : Type} {t : List Event}

theorem yields_bind {x : Operation α} {f : α → Operation β} {r : Except CloudError β}
    (h : Yields (x >>= f : Operation β) t r) :
    (∃ e, Yields x t (.error e) ∧ r = .error e) ∨
      ∃ a u v, t = u ++ v ∧ Yields x u (.ok a) ∧ Yields (f a) v r := by
  obtain ⟨outcome, u, v, rfl, hx, hf⟩ := Program.yields_bind (f := ExceptT.bindCont f) h
  cases outcome with
  | ok a => exact .inr ⟨a, u, v, rfl, hx, hf⟩
  | error e =>
    obtain ⟨rfl, rfl⟩ := yields_done hf
    rw [List.append_nil]
    exact .inl ⟨e, hx, rfl⟩

theorem yields_map {x : Operation α} {f : α → β} {r : Except CloudError β}
    (h : Yields (f <$> x : Operation β) t r) : ∃ o, Yields x t o ∧ r = o.map f := by
  rw [map_eq_pure_bind] at h
  rcases yields_bind h with ⟨e, hx, rfl⟩ | ⟨a, u, v, rfl, hx, hf⟩
  · exact ⟨_, hx, rfl⟩
  · obtain ⟨rfl, rfl⟩ := yields_done hf
    rw [List.append_nil]
    exact ⟨_, hx, rfl⟩

/-- A value that is there without a request only decides how to go on. -/
theorem yields_resolved {x : Except CloudError α} {f : α → Operation β} {r : Except CloudError β}
    (h : Yields (ofExcept x >>= f : Operation β) t r) :
    (∃ e, x = .error e ∧ t = [] ∧ r = .error e) ∨ ∃ a, x = .ok a ∧ Yields (f a) t r := by
  rcases yields_bind h with ⟨e, hx, hr⟩ | ⟨a, u, v, ht, hx, hf⟩
  · obtain ⟨none, failed⟩ := yields_done hx
    exact .inl ⟨e, failed.symm, none, hr⟩
  · obtain ⟨rfl, resolved⟩ := yields_done hx
    rw [List.nil_append] at ht
    exact .inr ⟨a, resolved.symm, ht ▸ hf⟩

/-- A request is made unless its secret cannot be sent. -/
theorem yields_send {q : Request} {read : Reply → α} {a : α}
    (h : Yields ((send q).bind fun reply => .done (read reply)) t a) :
    (isHeaderValue q.token = false ∧ t = [] ∧ a = read .dropped) ∨
      (isHeaderValue q.token = true ∧ ∃ reply, t = [⟨q, reply⟩] ∧ a = read reply) := by
  unfold send at h
  split at h
  · rename_i sendable
    obtain ⟨reply, u, rfl, hu⟩ := yields_ask h
    obtain ⟨rfl, rfl⟩ := yields_done hu
    exact .inr ⟨sendable, reply, rfl, rfl⟩
  · rename_i unsendable
    obtain ⟨rfl, rfl⟩ := yields_done h
    exact .inl ⟨by simpa using unsendable, rfl, rfl⟩

theorem yields_ofApi {toCloud : ε → CloudError} {x : Exchange (Except ε α)}
    {r : Except CloudError α} (h : Yields (ofApi toCloud x) t r) :
    ∃ a, Yields x t a ∧ r = a.mapError toCloud := by
  obtain ⟨a, u, v, rfl, hx, hr⟩ := Program.yields_bind h
  obtain ⟨rfl, rfl⟩ := yields_done hr
  rw [List.append_nil]
  exact ⟨a, hx, rfl⟩

/-- A request whose reply is read, and the failure to read it is one of the cloud. -/
theorem yields_call {toCloud : ε → CloudError} {q : Request} {read : Reply → Except ε α}
    {r : Except CloudError α}
    (h : Yields (ofApi toCloud ((send q).bind fun reply => .done (read reply))) t r) :
    (isHeaderValue q.token = false ∧ t = [] ∧ r = (read .dropped).mapError toCloud) ∨
      (isHeaderValue q.token = true ∧
        ∃ reply, t = [⟨q, reply⟩] ∧ r = (read reply).mapError toCloud) := by
  obtain ⟨a, asked, rfl⟩ := yields_ofApi h
  rcases yields_send asked with ⟨unsendable, rfl, rfl⟩ | ⟨sendable, reply, rfl, rfl⟩
  · exact .inl ⟨unsendable, rfl, rfl⟩
  · exact .inr ⟨sendable, reply, rfl, rfl⟩

theorem yields_observe {x : Exchange (Except ε α)} {r : Except CloudError (Except ε α)}
    (h : Yields (observe x) t r) : ∃ a, Yields x t a ∧ r = .ok a := by
  obtain ⟨a, u, v, rfl, hx, hr⟩ := Program.yields_bind h
  obtain ⟨rfl, rfl⟩ := yields_done hr
  rw [List.append_nil]
  exact ⟨a, hx, rfl⟩

/-- All requests are allowed. A reply that is a failure is the last one, and it is what the run
ends in. -/
structure Orderly (allowed : Request → Prop) (fault : Request → Reply → Option CloudError)
    (t : List Event) (r : Except CloudError α) : Prop where
  requests : ∀ e ∈ t, allowed e.1
  stops : ∀ u e v cause, t = u ++ e :: v → fault e.1 e.2 = some cause →
    v = [] ∧ r = .error cause
  definite : Definite r

variable {allowed : Request → Prop} {fault : Request → Reply → Option CloudError}

namespace Orderly

theorem nil {r : Except CloudError α} (definite : Definite r) : Orderly allowed fault [] r where
  requests := nofun
  stops := by
    intro u e v cause split
    cases u <;> cases split
  definite := definite

theorem single {r : Except CloudError α} {e : Event} (permitted : allowed e.1)
    (ends : ∀ cause, fault e.1 e.2 = some cause → r = .error cause) (definite : Definite r) :
    Orderly allowed fault [e] r where
  requests := by
    intro e' member
    rw [List.mem_singleton.mp member]
    exact permitted
  stops := by
    intro u e' v cause split failed
    rcases List.cons_eq_append_iff.mp split with ⟨rfl, same⟩ | ⟨u', rfl, tail⟩
    · cases same
      exact ⟨rfl, ends cause failed⟩
    · cases u' <;> cases tail
  definite := definite

/-- A part that has a result had no failure. -/
theorem sound {a : α} (orderly : Orderly allowed fault t (.ok a)) {e : Event} (member : e ∈ t) :
    fault e.1 e.2 = none := by
  obtain ⟨u, v, split⟩ := List.append_of_mem member
  cases failure : fault e.1 e.2 with
  | none => rfl
  | some cause => cases (orderly.stops u e v cause split failure).2

theorem append {u v : List Event} {a : α} {r : Except CloudError β}
    (first : Orderly allowed fault u (.ok a)) (rest : Orderly allowed fault v r) :
    Orderly allowed fault (u ++ v) r where
  requests e member := (List.mem_append.mp member).elim (first.requests e) (rest.requests e)
  stops := by
    intro before e after cause split failed
    rcases List.append_eq_append_iff.mp split with ⟨w, rfl, tail⟩ | ⟨w, early, tail⟩
    · exact rest.stops w e after cause tail failed
    · cases w with
      | nil => exact rest.stops [] e after cause tail.symm failed
      | cons e' w =>
        cases tail
        have member : e ∈ u := by
          rw [early]
          exact List.mem_append_right _ List.mem_cons_self
        cases (first.sound member).symm.trans failed
  definite := rest.definite

theorem recast {e : CloudError} (orderly : Orderly allowed fault t (.error e : Except _ α)) :
    Orderly allowed fault t (.error e : Except _ β) where
  requests := orderly.requests
  stops u e' v cause split failed := by
    obtain ⟨last, ends⟩ := orderly.stops u e' v cause split failed
    exact ⟨last, congrArg Except.error (Except.error.inj ends)⟩
  definite := orderly.definite.recast

theorem mono {allowed' : Request → Prop} {r : Except CloudError α}
    (orderly : Orderly allowed fault t r) (weaker : ∀ q, allowed q → allowed' q) :
    Orderly allowed' fault t r where
  requests e member := weaker e.1 (orderly.requests e member)
  stops := orderly.stops
  definite := orderly.definite

/-- Only whether there is a result counts, not which. -/
theorem forget {r : Except CloudError α} (orderly : Orderly allowed fault t r) :
    Orderly allowed fault t (r.map fun _ => ()) := by
  cases r with
  | error e => exact orderly.recast
  | ok a =>
    refine ⟨orderly.requests, fun u e v cause split failed => ?_, .ok ()⟩
    cases (orderly.stops u e v cause split failed).2

end Orderly

/-- Every run is orderly. -/
def IsOrderly (allowed : Request → Prop) (fault : Request → Reply → Option CloudError)
    (x : Operation α) : Prop :=
  ∀ t r, Yields x t r → Orderly allowed fault t r

theorem isOrderly_ofExcept {x : Except CloudError α} (definite : Definite x) :
    IsOrderly allowed fault (ofExcept x) := by
  intro t r h
  obtain ⟨rfl, rfl⟩ := yields_done h
  exact .nil definite

theorem isOrderly_pure (a : α) : IsOrderly allowed fault (pure a : Operation α) :=
  isOrderly_ofExcept (.ok a)

theorem isOrderly_throw {e : CloudError} (other : e.classify ≠ .notFound) :
    IsOrderly allowed fault (throw e : Operation α) :=
  isOrderly_ofExcept (.error other)

theorem isOrderly_bind {x : Operation α} {f : α → Operation β}
    (first : IsOrderly allowed fault x) (rest : ∀ a, IsOrderly allowed fault (f a)) :
    IsOrderly allowed fault (x >>= f : Operation β) := by
  intro t r h
  rcases yields_bind h with ⟨e, hx, rfl⟩ | ⟨a, u, v, rfl, hx, hf⟩
  · exact (first t _ hx).recast
  · exact (first u _ hx).append (rest a v r hf)

theorem isOrderly_map {x : Operation α} {f : α → β} (orderly : IsOrderly allowed fault x) :
    IsOrderly allowed fault (f <$> x : Operation β) := by
  rw [map_eq_pure_bind]
  exact isOrderly_bind orderly fun a => isOrderly_pure (f a)

theorem isOrderly_discard {x : Operation α} (orderly : IsOrderly allowed fault x) :
    IsOrderly allowed fault (discard x : Operation Unit) :=
  isOrderly_map orderly

theorem isOrderly_ask {toCloud : ε → CloudError} {q : Request} {read : Reply → Except ε α}
    (permitted : allowed q)
    (faults : ∀ reply, fault q reply = failure? ((read reply).mapError toCloud))
    (other : ∀ e, (toCloud e).classify ≠ .notFound) :
    IsOrderly allowed fault (ofApi toCloud ((send q).bind fun reply => .done (read reply))) := by
  intro t r h
  rcases yields_call h with ⟨_, rfl, rfl⟩ | ⟨_, reply, rfl, rfl⟩
  · exact .nil (.mapError other _)
  · refine .single permitted (fun cause failed => ?_) (.mapError other _)
    exact failure?_eq_some.mp ((faults reply).symm.trans failed)

end Operation

end MachineFleet
