import MachineFleet.Proofs.Http.Service

/-!
APIs with a catalogue that does not change. A validation that succeeds there anticipates a
creation if the creation gets as far as the request for the machine's record, and asks in it for
what the validation has found.
-/

namespace MachineFleet.Http.Service

open Program

variable (s : Service)

/-- Whatever is looked up, and however often, is answered out of the catalogue. -/
def Offers {σ : Type} (peer : Request → σ → Reply × σ) (catalogue : Request → Reply) : Prop :=
  ∀ q now, s.LooksUp q → (peer q now).1 = catalogue q

/-- The API has no record of the machine, and takes what is put up before one is made. -/
structure Vacant {σ : Type} (peer : Request → σ → Reply × σ) (r : Resolver) (m : Machine) :
    Prop where
  unowned : ∀ c now, s.config r m.spec = .ok c →
    s.found m.uid (peer (s.search c m.uid) now).1 = some []
  accepts : ∀ q now, q.method = .post → ¬ s.Creates q → s.fault q (peer q now).1 = none

/-- An exchange with such an API. -/
structure Welcomes (catalogue : Request → Reply) (c : s.Config) (uid : String) (e : Event) :
    Prop where
  lookup : s.LooksUp e.1 → e.2 = catalogue e.1
  unowned : e.1 = s.search c uid → s.found uid e.2 = some []
  accepts : e.1.method = .post → ¬ s.Creates e.1 → s.fault e.1 e.2 = none

/-- Validations and creations agree: where the one finds a choice, the other asks for it. -/
structure Agreement (Choice : Type) where
  /-- The events of a validation find what is configured to be the choice. -/
  Finds : s.Config → Choice → List Event → Prop
  /-- The body of a creation asks for the choice. -/
  Names : Choice → Json → Prop

/-- What a validation finds in the catalogue is what a creation on the same specification asks
for, on an API with the same catalogue and no record of the machine. -/
def Anticipates {Choice : Type} (agreement : s.Agreement Choice) : Prop :=
  ∀ {σ τ : Type} (peer : Request → σ → Reply × σ) (now : σ) (peer' : Request → τ → Reply × τ)
    (now' : τ) (catalogue : Request → Reply) (r : Resolver) (m : Machine) (script : String),
    s.Offers peer catalogue → s.Offers peer' catalogue → s.Vacant peer' r m →
    ((s.answer r (.validate m.spec)).run peer now).1 = .ok () →
    ∃ c choice, s.config r m.spec = .ok c ∧
      agreement.Finds c choice ((s.answer r (.validate m.spec)).transcript peer now) ∧
      ∃ e ∈ (s.answer r (.create m script)).transcript peer' now', s.Creates e.1 ∧
        ∃ body, e.1.body = some body ∧ agreement.Names choice body

variable {s} {σ : Type} {peer : Request → σ → Reply × σ} {now : σ} {catalogue : Request → Reply}

theorem Offers.answered {α : Type} {x : Exchange α} (offers : s.Offers peer catalogue) {e : Event}
    (member : e ∈ x.transcript peer now) (looks : s.LooksUp e.1) : e.2 = catalogue e.1 := by
  obtain ⟨now', told⟩ := Program.answered x now member
  rw [told]
  exact offers e.1 now' looks

theorem Vacant.welcomes {α : Type} {x : Exchange α} {r : Resolver} {m : Machine} {c : s.Config}
    (vacant : s.Vacant peer r m) (offers : s.Offers peer catalogue)
    (resolved : s.config r m.spec = .ok c) {e : Event} (member : e ∈ x.transcript peer now) :
    s.Welcomes catalogue c m.uid e := by
  refine ⟨offers.answered member, fun searched => ?_, fun post other => ?_⟩
  · obtain ⟨now', told⟩ := Program.answered x now member
    rw [told, searched]
    exact vacant.unowned c now' resolved
  · obtain ⟨now', told⟩ := Program.answered x now member
    rw [told]
    exact vacant.accepts e.1 now' post other

/-- On an API that has no record of the machine, a search finds none. -/
theorem none_of_unowned {c : s.Config} {uid : String} {ε : Type} {toCloud : ε → CloudError}
    {read : Reply → Except ε (List s.Record)}
    (reads : ∀ reply, s.found uid reply = (read reply).toOption)
    (sendable : isHeaderValue (s.token c) = true) {t : List Event}
    (unowned : ∀ e ∈ t, e.1 = s.search c uid → s.found uid e.2 = some [])
    {o : Except CloudError (Option s.Record)}
    (h : Yields (Operation.ofApi toCloud ((send (s.search c uid)).bind fun reply =>
      .done (read reply)) >>= fun rs => pure rs.head? : Operation (Option s.Record)) t o) :
    o = .ok none := by
  have listed : ∀ reply, s.found uid reply = some [] →
      (read reply).mapError toCloud = .ok [] := by
    intro reply none
    rw [reads reply] at none
    cases told : read reply with
    | error e =>
      rw [told] at none
      cases none
    | ok rs =>
      rw [told] at none
      cases none
      rfl
  rcases Operation.yields_bind h with ⟨e, asked, rfl⟩ | ⟨rs, u, v, rfl, asked, first⟩
  · rcases Operation.yields_call asked with ⟨unsendable, _, _⟩ | ⟨_, reply, rfl, failed⟩
    · cases sendable.symm.trans unsendable
    · rw [listed reply (unowned _ List.mem_cons_self rfl)] at failed
      cases failed
  · rcases Operation.yields_call asked with ⟨unsendable, _, _⟩ | ⟨_, reply, rfl, resulted⟩
    · cases sendable.symm.trans unsendable
    · rw [listed reply (unowned _ (List.mem_append_left _ List.mem_cons_self) rfl)] at resulted
      cases resulted
      exact (yields_done first).2

end MachineFleet.Http.Service
