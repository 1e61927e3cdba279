import MachineFleet.Cloud.Operation

/-!
Programs that keep to a protocol. A protocol says which questions may be asked by one who knows
something, and what each answer teaches. A program follows it when every question it asks is
allowed by what the answers before have taught, whatever they were.
-/

namespace MachineFleet

namespace Program

variable {Q : Type} {A : Q → Type} {α β κ : Type}

/-- Which questions are allowed with some knowledge, with what their answers teach. -/
abbrev Protocol (κ Q : Type) (A : Q → Type) := κ → (q : Q) → (A q → κ) → Prop

variable {rule : Protocol κ Q A}

/-- The program asks allowed questions only, and its result fits what is known at the end. -/
def Follows (rule : Protocol κ Q A) (result : κ → α → Prop) : Program Q A α → κ → Prop
  | done a, k => result k a
  | ask q next, k => ∃ learn, rule k q learn ∧ ∀ a, (next a).Follows rule result (learn a)

theorem follows_mono {result result' : κ → α → Prop} {p : Program Q A α} {k : κ}
    (follows : p.Follows rule result k) (weaker : ∀ k a, result k a → result' k a) :
    p.Follows rule result' k := by
  induction p generalizing k with
  | done a => exact weaker k a follows
  | ask q next ih =>
    obtain ⟨learn, allowed, follows⟩ := follows
    exact ⟨learn, allowed, fun a => ih a (follows a)⟩

theorem follows_bind {middle : κ → α → Prop} {result : κ → β → Prop} {p : Program Q A α}
    {f : α → Program Q A β} {k : κ} (first : p.Follows rule middle k)
    (rest : ∀ k a, middle k a → (f a).Follows rule result k) :
    (p.bind f).Follows rule result k := by
  induction p generalizing k with
  | done a => exact rest k a first
  | ask q next ih =>
    obtain ⟨learn, allowed, follows⟩ := first
    exact ⟨learn, allowed, fun a => ih a (follows a)⟩

end Program

namespace Operation

open Program

variable {ε α β κ : Type} {rule : Protocol κ Http.Request fun _ => Http.Reply}
  {result : κ → Except CloudError β → Prop} {k : κ}

theorem follows_bind {middle : κ → Except CloudError α → Prop} {x : Operation α}
    {f : α → Operation β} (first : Follows rule middle x k)
    (rest : ∀ k a, middle k (.ok a) → Follows rule result (f a) k)
    (fails : ∀ k e, middle k (.error e) → result k (.error e)) :
    Follows rule result (x >>= f : Operation β) k := by
  refine Program.follows_bind (f := ExceptT.bindCont f) first ?_
  intro k outcome holds
  cases outcome with
  | ok a => exact rest k a holds
  | error e => exact fails k e holds

theorem follows_map {middle : κ → Except CloudError α → Prop} {x : Operation α} {f : α → β}
    (first : Follows rule middle x k) (rest : ∀ k a, middle k (.ok a) → result k (.ok (f a)))
    (fails : ∀ k e, middle k (.error e) → result k (.error e)) :
    Follows rule result (f <$> x : Operation β) k := by
  rw [map_eq_pure_bind]
  exact follows_bind first rest fails

theorem follows_resolved {x : Except CloudError α} {f : α → Operation β}
    (rest : ∀ a, x = .ok a → Follows rule result (f a) k)
    (fails : ∀ e, x = .error e → result k (.error e)) :
    Follows rule result (ofExcept x >>= f : Operation β) k := by
  cases x with
  | ok a => exact rest a rfl
  | error e => exact fails e rfl

theorem follows_ofApi {toCloud : ε → CloudError} {x : Http.Exchange (Except ε β)}
    (follows : x.Follows rule (fun k r => result k (r.mapError toCloud)) k) :
    Follows rule result (ofApi toCloud x) k := by
  refine Program.follows_bind follows ?_
  intro k r holds
  exact holds

theorem follows_observe {middle : κ → Except CloudError (Except ε α) → Prop}
    {x : Http.Exchange (Except ε α)}
    (follows : x.Follows rule (fun k r => middle k (.ok r)) k) :
    Follows rule middle (observe x) k := by
  refine Program.follows_bind follows ?_
  intro k r holds
  exact holds

/-- An exchange that sends one request. Where the secret cannot be sent, nothing is learnt. -/
theorem follows_send {request : Http.Request} {read : Http.Reply → α} {result : κ → α → Prop}
    {learn : Http.Reply → κ} (allowed : rule k request learn)
    (fits : ∀ reply, result (learn reply) (read reply)) (unsent : result k (read .dropped)) :
    ((Http.send request).bind fun reply => .done (read reply)).Follows rule result k := by
  unfold Http.send
  split
  · exact ⟨learn, allowed, fits⟩
  · exact unsent

end Operation

end MachineFleet
