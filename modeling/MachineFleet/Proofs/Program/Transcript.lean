import MachineFleet.Program

/-!
What a run of a program exchanges with whatever answers it. A program fixes which lists of
questions and answers can occur and what each of them ends in; a run has one of them.
-/

namespace MachineFleet.Program

variable {Q : Type} {A : Q → Type} {α β σ : Type}

abbrev Event (Q : Type) (A : Q → Type) : Type := (q : Q) × A q

/-- The questions of a run with their answers, in order. -/
def transcript (answer : (q : Q) → σ → A q × σ) : Program Q A α → σ → List (Event Q A)
  | done _, _ => []
  | ask q next, s => ⟨q, (answer q s).1⟩ :: (next (answer q s).1).transcript answer (answer q s).2

/-- Answered as listed, the program asks as listed and ends with the value. -/
inductive Yields : Program Q A α → List (Event Q A) → α → Prop where
  | done (a : α) : Yields (.done a) [] a
  | ask {q : Q} {next : A q → Program Q A α} {x : A q} {t : List (Event Q A)} {a : α} :
      Yields (next x) t a → Yields (.ask q next) (⟨q, x⟩ :: t) a

theorem yields_run (answer : (q : Q) → σ → A q × σ) (p : Program Q A α) (s : σ) :
    Yields p (p.transcript answer s) (p.run answer s).1 := by
  induction p generalizing s with
  | done a => exact .done a
  | ask q next ih => exact .ask (ih _ _)

theorem yields_done {a b : α} {t : List (Event Q A)} (h : Yields (.done a) t b) :
    t = [] ∧ b = a := by
  cases h
  exact ⟨rfl, rfl⟩

theorem yields_ask {q : Q} {next : A q → Program Q A α} {t : List (Event Q A)} {a : α}
    (h : Yields (.ask q next) t a) : ∃ x u, t = ⟨q, x⟩ :: u ∧ Yields (next x) u a := by
  cases h with
  | ask h => exact ⟨_, _, rfl, h⟩

theorem yields_bind {p : Program Q A α} {f : α → Program Q A β} {t : List (Event Q A)} {b : β}
    (h : Yields (p.bind f) t b) :
    ∃ a u v, t = u ++ v ∧ Yields p u a ∧ Yields (f a) v b := by
  induction p generalizing t with
  | done a => exact ⟨a, [], t, rfl, .done a, h⟩
  | ask q next ih =>
    obtain ⟨x, u, rfl, hu⟩ := yields_ask h
    obtain ⟨a, v, w, rfl, hv, hw⟩ := ih x hu
    exact ⟨a, ⟨q, x⟩ :: v, w, rfl, .ask hv, hw⟩

/-- The program asks nothing but these questions, whatever the answers are. -/
def Asks (questions : Q → Prop) : Program Q A α → Prop
  | done _ => True
  | ask q next => questions q ∧ ∀ a, (next a).Asks questions

/-- From one state to another by these questions with their answers. -/
inductive Traces (answer : (q : Q) → σ → A q × σ) : σ → List (Event Q A) → σ → Prop where
  | nil (s : σ) : Traces answer s [] s
  | cons {q : Q} {s s' : σ} {t : List (Event Q A)} (rest : Traces answer (answer q s).2 t s') :
      Traces answer s (⟨q, (answer q s).1⟩ :: t) s'

section Runs

variable {answer : (q : Q) → σ → A q × σ}

theorem traces_run (p : Program Q A α) (s : σ) :
    Traces answer s (p.transcript answer s) (p.run answer s).2 := by
  induction p generalizing s with
  | done a => exact .nil s
  | ask q next ih => exact .cons (ih _ _)

theorem Traces.append {s s' s'' : σ} {t u : List (Event Q A)} (first : Traces answer s t s')
    (second : Traces answer s' u s'') : Traces answer s (t ++ u) s'' := by
  induction first with
  | nil _ => exact second
  | cons _ ih => exact .cons (ih second)

theorem traces_nil {s s' : σ} (traces : Traces answer s [] s') : s' = s := by
  cases traces
  rfl

theorem traces_cons {q : Q} {x : A q} {s s' : σ} {t : List (Event Q A)}
    (traces : Traces answer s (⟨q, x⟩ :: t) s') :
    (answer q s).1 = x ∧ Traces answer (answer q s).2 t s' := by
  cases traces with
  | cons rest => exact ⟨rfl, rest⟩

/-- What the questions of a program keep true of the state. -/
theorem run_keeps_of_asks {questions : Q → Prop} {p : Program Q A α} (asks : p.Asks questions)
    (kept : σ → Prop) (step : ∀ q, questions q → ∀ s, kept s → kept (answer q s).2) (s : σ)
    (holds : kept s) : kept (p.run answer s).2 := by
  induction p generalizing s with
  | done a => exact holds
  | ask q next ih => exact ih _ (asks.2 _) _ (step q asks.1 s holds)

theorem asks_all (p : Program Q A α) : p.Asks fun _ => True := by
  induction p with
  | done a => exact trivial
  | ask q next ih => exact ⟨trivial, ih⟩

theorem run_keeps (kept : σ → Prop) (step : ∀ q s, kept s → kept (answer q s).2)
    (p : Program Q A α) (s : σ) (holds : kept s) : kept (p.run answer s).2 :=
  run_keeps_of_asks (asks_all p) kept (fun q _ => step q) s holds

/-- Each answer was given in some state. -/
theorem answered (p : Program Q A α) (s : σ) {e : Event Q A}
    (member : e ∈ p.transcript answer s) : ∃ s', e.2 = (answer e.1 s').1 := by
  induction p generalizing s with
  | done a => cases member
  | ask q next ih =>
    rcases List.mem_cons.mp member with rfl | later
    · exact ⟨s, rfl⟩
    · exact ih _ _ later

/-- What an answer makes true of the state, and later answers keep, is true of it in the end. -/
theorem run_recalls (known : σ → Event Q A → Prop)
    (told : ∀ q s, known (answer q s).2 ⟨q, (answer q s).1⟩)
    (kept : ∀ q s e, known s e → known (answer q s).2 e) (p : Program Q A α) (s : σ)
    {e : Event Q A} (member : e ∈ p.transcript answer s) : known (p.run answer s).2 e := by
  induction p generalizing s with
  | done a => cases member
  | ask q next ih =>
    rcases List.mem_cons.mp member with rfl | later
    · exact run_keeps (known · ⟨q, (answer q s).1⟩) (fun q' s' => kept q' s' _)
        (next (answer q s).1) _ (told q s)
    · exact ih _ _ later

end Runs

/-- Runs from states that are alike end alike if each question is answered alike. -/
theorem run_alike {answer : (q : Q) → σ → A q × σ} {questions : Q → Prop} {alike : σ → σ → Prop}
    (step : ∀ q, questions q → ∀ s s', alike s s' →
      (answer q s).1 = (answer q s').1 ∧ alike (answer q s).2 (answer q s').2)
    {p : Program Q A α} (asks : p.Asks questions) {s s' : σ} (before : alike s s') :
    (p.run answer s).1 = (p.run answer s').1 ∧
      alike (p.run answer s).2 (p.run answer s').2 := by
  induction p generalizing s s' with
  | done a => exact ⟨rfl, before⟩
  | ask q next ih =>
    obtain ⟨allowed, later⟩ := asks
    obtain ⟨same, after⟩ := step q allowed s s' before
    simp only [run, same]
    exact ih _ (later _) after

end MachineFleet.Program
