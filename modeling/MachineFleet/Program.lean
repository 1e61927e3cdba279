/-!
Computations that ask questions. A program is a tree: it is done, or it asks a question and goes
on with the answer. What answers is not part of it, so one program can be run against a list of
replies, against a store, or against anything that may interfere between two questions.
-/

namespace MachineFleet

/-- A computation of an `α` that asks questions of `Q`, each with its type of answers. -/
inductive Program (Q : Type) (A : Q → Type) (α : Type) : Type where
  | done (a : α)
  | ask (q : Q) (next : A q → Program Q A α)

namespace Program

variable {Q : Type} {A : Q → Type} {α β γ : Type}

def bind : Program Q A α → (α → Program Q A β) → Program Q A β
  | done a, f => f a
  | ask q next, f => ask q fun x => (next x).bind f

instance : Monad (Program Q A) where
  pure := done
  bind := bind

def query (q : Q) : Program Q A (A q) := ask q done

def run {σ : Type} (answer : (q : Q) → σ → A q × σ) : Program Q A α → σ → α × σ
  | done a, s => (a, s)
  | ask q next, s => (next (answer q s).1).run answer (answer q s).2

@[simp] theorem bind_done (p : Program Q A α) : p.bind done = p := by
  induction p with
  | done a => rfl
  | ask q next ih => simp only [bind, ih]

theorem bind_assoc (p : Program Q A α) (f : α → Program Q A β) (g : β → Program Q A γ) :
    (p.bind f).bind g = p.bind fun a => (f a).bind g := by
  induction p with
  | done a => rfl
  | ask q next ih => simp only [bind, ih]

instance : LawfulMonad (Program Q A) :=
  LawfulMonad.mk' _ (fun p => bind_done p) (fun _ _ => rfl) (fun p f g => bind_assoc p f g)

theorem run_bind {σ : Type} (answer : (q : Q) → σ → A q × σ) (p : Program Q A α)
    (f : α → Program Q A β) (s : σ) :
    (p.bind f).run answer s = (f (p.run answer s).1).run answer (p.run answer s).2 := by
  induction p generalizing s with
  | done a => rfl
  | ask q next ih => simp only [bind, run, ih]

end Program

end MachineFleet
