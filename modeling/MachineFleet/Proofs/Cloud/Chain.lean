import Mathlib.Data.List.Basic
import MachineFleet.Proofs.Cloud.Error

/-!
The chain of a failure, and the terminal failure in it. Every error leads to the one that it wraps,
but the failure of a cloud that wraps a cause stands in the place of that cause and leads to what
the cause wraps. A walk from the failure therefore never meets the head of the cause. A search along
the cause does, so the two differ where the terminal failure is that head, and nowhere else.
-/

namespace MachineFleet

/-- An error as a walk meets it. -/
inductive Link where
  | plain
  | terminal (t : TerminalError)
  | cloud (e : CloudError)

def Link.terminal? : Link → Option TerminalError
  | .terminal t => some t
  | .cloud (.terminal t) => some t
  | _ => none

mutual

/-- A cause and the errors behind it, the outermost first. -/
def Failure.chain : Failure → List Link
  | .text _ => [.plain]
  | .terminal t => [.terminal t]
  | .cloud e => .cloud e :: e.sources
  | .transport => [.plain]
  | .context _ f => .plain :: f.chain

/-- The errors behind a failure. What it stands for is not among them. -/
def CloudError.sources : CloudError → List Link
  | .config _ => [.plain]
  | .spec _ => [.plain]
  | .transient f => f.chain.tail
  | _ => []

end

def CloudError.chain (e : CloudError) : List Link := .cloud e :: e.sources

namespace Link

/-- The first terminal failure on a walk. -/
def walk (links : List Link) : Option TerminalError := links.findSome? terminal?

/-- The first terminal failure on the walks from each error of a chain. -/
def search (links : List Link) : Option TerminalError := links.tails.findSome? walk

theorem search_eq_walk (links : List Link) : search links = walk links := by
  induction links with
  | nil => rfl
  | cons l rest ih =>
    unfold search at ih ⊢
    rw [List.tails, List.findSome?_cons, ih]
    cases found : walk (l :: rest) with
    | some t => rfl
    | none =>
      -- A walk that finds nothing has passed all that is behind its start.
      have behind : walk (l :: rest) = (l.terminal?).or (walk rest) := by
        unfold walk
        rw [List.findSome?_cons]
        cases l.terminal? <;> rfl
      rw [behind] at found
      exact (Option.or_eq_none_iff.mp found).2

end Link

open Link

mutual

theorem Failure.terminal?_eq : ∀ f : Failure, f.terminal? = walk f.chain
  | .text _ => rfl
  | .terminal _ => rfl
  | .cloud e => CloudError.found?_eq e
  | .transport => rfl
  | .context _ f => Failure.terminal?_eq f

theorem Failure.below?_eq : ∀ f : Failure, f.below? = walk f.chain.tail
  | .text _ => rfl
  | .terminal _ => rfl
  | .cloud e => CloudError.below?_eq e
  | .transport => rfl
  | .context _ f => Failure.terminal?_eq f

theorem CloudError.found?_eq : ∀ e : CloudError, e.found? = walk e.chain
  | .terminal _ => rfl
  | .instanceNotFound => rfl
  | .providerNotFound _ => rfl
  | .config _ => rfl
  | .spec _ => rfl
  | .api _ _ => rfl
  | .transient f => Failure.below?_eq f

theorem CloudError.below?_eq : ∀ e : CloudError, e.below? = walk e.sources
  | .terminal _ => rfl
  | .instanceNotFound => rfl
  | .providerNotFound _ => rfl
  | .config _ => rfl
  | .spec _ => rfl
  | .api _ _ => rfl
  | .transient f => Failure.below?_eq f

end

/-- The terminal failure that a cause begins with. -/
def Failure.head? : Failure → Option TerminalError
  | .terminal t => some t
  | .cloud (.terminal t) => some t
  | _ => none

theorem Failure.terminal?_eq_or (f : Failure) : f.terminal? = f.head?.or f.below? := by
  cases f with
  | cloud e => cases e <;> rfl
  | _ => rfl

theorem Failure.below?_of_head {f : Failure} {t : TerminalError} (head : f.head? = some t) :
    f.below? = none := by
  cases f with
  | terminal t => rfl
  | cloud e => cases e with
    | terminal t => rfl
    | _ => cases head
  | _ => cases head

namespace CloudError

/-- The terminal failure that this one stands for. -/
def masked? : CloudError → Option TerminalError
  | .transient f => f.head?
  | _ => none

/-- The failure as the cause of another one, with contexts around it. -/
def enclosed (e : CloudError) (contexts : List String) : CloudError :=
  .transient (contexts.foldl (fun f m => .context m f) (.cloud e))

/-- Walk, search and class agree on a terminal failure, and it is still there when the failure has
been enclosed. -/
structure Coherent (e : CloudError) : Prop where
  found : e.found? = e.terminal?
  classed : e.found?.isSome = true ↔ e.classify = .terminal
  kept : ∀ contexts, (e.enclosed contexts).terminal? = e.terminal?

/-- What walk, search and class tell of a failure. -/
structure Tells (e : CloudError) : Prop where
  walks : e.found? = walk e.chain
  searches : ∀ f, e = .transient f → e.terminal? = search f.chain
  coherent_iff : e.Coherent ↔ e.masked? = none ∧ ∀ name, e ≠ .providerNotFound name
  masked : ∀ t, e.masked? = some t →
    e.found? = none ∧ e.terminal? = some t ∧ e.classify = .terminal
  enclosed : ∀ contexts, (e.enclosed contexts).terminal? = e.found?

theorem terminal?_enclosed (e : CloudError) (contexts : List String) :
    (e.enclosed contexts).terminal? = e.found? := by
  have layers : ∀ f : Failure,
      (contexts.foldl (fun f m => .context m f) f).terminal? = f.terminal? := by
    induction contexts with
    | nil => exact fun _ => rfl
    | cons m rest ih => exact fun f => ih (.context m f)
  exact layers (.cloud e)

theorem found?_of_masked {e : CloudError} {t : TerminalError} (masked : e.masked? = some t) :
    e.found? = none ∧ e.terminal? = some t := by
  cases e with
  | transient f =>
    refine ⟨f.below?_of_head masked, ?_⟩
    show f.terminal? = some t
    rw [f.terminal?_eq_or, show f.head? = some t from masked]
    rfl
  | _ => cases masked

theorem found?_eq_terminal? {e : CloudError} (shown : e.masked? = none)
    (builtIn : ∀ name, e ≠ .providerNotFound name) : e.found? = e.terminal? := by
  cases e with
  | providerNotFound name => exact absurd rfl (builtIn name)
  | transient f =>
    show f.below? = f.terminal?
    rw [f.terminal?_eq_or, show f.head? = none from shown]
    rfl
  | _ => rfl

theorem coherent_iff (e : CloudError) :
    e.Coherent ↔ e.masked? = none ∧ ∀ name, e ≠ .providerNotFound name := by
  constructor
  · intro coherent
    constructor
    · cases masked : e.masked? with
      | none => rfl
      | some t =>
        obtain ⟨passed, there⟩ := found?_of_masked masked
        cases (passed.symm.trans coherent.found).trans there
    · rintro name rfl
      cases coherent.found
  · rintro ⟨shown, builtIn⟩
    have found : e.found? = e.terminal? := found?_eq_terminal? shown builtIn
    constructor
    case found => exact found
    case classed => rw [found, classify_terminal_iff]
    case kept => exact fun contexts => (terminal?_enclosed e contexts).trans found

/-- For every failure, however causes, contexts and failures are nested in it: the walk finds what
the search finds, and enclosing it loses nothing, unless the failure stands for a terminal one. Then
the class and the search tell of that, and the walk and the enclosed failure do not. -/
theorem terminal_failures_are_told (e : CloudError) : e.Tells := by
  constructor
  case walks => exact e.found?_eq
  case searches =>
    rintro f rfl
    rw [search_eq_walk]
    exact f.terminal?_eq
  case coherent_iff => exact e.coherent_iff
  case masked =>
    intro t masked
    obtain ⟨passed, there⟩ := found?_of_masked masked
    exact ⟨passed, there, e.classify_terminal_iff.mpr (by rw [there]; rfl)⟩
  case enclosed => exact e.terminal?_enclosed

/-- A transient failure whose cause is nothing but a terminal one. -/
theorem bare_cause_is_passed_over :
    ¬ ∀ e : CloudError, (∀ name, e ≠ .providerNotFound name) → e.Coherent := by
  intro coherent
  have found := (coherent (.transient (.terminal ⟨.insufficientResources, "no stock"⟩))
    (fun _ same => by cases same)).found
  cases found

end CloudError

end MachineFleet
