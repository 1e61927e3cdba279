import MachineFleet.Proofs.Fleet.World

/-!
Runs that are put together step by step. What an exchange does first is looked up in it, so that
a run can be followed without writing its continuations down.
-/

namespace MachineFleet

namespace Http.Exchange

variable {α : Type}

/-- The exchange once its first request has been replied to. -/
def resume (reply : Reply) : Exchange α → Exchange α
  | .done a => .done a
  | .ask _ next => next reply

def request? : Exchange α → Option Request
  | .done _ => none
  | .ask request _ => some request

def result? : Exchange α → Option α
  | .done a => some a
  | .ask _ _ => none

theorem eq_done {x : Exchange α} {a : α} (ends : x.result? = some a) : x = .done a := by
  cases x with
  | done b =>
    cases ends
    rfl
  | ask request next => cases ends

theorem eq_done_ok {ε : Type} [DecidableEq α] {x : Exchange (Except ε α)} {a : α}
    (ends : (x.result?.any fun outcome => decide (outcome.toOption = some a)) = true) :
    x = .done (.ok a) := by
  obtain ⟨outcome, ended, same⟩ := (Option.any_eq_true _ _).mp ends
  have same : outcome.toOption = some a := of_decide_eq_true same
  cases outcome with
  | error e => cases same
  | ok b =>
    cases same
    exact eq_done ended

end Http.Exchange

namespace World

open Http

variable {c : Cloud} {ι : Type} [DecidableEq ι] {words : Option ι → String → Prop}
  {w w' : World c ι} {i : ι} {call : CloudCall} {x : Exchange call.Answer}

theorem Run.start (run : Run words w w') (i : ι) (call : CloudCall) (r : Resolver)
    (idle : (w'.agents i).activity = .idle) (admitted : w'.Admits words i call) :
    Run words w (w'.set i
      { (w'.agents i).asked call with activity := .running call (c.answer r call) }) :=
  run.tail ⟨some i, .start r idle admitted⟩

theorem Run.request {q : Request} {reply : Reply} {after : List c.Record} (run : Run words w w')
    (running : (w'.agents i).activity = .running call x) (asks : x.request? = some q)
    (serves : c.Serves q w'.records reply after) :
    Run words w ((w'.served i after).set i
      { w'.agents i with activity := .running call (x.resume reply) }) := by
  cases x with
  | done a => cases asks
  | ask q' next =>
    cases asks
    exact run.tail ⟨some i, .request running serves⟩

theorem Run.finish {a : call.Answer} (run : Run words w w')
    (running : (w'.agents i).activity = .running call x) (ends : x.result? = some a) :
    Run words w (w'.set i ((w'.agents i).settled call a)) := by
  rw [Exchange.eq_done ends] at running
  exact run.tail ⟨some i, .finish running⟩

end World

end MachineFleet
