import MachineFleet.Cloud.Operation
import MachineFleet.Config.Resolver
import Mathlib.Logic.Function.Basic
import Mathlib.Logic.Relation

/-!
Machines that share the account of one cloud. The cloud keeps records with marks on them, and a
machine finds its record by a mark with its UID. Each machine has one operation at a time; between
the requests of one machine any number of requests of others may be served.
-/

namespace MachineFleet

/-- The reply is no success, or there is none. -/
def Http.Reply.Failed : Http.Reply → Prop
  | .dropped => True
  | .response status _ => Http.isSuccess status = false

/-- A cloud: the records of its account, what a request does to them, and the operations. -/
structure Cloud where
  Record : Type
  Id : Type
  Marks : Type
  [decideId : DecidableEq Id]
  id : Record → Id
  marks : Record → Marks
  /-- A search for the UID finds a record with these marks. -/
  carries : Marks → String → Prop
  /-- The marks with the second UID for the first one. -/
  renamed : Marks → String → String → Marks
  snapshot : Record → Instance
  /-- A request that is carried out, with the truthful reply. -/
  effect : Http.Request → List Record → Http.Reply → List Record → Prop
  /-- The marks that a specification asks for beside the UID. -/
  asks : MachineSpec → String → Prop
  answer : Resolver → (call : CloudCall) → Http.Exchange call.Answer

attribute [instance] Cloud.decideId

/-- Requests are atomic. The reply to one that was carried out may be lost, and a request may fail
without being carried out. -/
inductive Cloud.Serves (c : Cloud) :
    Http.Request → List c.Record → Http.Reply → List c.Record → Prop where
  | answered {request : Http.Request} {before after : List c.Record} {reply : Http.Reply}
      (effect : c.effect request before reply after) : Serves c request before reply after
  | lost {request : Http.Request} {before after : List c.Record} {told reply : Http.Reply}
      (effect : c.effect request before told after) (failed : reply.Failed) :
      Serves c request before reply after
  | refused {request : Http.Request} {before : List c.Record} {reply : Http.Reply}
      (failed : reply.Failed) : Serves c request before reply before

/-- An operation that is under way, with the part of it that is left. -/
inductive Activity where
  | idle
  | running (call : CloudCall) (rest : Http.Exchange call.Answer)

/-- A machine as those who run its operations see it. -/
structure Agent where
  uid : String
  /-- The UIDs that it had before. -/
  former : List String := []
  /-- The UID to which it is being migrated. -/
  target : Option String := none
  activity : Activity := .idle

namespace Agent

def GoesBy (a : Agent) (uid : String) : Prop := uid = a.uid ∨ a.target = some uid

def HasHad (a : Agent) (uid : String) : Prop := a.GoesBy uid ∨ uid ∈ a.former

def asked (a : Agent) : CloudCall → Agent
  | .migrateUid _ newUid => { a with target := some newUid }
  | _ => a

/-- The machine once an operation has ended: only a migration that succeeded changes it. -/
def settled (a : Agent) : (call : CloudCall) → call.Answer → Agent
  | .migrateUid _ newUid, .ok _ => { uid := newUid, former := a.uid :: a.former }
  | _, _ => { a with activity := .idle }

end Agent

/-- The account together with the machines. `maker` is the machine for which a record was made. -/
structure World (c : Cloud) (ι : Type) where
  records : List c.Record
  maker : c.Id → Option ι
  agents : ι → Agent

namespace World

variable {c : Cloud} {ι : Type} [DecidableEq ι]

def set (w : World c ι) (i : ι) (a : Agent) : World c ι :=
  { w with agents := Function.update w.agents i a }

def served (w : World c ι) (i : ι) (after : List c.Record) : World c ι where
  records := after
  maker := fun id =>
    if id ∈ after.map c.id ∧ id ∉ w.records.map c.id then some i else w.maker id
  agents := w.agents

/-- No machine has or had the UID or is about to have it, and no other asks for it as a mark. -/
def Fresh (words : Option ι → String → Prop) (w : World c ι) (i : ι) (uid : String) : Prop :=
  (∀ j, ¬ (w.agents j).HasHad uid) ∧ ∀ o, words o uid → o = some i

/-- The operations that may begin. A migration is repeated until it succeeds, and the machine is
left alone in between. The marks that a specification asks for are among the `words` of the
machine. -/
def Admits (words : Option ι → String → Prop) (w : World c ι) (i : ι) : CloudCall → Prop
  | .get m => m.uid = (w.agents i).uid ∧ (w.agents i).target = none
  | .create m _ => m.uid = (w.agents i).uid ∧ (w.agents i).target = none ∧
      ∀ t, c.asks m.spec t → words (some i) t
  | .cleanup m => m.uid = (w.agents i).uid ∧ (w.agents i).target = none
  | .migrateUid m newUid => m.uid = (w.agents i).uid ∧ ((w.agents i).target = some newUid ∨
      (w.agents i).target = none ∧ w.Fresh words i newUid)
  | _ => False

/-- One step of the world, by a machine or, without one, by the cloud on its own. -/
inductive Step (words : Option ι → String → Prop) :
    Option ι → World c ι → World c ι → Prop where
  | start {w : World c ι} {i : ι} {call : CloudCall} (r : Resolver)
      (idle : (w.agents i).activity = .idle) (admitted : w.Admits words i call) :
      Step words (some i) w (w.set i
        { (w.agents i).asked call with activity := .running call (c.answer r call) })
  | request {w : World c ι} {i : ι} {call : CloudCall} {q : Http.Request}
      {next : Http.Reply → Http.Exchange call.Answer} {reply : Http.Reply} {after : List c.Record}
      (asking : (w.agents i).activity = .running call (.ask q next))
      (serves : c.Serves q w.records reply after) :
      Step words (some i) w ((w.served i after).set i
        { w.agents i with activity := .running call (next reply) })
  | finish {w : World c ι} {i : ι} {call : CloudCall} {a : call.Answer}
      (ended : (w.agents i).activity = .running call (.done a)) :
      Step words (some i) w (w.set i ((w.agents i).settled call a))
  /-- The operation is given up where it stands. -/
  | abandon {w : World c ι} {i : ι} {call : CloudCall} {rest : Http.Exchange call.Answer}
      (running : (w.agents i).activity = .running call rest) :
      Step words (some i) w (w.set i { w.agents i with activity := .idle })
  /-- Records change in what is neither identifier nor marks. -/
  | drift {w : World c ι} {after : List c.Record}
      (alike : after.map (fun s => (c.id s, c.marks s)) =
        w.records.map fun s => (c.id s, c.marks s)) :
      Step words none w { w with records := after }

def Run (words : Option ι → String → Prop) : World c ι → World c ι → Prop :=
  Relation.ReflTransGen fun w w' => ∃ actor, Step words actor w w'

@[simp] theorem set_records (w : World c ι) (i : ι) (a : Agent) :
    (w.set i a).records = w.records :=
  rfl

@[simp] theorem set_maker (w : World c ι) (i : ι) (a : Agent) : (w.set i a).maker = w.maker :=
  rfl

@[simp] theorem set_agents_self (w : World c ι) (i : ι) (a : Agent) : (w.set i a).agents i = a := by
  simp only [set, Function.update_self]

@[simp] theorem set_agents_of_ne (w : World c ι) {i j : ι} (a : Agent) (h : j ≠ i) :
    (w.set i a).agents j = w.agents j := by
  simp only [set, Function.update_of_ne h]

omit [DecidableEq ι] in
@[simp] theorem served_records (w : World c ι) (i : ι) (after : List c.Record) :
    (w.served i after).records = after :=
  rfl

omit [DecidableEq ι] in
@[simp] theorem served_agents (w : World c ι) (i : ι) (after : List c.Record) :
    (w.served i after).agents = w.agents :=
  rfl

omit [DecidableEq ι] in
theorem served_maker_of_mem {w : World c ι} {s : c.Record} (i : ι) (after : List c.Record)
    (member : s ∈ w.records) : (w.served i after).maker (c.id s) = w.maker (c.id s) := by
  have known : c.id s ∈ w.records.map c.id := List.mem_map_of_mem member
  simp only [served, known, not_true_eq_false, and_false, if_false]

omit [DecidableEq ι] in
theorem served_maker_of_new {w : World c ι} {s : c.Record} (i : ι) {after : List c.Record}
    (member : s ∈ after) (new : c.id s ∉ w.records.map c.id) :
    (w.served i after).maker (c.id s) = some i := by
  have present : c.id s ∈ after.map c.id := List.mem_map_of_mem member
  simp only [served, present, new, not_false_eq_true, and_self, if_true]

omit [DecidableEq ι] in
theorem served_self (w : World c ι) (i : ι) : w.served i w.records = w := by
  have same : (w.served i w.records).maker = w.maker := by
    funext id
    simp only [served, and_not_self_iff, if_false]
  simpa only [served] using congrArg (fun m => World.mk w.records m w.agents) same

end World

end MachineFleet
