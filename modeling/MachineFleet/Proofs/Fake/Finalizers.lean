import MachineFleet.Proofs.Dict
import MachineFleet.Fake
import Mathlib.Logic.Function.Basic

/-!
The finalizer that tells of an instance in memory. Saving a machine can fail at any call, so a
creation saves the finalizer before there is an instance, and a clean-up removes the instance before
it saves the machine without the finalizer. At no time is there an instance that no finalizer tells
of.
-/

namespace MachineFleet

namespace Machine

variable (m : Machine) (f : String)

theorem hasFinalizer_eq : m.hasFinalizer f = (m.metadata.finalizers.getD []).contains f := by
  unfold hasFinalizer
  cases m.metadata.finalizers <;> rfl

theorem hasFinalizer_addFinalizer : (m.addFinalizer f).hasFinalizer f = true := by
  unfold addFinalizer
  split
  · assumption
  · simp [hasFinalizer_eq, withFinalizers]

@[simp] theorem uid_addFinalizer : (m.addFinalizer f).uid = m.uid := by
  unfold addFinalizer
  split <;> rfl

theorem hasFinalizer_removeFinalizer : (m.removeFinalizer f).hasFinalizer f = false := by
  rw [hasFinalizer_eq]
  cases finalizers : m.metadata.finalizers <;> simp [removeFinalizer, withFinalizers, finalizers]

@[simp] theorem uid_removeFinalizer : (m.removeFinalizer f).uid = m.uid := rfl

end Machine

namespace Fake

inductive Task where
  | create (machine : Machine) (userdata : String)
  | get (machine : Machine)
  | cleanup (machine : Machine)

def Task.call : Task → CloudCall
  | create m script => .create m script
  | get m => .get m
  | cleanup m => .cleanup m

/-- The cloud in memory, and the machine that was saved last for each UID. -/
structure Ledger where
  cloud : State
  saved : String → Option Machine

/-- Saves a machine, or refuses to. What an accepted save replies with may be any machine. -/
def keep (verdict : Except CloudError Machine) (m : Machine) (saved : String → Option Machine) :
    Except CloudError Machine × (String → Option Machine) :=
  match verdict with
  | .error e => (.error e, saved)
  | .ok reply => (.ok reply, Function.update saved m.uid (some m))

def perform (r : Resolver) (t : Task) (verdict : Except CloudError Machine) (l : Ledger) :
    t.call.Answer × Ledger :=
  let ((a, cloud), saved) := (answer r t.call l.cloud).run (keep verdict) l.saved
  (a, { cloud, saved })

/-- The tasks of a run, each with what becomes of its save, on a cloud without instances. -/
def runFrom (r : Resolver) (saved : String → Option Machine)
    (steps : List (Task × Except CloudError Machine)) : Ledger :=
  steps.foldl (fun l s => (perform r s.1 s.2 l).2) { cloud := {}, saved }

/-- Cleans up until a save is accepted. -/
def cleanUp (r : Resolver) (m : Machine) (refusals : List CloudError) (reply : Machine)
    (l : Ledger) : Except CloudError Bool × Ledger :=
  perform r (.cleanup m) (.ok reply)
    (refusals.foldl (fun l e => (perform r (.cleanup m) (.error e) l).2) l)

/-- Whatever has an instance was last saved with the finalizer. -/
def Marked (l : Ledger) : Prop :=
  ∀ uid, l.cloud.servers.contains uid = true →
    ∃ m, l.saved uid = some m ∧ m.uid = uid ∧ m.hasFinalizer finalizer = true

/-- What the finalizer tells at one point of a run. -/
structure Tells (r : Resolver) (l : Ledger) : Prop where
  marked : Marked l
  /-- After the save of a task and before its end, the instances are still those that a refused
  save leaves. -/
  meanwhile : ∀ t e reply, Marked
    { cloud := (perform r t (.error e) l).2.cloud, saved := (perform r t (.ok reply) l).2.saved }
  failed : ∀ m script verdict e, (perform r (.create m script) verdict l).1 = .error e →
    (perform r (.create m script) verdict l).2.cloud = l.cloud
  repeats : ∀ m e, (perform r (.cleanup m) (.error e) l).1 = .error e
  cleaned : ∀ m refusals reply, ∃ after,
    cleanUp r m refusals reply l = (.ok true, after) ∧
    after.cloud.servers.contains m.uid = false ∧
    after.saved m.uid = some (m.removeFinalizer finalizer) ∧
    (m.removeFinalizer finalizer).hasFinalizer finalizer = false ∧
    (m.removeFinalizer finalizer).metadata = { m.metadata with
      finalizers := m.metadata.finalizers.map fun fs => fs.filter (· != finalizer) }

variable {r : Resolver} {l : Ledger} {m : Machine}

/-- A creation ends before the save, with a refused save, or with an instance. -/
theorem perform_create (r : Resolver) (m : Machine) (script : String) (l : Ledger) :
    (∃ e, ∀ verdict, perform r (.create m script) verdict l = (.error e, l)) ∨
    ∃ polls, (∀ e, perform r (.create m script) (.error e) l = (.error e, l)) ∧
      ∀ reply, perform r (.create m script) (.ok reply) l =
        (.ok (place m polls l.cloud).1,
          { cloud := (place m polls l.cloud).2
            saved := Function.update l.saved m.uid (some (m.addFinalizer finalizer)) }) := by
  cases wanted : payload m.spec with
  | error e =>
    refine .inl ⟨e, fun verdict => ?_⟩
    simp only [perform, Task.call, answer, create, wanted, Program.run]
    rfl
  | ok found =>
    cases failing : found.2.createError with
    | some reason =>
      refine .inl ⟨.ofReason reason "failing create as requested", fun verdict => ?_⟩
      simp only [perform, Task.call, answer, create, wanted, failing, Program.run]
      rfl
    | none =>
      refine .inr ⟨found.2.addressAfterPolls, fun e => ?_, fun reply => ?_⟩
      · simp only [perform, Task.call, answer, create, wanted, failing, Program.run, keep]
        rfl
      · simp only [perform, Task.call, answer, create, wanted, failing, Program.run, keep,
          Machine.uid_addFinalizer]
        rfl

theorem perform_cleanup (r : Resolver) (m : Machine) (verdict : Except CloudError Machine)
    (l : Ledger) :
    perform r (.cleanup m) verdict l =
      let cloud := { l.cloud with servers := l.cloud.servers.erase m.uid }
      match verdict with
      | .error e => (.error e, { cloud, saved := l.saved })
      | .ok _ =>
        let saved := Function.update l.saved m.uid (some (m.removeFinalizer finalizer))
        (.ok true, { cloud, saved }) := by
  cases verdict <;> rfl

theorem contains_place (m : Machine) (polls : Nat) (s : State) {uid : String}
    (present : (place m polls s).2.servers.contains uid = true) :
    uid = m.uid ∨ s.servers.contains uid = true := by
  unfold place at present
  split at present
  · exact .inr present
  · exact (Dict.contains_insert _ _ _ _).mp present

theorem contains_get (m : Machine) (s : State) {uid : String}
    (present : (get m s).2.servers.contains uid = true) : s.servers.contains uid = true := by
  unfold get at present
  split at present
  · exact present
  · rename_i server found
    rcases (Dict.contains_insert _ _ _ _).mp present with rfl | before
    · simp [Dict.contains, found]
    · exact before

/-- Instances may go as long as nothing that still has one is saved anew. -/
theorem Marked.shrink (marked : Marked l) {l' : Ledger}
    (within : ∀ uid, l'.cloud.servers.contains uid = true →
      l.cloud.servers.contains uid = true ∧ l'.saved uid = l.saved uid) : Marked l' := by
  intro uid present
  obtain ⟨before, same⟩ := within uid present
  rw [same]
  exact marked uid before

/-- A machine that was saved with the finalizer may have an instance. -/
theorem Marked.save (marked : Marked l) {cloud : State} (m : Machine)
    (within : ∀ uid, cloud.servers.contains uid = true →
      uid = m.uid ∨ l.cloud.servers.contains uid = true) :
    Marked { cloud
             saved := Function.update l.saved m.uid (some (m.addFinalizer finalizer)) } := by
  intro uid present
  by_cases own : uid = m.uid
  · subst own
    exact ⟨m.addFinalizer finalizer, Function.update_self _ _ _, m.uid_addFinalizer finalizer,
      m.hasFinalizer_addFinalizer finalizer⟩
  · obtain ⟨saved, last, named, finalized⟩ := marked uid ((within uid present).resolve_left own)
    exact ⟨saved, (Function.update_of_ne own _ _).trans last, named, finalized⟩

theorem Marked.erase (marked : Marked l) (m : Machine) {saved : String → Option Machine}
    (others : ∀ uid, uid ≠ m.uid → saved uid = l.saved uid) :
    Marked { cloud := { l.cloud with servers := l.cloud.servers.erase m.uid }, saved } := by
  refine marked.shrink fun uid present => ?_
  obtain ⟨other, before⟩ := (Dict.contains_erase _ _ _).mp present
  exact ⟨before, others uid other⟩

theorem Marked.perform (marked : Marked l) (r : Resolver) (t : Task)
    (verdict : Except CloudError Machine) : Marked (perform r t verdict l).2 := by
  cases t with
  | create m script =>
    rcases perform_create r m script l with ⟨e, early⟩ | ⟨polls, refused, accepted⟩
    · rw [early]
      exact marked
    · cases verdict with
      | error e =>
        rw [refused]
        exact marked
      | ok reply =>
        rw [accepted]
        exact marked.save m fun uid present => contains_place m polls l.cloud present
  | get m => exact marked.shrink fun uid present => ⟨contains_get m l.cloud present, rfl⟩
  | cleanup m =>
    rw [perform_cleanup]
    cases verdict with
    | error e => exact marked.erase m fun _ _ => rfl
    | ok reply => exact marked.erase m fun uid other => Function.update_of_ne other _ _

theorem Marked.meanwhile (marked : Marked l) (r : Resolver) (t : Task) (e : CloudError)
    (reply : Machine) : Marked
      { cloud := (Fake.perform r t (.error e) l).2.cloud
        saved := (Fake.perform r t (.ok reply) l).2.saved } := by
  cases t with
  | create m script =>
    rcases perform_create r m script l with ⟨e', early⟩ | ⟨polls, refused, accepted⟩
    · rw [early, early]
      exact marked
    · rw [refused, accepted]
      exact marked.save m fun uid present => .inr present
  | get m => exact marked.shrink fun uid present => ⟨contains_get m l.cloud present, rfl⟩
  | cleanup m =>
    rw [perform_cleanup, perform_cleanup]
    exact marked.erase m fun uid other => Function.update_of_ne other _ _

theorem marked_run (r : Resolver) (saved : String → Option Machine)
    (steps : List (Task × Except CloudError Machine)) : Marked (runFrom r saved steps) := by
  have start : Marked { cloud := {}, saved } := fun uid present => by cases present
  unfold runFrom
  generalize ({ cloud := {}, saved } : Ledger) = l at start ⊢
  induction steps generalizing l with
  | nil => exact start
  | cons s rest ih => exact ih _ (start.perform r s.1 s.2)

theorem cleanUp_eq (r : Resolver) (m : Machine) (refusals : List CloudError) (reply : Machine)
    (l : Ledger) : ∃ after, cleanUp r m refusals reply l = (.ok true, after) ∧
      after.cloud.servers.contains m.uid = false ∧
      after.saved m.uid = some (m.removeFinalizer finalizer) := by
  unfold cleanUp
  rw [perform_cleanup]
  refine ⟨_, rfl, ?_, Function.update_self _ _ _⟩
  refine Bool.eq_false_iff.mpr fun present => ?_
  exact ((Dict.contains_erase _ _ _).mp present).1 rfl

/-- In any run of creations, look-ups and clean-ups, whatever has an instance was last saved with
the finalizer, a creation that fails makes no instance, and a clean-up that is repeated until its
save is accepted leaves neither an instance nor the finalizer. -/
theorem finalizer_tells (r : Resolver) (saved : String → Option Machine)
    (steps : List (Task × Except CloudError Machine)) : Tells r (runFrom r saved steps) := by
  have marked := marked_run r saved steps
  constructor
  case marked => exact marked
  case meanwhile => exact fun t e reply => marked.meanwhile r t e reply
  case failed =>
    intro m script verdict e failed
    rcases perform_create r m script (runFrom r saved steps) with
      ⟨e', early⟩ | ⟨polls, refused, accepted⟩
    · rw [early]
    · cases verdict with
      | error e' => rw [refused]
      | ok reply =>
        rw [accepted] at failed
        cases failed
  case repeats =>
    intro m e
    rw [perform_cleanup]
  case cleaned =>
    intro m refusals reply
    obtain ⟨after, ends, gone, kept⟩ := cleanUp_eq r m refusals reply (runFrom r saved steps)
    refine ⟨after, ends, gone, kept, m.hasFinalizer_removeFinalizer finalizer, rfl⟩

end Fake

end MachineFleet
