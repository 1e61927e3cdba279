import MachineFleet.Proofs.Fake.Ages
import MachineFleet.Proofs.Outcome

/-!
Single calls on the cloud in memory, with the clouds before and after. A creation and a look-up tell
what stands under the UID they ask for, and a call leaves an instance where it was or moves it.
-/

namespace MachineFleet.Fake

/-- A call on the cloud and what became of it. -/
structure Event where
  before : State
  call : CloudCall
  answer : call.Answer
  after : State

/-- What a call comes to. The verdict is what becomes of its save, if it asks for one. -/
def Event.of (r : Resolver) (s : State) (call : CloudCall) (verdict : Except CloudError Machine) :
    Event :=
  let ((answer, after), _) := (Fake.answer r call s).run (fun _ _ => (verdict, ())) ()
  { before := s, call, answer, after }

namespace Event

/-- The machine that an instance is asked for. -/
def machine? (e : Event) : Option Machine :=
  match e.call with
  | .get m => some m
  | .create m _ => some m
  | _ => none

def instance? : Event → Option Instance
  | ⟨_, .get _, answer, _⟩ => answer.toOption
  | ⟨_, .create _ _, answer, _⟩ => answer.toOption
  | _ => none

/-- An instance is reported as that of the UID. -/
def Reports (e : Event) (uid : String) (i : Instance) : Prop :=
  e.machine?.map Machine.uid = some uid ∧ e.instance? = some i

/-- Where an instance stands after a call, given the UID that it stood under. It is nowhere once it
has been cleaned up, or has lost its place to another one. -/
def moves (e : Event) (uid : String) : Option String :=
  match e.call with
  | .cleanup m => if uid = m.uid then none else some uid
  | .migrateUid m newUid =>
    if uid = m.uid then some newUid
    else if uid = newUid ∧ e.before.servers.contains m.uid then none
    else some uid
  | _ => some uid

end Event

/-- An instance with this identifier stands under some UID. -/
def State.Has (s : State) (id : String) : Prop :=
  ∃ uid server, s.servers.get? uid = some server ∧ server.id = id

def Event.Issues (e : Event) (id : String) : Prop := e.after.Has id ∧ ¬ e.before.Has id
variable {r : Resolver} {e : Event}

/-- The event of a call on a cloud whose instances are numbered. -/
structure Event.Genuine (r : Resolver) (e : Event) : Prop where
  numbered : Numbered e.before
  made : ∃ verdict, e = .of r e.before e.call verdict

namespace Event.Genuine

theorem changes (genuine : e.Genuine r) : Changes e.before e.after := by
  obtain ⟨verdict, made⟩ := genuine.made
  rw [made]
  exact answer_changes (fun _ _ => (verdict, ())) () r e.call e.before

theorem grows (genuine : e.Genuine r) (keeps : removes e.call = false) :
    Grows e.before e.after := by
  obtain ⟨verdict, made⟩ := genuine.made
  rw [made]
  exact answer_grows (fun _ _ => (verdict, ())) () r keeps e.before

theorem numbered_after (genuine : e.Genuine r) : Numbered e.after :=
  genuine.changes.numbered genuine.numbered

theorem shown (genuine : e.Genuine r) {uid : String} {i : Instance} (reports : e.Reports uid i) :
    Shown e.after uid i := by
  obtain ⟨verdict, made⟩ := genuine.made
  obtain ⟨asked, answered⟩ := reports
  generalize e.before = s at made
  generalize e.call = call at made
  subst made
  cases call with
  | get m =>
    cases asked
    exact get_shown (toOption_eq_some_iff.mp answered)
  | create m script =>
    cases asked
    exact create_shown (fun _ _ => (verdict, ())) () (toOption_eq_some_iff.mp answered)
  | _ => cases answered

theorem created (genuine : e.Genuine r) {m : Machine} {script : String} {i : Instance}
    (asked : e.call = .create m script) (answered : e.instance? = some i) :
    match e.before.servers.get? m.uid with
    | none => e.Issues i.id
    | some server => i.id = server.id ∧ e.after = e.before := by
  have reports : e.Reports m.uid i := by
    refine ⟨?_, answered⟩
    rw [Event.machine?, asked]
    rfl
  obtain ⟨new, present, shown⟩ := genuine.shown reports
  split
  · rename_i absent
    refine ⟨⟨m.uid, new, present, by rw [shown]; rfl⟩, ?_⟩
    -- An instance that had the identifier before would still stand under its UID.
    rintro ⟨uid, old, before, same⟩
    obtain ⟨aged, after, ages⟩ := (genuine.grows (by rw [asked]; rfl)).ages before
    have here : uid = m.uid := by
      refine genuine.numbered_after.uid_of_id after present ?_
      rw [ages.id, same, shown]
      rfl
    rw [here] at before
    cases absent.symm.trans before
  · rename_i server before
    obtain ⟨verdict, made⟩ := genuine.made
    have outcome := create_cases (fun _ _ => (verdict, ())) () m e.before
    have placed : ∀ polls, place m polls e.before = (server.snapshot, e.before) := by
      intro polls
      rw [place, before]
    generalize e.before = s at *
    generalize e.call = call at *
    subst made asked
    rcases outcome with ⟨e, failed⟩ | ⟨polls, done⟩
    · have none : (Event.of r s (.create m script) verdict).instance? = none :=
        congrArg (fun x => x.1.toOption) failed
      cases none.symm.trans answered
    · rw [placed] at done
      have same : (Event.of r s (.create m script) verdict).instance? = some server.snapshot :=
        congrArg (fun x => x.1.toOption) done
      cases same.symm.trans answered
      exact ⟨rfl, congrArg Prod.snd done⟩

theorem found (genuine : e.Genuine r) {m : Machine} (asked : e.call = .get m) :
    e.instance?.isSome = true ↔ e.before.servers.contains m.uid = true := by
  obtain ⟨verdict, made⟩ := genuine.made
  generalize e.before = s at *
  generalize e.call = call at *
  subst made asked
  show (get m s).1.toOption.isSome = true ↔ (s.servers.get? m.uid).isSome = true
  unfold get
  cases s.servers.get? m.uid with
  | none => exact ⟨nofun, nofun⟩
  | some server => exact ⟨fun _ => rfl, fun _ => rfl⟩

/-- An instance that stood somewhere stands where the call has moved it. -/
theorem moved (genuine : e.Genuine r) {uid uid' : String} {a : Server}
    (present : e.before.servers.get? uid = some a) (moves : e.moves uid = some uid') :
    ∃ b, e.after.servers.get? uid' = some b ∧ a.Ages b := by
  cases removal : removes e.call with
  | false =>
    have stays : e.moves uid = some uid := by
      unfold Event.moves
      cases call : e.call with
      | cleanup m => rw [call] at removal; cases removal
      | migrateUid m newUid => rw [call] at removal; cases removal
      | _ => rfl
    cases stays.symm.trans moves
    exact (genuine.grows removal).ages present
  | true =>
    obtain ⟨verdict, made⟩ := genuine.made
    generalize e.before = s at *
    generalize e.call = call at *
    subst made
    cases call with
    | cleanup m =>
      have after : (Event.of r s (.cleanup m) verdict).after.servers = s.servers.erase m.uid := by
        cases verdict <;> rfl
      obtain ⟨other, rfl⟩ : uid ≠ m.uid ∧ uid = uid' := by
        simpa [Event.moves, Event.of] using moves
      refine ⟨a, ?_, .refl a⟩
      rw [after, Dict.get?_erase, if_neg other]
      exact present
    | migrateUid m newUid =>
      have after : (Event.of r s (.migrateUid m newUid) verdict).after = migrateUid m newUid s :=
        rfl
      have target : (if uid = m.uid then some newUid
          else if uid = newUid ∧ s.servers.contains m.uid then none else some uid) = some uid' :=
        moves
      rw [after, migrateUid]
      split at target
      · rename_i own
        cases target
        rw [own] at present
        rw [present]
        exact ⟨a, Dict.get?_insert_self _ _ _, .refl a⟩
      · rename_i other
        split at target
        · cases target
        · rename_i apart
          cases target
          refine ⟨a, ?_, .refl a⟩
          cases held : s.servers.get? m.uid with
          | none => exact present
          | some server =>
            have elsewhere : uid ≠ newUid := fun same => apart ⟨same, by simp [Dict.contains, held]⟩
            simp only [Dict.get?_insert, if_neg elsewhere, Dict.get?_erase, if_neg other]
            exact present
    | _ => cases removal

omit r in
theorem moves_of_reports {uid : String} {i : Instance} (reports : e.Reports uid i) :
    e.moves uid = some uid := by
  obtain ⟨asked, -⟩ := reports
  unfold Event.machine? at asked
  unfold Event.moves
  split at asked
  · rename_i call
    rw [call]
  · rename_i call
    rw [call]
  · cases asked

/-- Only creations and look-ups count, and each of them counts one. -/
theorem within (genuine : e.Genuine r) {n : Nat} (before : e.before.Within n) :
    e.after.Within (n + if e.machine?.isSome then 1 else 0) := by
  obtain ⟨verdict, made⟩ := genuine.made
  have outcome := fun m => create_cases (fun _ _ => (verdict, ())) () m e.before
  generalize e.before = s at *
  generalize e.call = call at *
  subst made
  cases call with
  | get m => exact before.get m
  | create m script =>
    rcases outcome m with ⟨cause, failed⟩ | ⟨polls, placed⟩
    · have same : (Event.of r s (.create m script) verdict).after = s := congrArg Prod.snd failed
      rw [same]
      exact before.mono (Nat.le_succ n)
    · have same : (Event.of r s (.create m script) verdict).after = (place m polls s).2 :=
        congrArg Prod.snd placed
      rw [same]
      exact before.place m polls
  | cleanup m =>
    have same : (Event.of r s (.cleanup m) verdict).after =
        { s with servers := s.servers.erase m.uid } := by
      cases verdict <;> rfl
    rw [same]
    exact before.erase m.uid
  | migrateUid m newUid => exact before.migrateUid m newUid
  | validate spec =>
    show (validate r spec s).2.Within n
    unfold validate
    split <;> exact before.shrink rfl fun uid server present => ⟨uid, present⟩
  | addDefaults spec => exact before
  | cloudConfig spec => exact before
  | metricsLabels m => exact before
  | recordMetrics ms => exact before

end Event.Genuine

end MachineFleet.Fake
