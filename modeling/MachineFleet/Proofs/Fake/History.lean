import MachineFleet.Proofs.Fake.Events

/-!
Whole runs of the cloud in memory. Its instances keep their identities: no identifier is given out
twice, a creation for a machine that has an instance changes nothing, and an instance that was once
reported as running is reported just so ever after, under whatever UID it has come to stand.
-/

namespace MachineFleet.Fake

def history (r : Resolver) : State → List (CloudCall × Except CloudError Machine) → List Event
  | _, [] => []
  | s, (call, verdict) :: rest =>
    let e := Event.of r s call verdict
    e :: history r e.after rest

/-- Where an instance stands after a number of calls. -/
def whereabouts : List Event → String → Option String
  | [], uid => some uid
  | e :: rest, uid => (e.moves uid).bind (whereabouts rest)

/-- What becomes of identities in a run. -/
structure Lasting (h : List Event) : Prop where
  apart : ∀ e ∈ h, ∀ uid uid' server server', e.after.servers.get? uid = some server →
    e.after.servers.get? uid' = some server' → server.id = server'.id → uid = uid'
  issuedOnce : h.Pairwise fun e e' => ∀ id, e.Issues id → ¬ e'.Issues id
  /-- A creation reports a new identifier, or the instance that there is and changes nothing. -/
  created : ∀ e ∈ h, ∀ m script i, e.call = .create m script → e.instance? = some i →
    match e.before.servers.get? m.uid with
    | none => e.Issues i.id
    | some server => i.id = server.id ∧ e.after = e.before
  found : ∀ e ∈ h, ∀ m, e.call = .get m →
    (e.instance?.isSome = true ↔ e.before.servers.contains m.uid = true)
  /-- A report of an instance that was running before is the report of then. -/
  steady : h.Pairwise fun e e' => ∀ uid uid' i j, e.Reports uid i → i.status = .running →
    e'.Reports uid' j → j.id = i.id → j = i
  /-- And a report for the UID under which it stands is a report of that instance. -/
  followed : ∀ earlier e between e' later uid uid' i j,
    h = earlier ++ e :: (between ++ e' :: later) → e.Reports uid i → i.status = .running →
    whereabouts between uid = some uid' → e'.Reports uid' j → j = i
  /-- Counters grow by one at most with each creation and look-up. -/
  within : ∀ e ∈ h, e.after.Within (h.countP fun e => e.machine?.isSome)

variable {r : Resolver} {s : State} {e e' : Event}
  {steps : List (CloudCall × Except CloudError Machine)}

/-- Each event of a run is a call on what the events before it have left. -/
theorem history_split (numbered : Numbered s) {earlier later : List Event}
    (split : history r s steps = earlier ++ e :: later) :
    e.Genuine r ∧ ∃ rest, later = history r e.after rest := by
  induction earlier generalizing s steps with
  | nil =>
    cases steps with
    | nil => cases split
    | cons step rest =>
      obtain ⟨rfl, rfl⟩ := List.cons.inj split
      exact ⟨⟨numbered, step.2, rfl⟩, rest, rfl⟩
  | cons first earlier ih =>
    cases steps with
    | nil => cases split
    | cons step rest =>
      obtain ⟨rfl, behind⟩ := List.cons.inj split
      have genuine : (Event.of r s step.1 step.2).Genuine r := ⟨numbered, step.2, rfl⟩
      exact ih genuine.numbered_after behind

theorem genuine_of_mem (numbered : Numbered s) (member : e ∈ history r s steps) :
    e.Genuine r := by
  obtain ⟨earlier, later, split⟩ := List.append_of_mem member
  exact (history_split numbered split).1

/-- An instance stands where the calls of a run have moved it. -/
theorem history_moves (numbered : Numbered s) {between later : List Event}
    (split : history r s steps = between ++ e' :: later) {uid uid' : String} {a : Server}
    (present : s.servers.get? uid = some a) (moves : whereabouts between uid = some uid') :
    ∃ b, e'.before.servers.get? uid' = some b ∧ a.Ages b := by
  induction between generalizing s steps uid a with
  | nil =>
    cases moves
    cases steps with
    | nil => cases split
    | cons step rest =>
      obtain ⟨rfl, -⟩ := List.cons.inj split
      exact ⟨a, present, .refl a⟩
  | cons first between ih =>
    cases steps with
    | nil => cases split
    | cons step rest =>
      obtain ⟨rfl, behind⟩ := List.cons.inj split
      have genuine : (Event.of r s step.1 step.2).Genuine r := ⟨numbered, step.2, rfl⟩
      obtain ⟨next, moved, moves⟩ := Option.bind_eq_some_iff.mp moves
      obtain ⟨b, present, ages⟩ := genuine.moved present moved
      obtain ⟨c, found, ages'⟩ := ih genuine.numbered_after behind present moves
      exact ⟨c, found, ages.trans ages'⟩

theorem history_descends (numbered : Numbered s) (member : e ∈ history r s steps) :
    Descends s e.before := by
  induction steps generalizing s with
  | nil => cases member
  | cons step rest ih =>
    have genuine : (Event.of r s step.1 step.2).Genuine r := ⟨numbered, step.2, rfl⟩
    rcases List.mem_cons.mp member with rfl | later
    · exact .refl s
    · exact genuine.changes.descends.trans (ih genuine.numbered_after later)

/-- What holds of two events whenever the later one descends from the earlier one. -/
theorem history_pairwise (numbered : Numbered s) {P : Event → Event → Prop}
    (holds : ∀ e e', e.Genuine r → e'.Genuine r → Descends e.after e'.before → P e e') :
    (history r s steps).Pairwise P := by
  induction steps generalizing s with
  | nil => exact .nil
  | cons step rest ih =>
    have genuine : (Event.of r s step.1 step.2).Genuine r := ⟨numbered, step.2, rfl⟩
    have after := genuine.numbered_after
    refine .cons (fun e' member => ?_) (ih after)
    exact holds _ e' genuine (genuine_of_mem after member) (history_descends after member)

theorem history_within (numbered : Numbered s) {n : Nat} (start : s.Within n)
    (member : e ∈ history r s steps) :
    e.after.Within (n + (history r s steps).countP fun e => e.machine?.isSome) := by
  induction steps generalizing s n with
  | nil => cases member
  | cons step rest ih =>
    have genuine : (Event.of r s step.1 step.2).Genuine r := ⟨numbered, step.2, rfl⟩
    have next := genuine.within start
    rw [history, List.countP_cons]
    rcases List.mem_cons.mp member with rfl | later
    · exact next.mono (by omega)
    · exact (ih genuine.numbered_after next later).mono (by omega)

/-- In any run on a cloud without instances, whatever is asked and however saves end, identities
last: identifiers are given out once, creations for what there is change nothing, look-ups find just
what there is, and an instance that has been reported as running is reported so wherever it has been
moved. -/
theorem identities_last (r : Resolver) (steps : List (CloudCall × Except CloudError Machine)) :
    Lasting (history r {} steps) := by
  have start : Numbered ({} : State) := Reached.numbered .empty
  have genuine : ∀ e ∈ history r {} steps, e.Genuine r := fun e member =>
    genuine_of_mem start member
  constructor
  case apart =>
    intro e member uid uid' a b present present' same
    exact (genuine e member).numbered_after.uid_of_id present present' same
  case issuedOnce =>
    refine history_pairwise start fun e e' earlier later descends id first again => ?_
    obtain ⟨⟨uid, a, present, rfl⟩, -⟩ := first
    obtain ⟨⟨uid', b, present', same⟩, missing⟩ := again
    have bound := (earlier.numbered_after.named uid a present).2
    have ages := (descends.trans later.changes.descends).ages earlier.numbered_after
      later.numbered_after present present' same
    rcases later.changes.descends.origin uid' b present' with new | ⟨uid₀, c, before, ages'⟩
    · have last := descends.last
      have ordinal := ages.ordinal
      omega
    · exact missing ⟨uid₀, c, before, ages'.id.symm.trans same⟩
  case created => exact fun e member m script i asked answered =>
    (genuine e member).created asked answered
  case found => exact fun e member m asked => (genuine e member).found asked
  case steady =>
    refine history_pairwise start fun e e' earlier later descends uid uid' i j => ?_
    intro reports running reports' same
    obtain ⟨a, present, rfl⟩ := earlier.shown reports
    obtain ⟨b, present', rfl⟩ := later.shown reports'
    have ages := (descends.trans later.changes.descends).ages earlier.numbered_after
      later.numbered_after present present' same
    exact ages.snapshot running
  case followed =>
    intro before e between e' after uid uid' i j split reports running moves reports'
    obtain ⟨earlier, rest, behind⟩ := history_split start split
    obtain ⟨later, -⟩ := history_split earlier.numbered_after behind.symm
    obtain ⟨a, present, rfl⟩ := earlier.shown reports
    obtain ⟨b, present', rfl⟩ := later.shown reports'
    obtain ⟨c, stands, ages⟩ := history_moves earlier.numbered_after behind.symm present moves
    obtain ⟨d, found, ages'⟩ := later.moved stands (Event.Genuine.moves_of_reports reports')
    cases found.symm.trans present'
    exact (ages.trans ages').snapshot running
  case within =>
    intro e member
    have none : ({} : State).Within 0 := ⟨Nat.le_refl 0, fun uid server present => by cases present⟩
    have bound := history_within start none member
    rwa [Nat.zero_add] at bound

end MachineFleet.Fake
