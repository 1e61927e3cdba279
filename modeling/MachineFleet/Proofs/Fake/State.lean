import MachineFleet.Fake
import MachineFleet.Proofs.Dict
import MachineFleet.Proofs.Program.Transcript
import Std.Data.String.ToNat

/-!
The instances of the cloud in memory, whatever operations come and however their saves end.
Instances are numbered in the order in which they are made, so no two UIDs have the same one, and
looking up and creating keep every instance that there is.
-/

namespace MachineFleet.Fake

/-- The states of a cloud that began without instances. -/
inductive Reached : State → Prop where
  | empty : Reached {}
  | failing {s : State} (before : Reached s) : Reached { s with failNext := true }
  | called {s : State} {σ : Type} (r : Resolver) (call : CloudCall)
      (save : Machine → σ → Except CloudError Machine × σ) (saved : σ) (before : Reached s) :
      Reached ((answer r call s).run save saved).1.2

/-- What an operation does to the instances when it removes none and moves none. -/
inductive Grows (s : State) : State → Prop where
  | same {s' : State} (servers : s'.servers = s.servers) (last : s'.lastOrdinal = s.lastOrdinal) :
      Grows s s'
  | polled {uid : String} {server : Server} (present : s.servers.get? uid = some server) :
      Grows s { s with
        servers := s.servers.insert uid { server with polls := server.polls + 1 } }
  | placed {uid : String} {server : Server} (absent : s.servers.get? uid = none)
      (named : server.id = "fake-" ++ toString server.ordinal)
      (next : server.ordinal = s.lastOrdinal + 1) :
      Grows s { s with
        servers := s.servers.insert uid server, lastOrdinal := s.lastOrdinal + 1 }

/-- What an operation does to the instances. -/
inductive Changes (s : State) : State → Prop where
  | grows {s' : State} (grows : Grows s s') : Changes s s'
  | erased (uid : String) : Changes s { s with servers := s.servers.erase uid }
  | moved {uid newUid : String} {server : Server} (present : s.servers.get? uid = some server) :
      Changes s { s with servers := (s.servers.erase uid).insert newUid server }

variable {s s' : State} {m : Machine}

theorem validate_grows (r : Resolver) (spec : MachineSpec) (s : State) :
    Grows s (validate r spec s).2 := by
  unfold validate
  split
  · exact .same rfl rfl
  · exact .same rfl rfl

theorem get_grows (m : Machine) (s : State) : Grows s (get m s).2 := by
  unfold get
  split
  · exact .same rfl rfl
  · rename_i server present
    exact .polled present

theorem place_grows (m : Machine) (polls : Nat) (s : State) : Grows s (place m polls s).2 := by
  unfold place
  split
  · exact .same rfl rfl
  · rename_i absent
    exact .placed absent rfl rfl

variable {σ : Type} (save : Machine → σ → Except CloudError Machine × σ) (saved : σ)

/-- A creation fails and leaves everything as it was, or the machine's instance is placed. -/
theorem create_cases (m : Machine) (s : State) :
    (∃ e, ((create m s).run save saved).1 = (.error e, s)) ∨
      ∃ polls, ((create m s).run save saved).1 =
        (.ok (place m polls s).1, (place m polls s).2) := by
  unfold create
  split
  · exact .inl ⟨_, rfl⟩
  · split
    · exact .inl ⟨_, rfl⟩
    · dsimp only [Program.run]
      split
      · exact .inl ⟨_, rfl⟩
      · exact .inr ⟨_, rfl⟩

theorem create_grows (m : Machine) (s : State) : Grows s ((create m s).run save saved).1.2 := by
  rcases create_cases save saved m s with ⟨e, failed⟩ | ⟨polls, placed⟩
  · rw [failed]
    exact .same rfl rfl
  · rw [placed]
    exact place_grows m polls s

theorem cleanup_changes (m : Machine) (s : State) :
    Changes s ((cleanup m s).run save saved).1.2 := by
  unfold cleanup
  dsimp only [Program.run]
  split
  · exact .erased m.uid
  · exact .erased m.uid

theorem migrateUid_changes (m : Machine) (newUid : String) (s : State) :
    Changes s (migrateUid m newUid s) := by
  unfold migrateUid
  split
  · exact .grows (.same rfl rfl)
  · rename_i server present
    exact .moved present

/-- Of all operations, only a clean-up and a migration may remove an instance from its UID. -/
def removes : CloudCall → Bool
  | .cleanup _ => true
  | .migrateUid _ _ => true
  | _ => false

theorem answer_grows (r : Resolver) {call : CloudCall} (keeps : removes call = false) (s : State) :
    Grows s ((answer r call s).run save saved).1.2 := by
  cases call with
  | validate spec => exact validate_grows r spec s
  | get m => exact get_grows m s
  | create m script => exact create_grows save saved m s
  | cleanup m => cases keeps
  | migrateUid m newUid => cases keeps
  | addDefaults spec => exact .same rfl rfl
  | cloudConfig spec => exact .same rfl rfl
  | metricsLabels m => exact .same rfl rfl
  | recordMetrics ms => exact .same rfl rfl

theorem answer_changes (r : Resolver) (call : CloudCall) (s : State) :
    Changes s ((answer r call s).run save saved).1.2 := by
  cases removal : removes call with
  | false => exact .grows (answer_grows save saved r removal s)
  | true =>
    cases call with
    | cleanup m => exact cleanup_changes save saved m s
    | migrateUid m newUid => exact migrateUid_changes m newUid s
    | _ => cases removal

/-- Every instance is named for its number, which was given out and to it alone. -/
structure Numbered (s : State) : Prop where
  named : ∀ uid server, s.servers.get? uid = some server →
    server.id = "fake-" ++ toString server.ordinal ∧ server.ordinal ≤ s.lastOrdinal
  apart : ∀ uid uid' server server', s.servers.get? uid = some server →
    s.servers.get? uid' = some server' → server.ordinal = server'.ordinal → uid = uid'

/-- An instance under a UID comes from one that had the same name and number, and no two come
from one. -/
theorem numbered_of_origin (numbered : Numbered s) (last : s.lastOrdinal ≤ s'.lastOrdinal)
    (origin : String → String)
    (comes : ∀ uid server', s'.servers.get? uid = some server' → ∃ server,
      s.servers.get? (origin uid) = some server ∧ server'.id = server.id ∧
      server'.ordinal = server.ordinal)
    (single : ∀ uid uid' server server', s'.servers.get? uid = some server →
      s'.servers.get? uid' = some server' → origin uid = origin uid' → uid = uid') :
    Numbered s' where
  named uid server' present := by
    obtain ⟨server, before, sameId, sameOrdinal⟩ := comes uid server' present
    obtain ⟨id, bound⟩ := numbered.named _ server before
    rw [sameId, sameOrdinal]
    exact ⟨id, Nat.le_trans bound last⟩
  apart uid uid' a b presentA presentB same := by
    obtain ⟨server, before, -, ordinal⟩ := comes uid a presentA
    obtain ⟨server', before', -, ordinal'⟩ := comes uid' b presentB
    refine single uid uid' a b presentA presentB ?_
    exact numbered.apart _ _ server server' before before'
      (ordinal.symm.trans (same.trans ordinal'))

theorem Grows.numbered (grows : Grows s s') (numbered : Numbered s) : Numbered s' := by
  cases grows with
  | same servers last =>
    refine numbered_of_origin numbered (Nat.le_of_eq last.symm) id ?_ (fun _ _ _ _ _ _ same => same)
    intro uid server present
    exact ⟨server, servers ▸ present, rfl, rfl⟩
  | @polled uid server present =>
    refine numbered_of_origin numbered (Nat.le_refl _) id ?_ (fun _ _ _ _ _ _ same => same)
    intro uid' server' present'
    simp only [Dict.get?_insert] at present'
    split at present'
    · rename_i here
      cases present'
      exact ⟨server, here ▸ present, rfl, rfl⟩
    · exact ⟨server', present', rfl, rfl⟩
  | @placed uid server absent named next =>
    -- The new number is beyond all that were given out, so it belongs to the new instance alone.
    have older : ∀ uid' server', uid' ≠ uid →
        (s.servers.insert uid server).get? uid' = some server' →
        s.servers.get? uid' = some server' := by
      intro uid' server' other present
      rw [Dict.get?_insert, if_neg other] at present
      exact present
    have newest : ∀ server', (s.servers.insert uid server).get? uid = some server' →
        server' = server := by
      intro server' present
      rw [Dict.get?_insert, if_pos rfl] at present
      exact (Option.some.inj present).symm
    constructor
    case named =>
      intro uid' server' present
      by_cases here : uid' = uid
      · rw [here] at present
        rw [newest server' present]
        exact ⟨named, Nat.le_of_eq next⟩
      · obtain ⟨id, bound⟩ := numbered.named uid' server' (older uid' server' here present)
        exact ⟨id, Nat.le_succ_of_le bound⟩
    case apart =>
      intro u v a b presentA presentB same
      by_cases here : u = uid <;> by_cases there : v = uid
      · exact here.trans there.symm
      · rw [here] at presentA
        have bound := (numbered.named v b (older v b there presentB)).2
        rw [← same, newest a presentA, next] at bound
        omega
      · rw [there] at presentB
        have bound := (numbered.named u a (older u a here presentA)).2
        rw [same, newest b presentB, next] at bound
        omega
      · exact numbered.apart u v a b (older u a here presentA) (older v b there presentB) same

theorem Changes.numbered (changes : Changes s s') (numbered : Numbered s) : Numbered s' := by
  cases changes with
  | grows grows => exact grows.numbered numbered
  | erased uid =>
    refine numbered_of_origin numbered (Nat.le_refl _) id ?_ (fun _ _ _ _ _ _ same => same)
    intro uid' server present
    simp only [Dict.get?_erase] at present
    split at present
    · cases present
    · exact ⟨server, present, rfl, rfl⟩
  | @moved uid newUid server present =>
    have kept : ∀ uid' server', uid' ≠ newUid →
        ((s.servers.erase uid).insert newUid server).get? uid' = some server' →
        uid' ≠ uid ∧ s.servers.get? uid' = some server' := by
      intro uid' server' other present'
      rw [Dict.get?_insert, if_neg other, Dict.get?_erase] at present'
      split at present'
      · cases present'
      · rename_i differs
        exact ⟨differs, present'⟩
    refine numbered_of_origin numbered (Nat.le_refl _)
      (fun u => if u = newUid then uid else u) ?_ ?_
    · intro uid' server' present'
      split
      · rename_i here
        simp only [here, Dict.get?_insert_self] at present'
        cases present'
        exact ⟨server, present, rfl, rfl⟩
      · rename_i other
        exact ⟨server', (kept uid' server' other present').2, rfl, rfl⟩
    · intro u v a b presentA presentB same
      split at same <;> split at same
      · rename_i here there
        exact here.trans there.symm
      · rename_i here other
        exact absurd same.symm (kept v b other presentB).1
      · rename_i other there
        exact absurd same (kept u a other presentA).1
      · exact same

theorem Reached.numbered (reached : Reached s) : Numbered s := by
  induction reached with
  | empty => exact ⟨nofun, nofun⟩
  | failing _ ih => exact ⟨ih.named, ih.apart⟩
  | @called s σ r call save saved _ ih => exact (answer_changes save saved r call s).numbered ih

theorem ordinal_of_id {n m : Nat} (same : "fake-" ++ toString n = "fake-" ++ toString m) :
    n = m := by
  have digits := congrArg String.toList same
  simp only [String.toList_append] at digits
  exact Nat.repr_injective (String.toList_inj.mp (List.append_cancel_left digits))

theorem Numbered.uid_of_id (numbered : Numbered s) {uid uid' : String} {server server' : Server}
    (present : s.servers.get? uid = some server) (present' : s.servers.get? uid' = some server')
    (same : server.id = server'.id) : uid = uid' := by
  refine numbered.apart uid uid' server server' present present' ?_
  rw [(numbered.named uid server present).1, (numbered.named uid' server' present').1] at same
  exact ordinal_of_id same

/-- An instance later on: it may have been looked up some more times. -/
structure Server.Ages (a b : Server) : Prop where
  same : b = { a with polls := b.polls }
  polls : a.polls ≤ b.polls

namespace Server.Ages

variable {a b c : Server}

theorem refl (a : Server) : a.Ages a := ⟨rfl, Nat.le_refl _⟩

theorem trans (first : a.Ages b) (second : b.Ages c) : a.Ages c where
  same := by
    rw [second.same, first.same]
  polls := Nat.le_trans first.polls second.polls

theorem id (ages : a.Ages b) : b.id = a.id := by rw [ages.same]

theorem ordinal (ages : a.Ages b) : b.ordinal = a.ordinal := by rw [ages.same]

end Server.Ages

theorem Grows.ages (grows : Grows s s') {uid : String} {a : Server}
    (present : s.servers.get? uid = some a) : ∃ b, s'.servers.get? uid = some b ∧ a.Ages b := by
  cases grows with
  | same servers _ => exact ⟨a, servers ▸ present, .refl a⟩
  | @polled uid' polled present' =>
    by_cases here : uid = uid'
    · rw [here] at present ⊢
      cases present.symm.trans present'
      exact ⟨_, Dict.get?_insert_self _ _ _, rfl, Nat.le_succ _⟩
    · refine ⟨a, ?_, .refl a⟩
      rw [Dict.get?_insert, if_neg here]
      exact present
  | @placed uid' placed absent =>
    have other : uid ≠ uid' := by
      rintro rfl
      cases present.symm.trans absent
    refine ⟨a, ?_, .refl a⟩
    rw [Dict.get?_insert, if_neg other]
    exact present

/-- The snapshot is that of the instance under the UID. -/
def Shown (s : State) (uid : String) (i : Instance) : Prop :=
  ∃ server, s.servers.get? uid = some server ∧ i = server.snapshot

theorem get_shown {i : Instance} (found : (get m s).1 = .ok i) : Shown (get m s).2 m.uid i := by
  unfold get at found ⊢
  split at found
  · cases found
  · cases found
    exact ⟨_, Dict.get?_insert_self _ _ _, rfl⟩

theorem place_shown (m : Machine) (polls : Nat) (s : State) :
    Shown (place m polls s).2 m.uid (place m polls s).1 := by
  unfold place
  split
  · rename_i server present
    exact ⟨server, present, rfl⟩
  · exact ⟨_, Dict.get?_insert_self _ _ _, rfl⟩

theorem create_shown {i : Instance} (made : ((create m s).run save saved).1.1 = .ok i) :
    Shown ((create m s).run save saved).1.2 m.uid i := by
  rcases create_cases save saved m s with ⟨e, failed⟩ | ⟨polls, placed⟩
  · rw [failed] at made
    cases made
  · rw [placed] at made ⊢
    cases made
    exact place_shown m polls s

/-- The instance with this provider identifier is the one under the UID. -/
def Holds (s : State) (uid providerId : String) : Prop :=
  ∃ server, s.servers.get? uid = some server ∧ providerId = "fake://" ++ server.id

theorem Shown.holds {uid : String} {i : Instance} (shown : Shown s uid i) :
    Holds s uid i.providerId := by
  obtain ⟨server, present, rfl⟩ := shown
  exact ⟨server, present, rfl⟩

theorem Grows.holds (grows : Grows s s') {uid providerId : String}
    (holds : Holds s uid providerId) : Holds s' uid providerId := by
  obtain ⟨server, present, named⟩ := holds
  obtain ⟨later, present', ages⟩ := grows.ages present
  exact ⟨later, present', by rw [ages.id]; exact named⟩

theorem holds_iff (numbered : Numbered s) {uid uid' id id' : String} (holds : Holds s uid id)
    (holds' : Holds s uid' id') : id = id' ↔ uid = uid' := by
  obtain ⟨server, present, rfl⟩ := holds
  obtain ⟨server', present', rfl⟩ := holds'
  constructor
  · intro same
    have lists := congrArg String.toList same
    simp only [String.toList_append] at lists
    exact numbered.uid_of_id present present'
      (String.toList_inj.mp (List.append_cancel_left lists))
  · rintro rfl
    cases present.symm.trans present'
    rfl

end MachineFleet.Fake
