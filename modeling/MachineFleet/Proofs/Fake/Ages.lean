import MachineFleet.Proofs.Fake.State

/-!
How the instances of a cloud in memory grow older. Whatever stands somewhere later is an instance of
before, looked up as often or more often, or it is new; and an instance that has been reported as
running is reported just so at every later age. No counter grows by more than one at a time.
-/

namespace MachineFleet.Fake

variable {s s' : State}

theorem Server.status_running (a : Server) : a.snapshot.status = .running ↔ a.isReady = true := by
  unfold snapshot
  cases a.isReady <;> simp

theorem Server.Ages.snapshot {a b : Server} (ages : a.Ages b)
    (running : a.snapshot.status = .running) : b.snapshot = a.snapshot := by
  have ready : a.isReady = true := a.status_running.mp running
  have readyLater : b.isReady = true := by
    rw [isReady, decide_eq_true_eq] at ready ⊢
    rw [ages.same]
    exact Nat.le_trans ready ages.polls
  unfold Server.snapshot
  rw [ready, readyLater, ages.same]
  rfl

/-- Whatever stands somewhere later is older by then, or it is new. -/
structure Descends (s s' : State) : Prop where
  last : s.lastOrdinal ≤ s'.lastOrdinal
  origin : ∀ uid b, s'.servers.get? uid = some b → s.lastOrdinal < b.ordinal ∨
    ∃ uid a, s.servers.get? uid = some a ∧ a.Ages b

theorem Descends.refl (s : State) : Descends s s :=
  ⟨Nat.le_refl _, fun uid b present => .inr ⟨uid, b, present, .refl b⟩⟩

theorem Descends.trans {s'' : State} (first : Descends s s') (second : Descends s' s'') :
    Descends s s'' where
  last := Nat.le_trans first.last second.last
  origin uid c present := by
    rcases second.origin uid c present with new | ⟨uid', b, present', ages⟩
    · exact .inl (Nat.lt_of_le_of_lt first.last new)
    · rcases first.origin uid' b present' with new | ⟨uid'', a, present'', ages'⟩
      · exact .inl (by rw [ages.ordinal]; exact new)
      · exact .inr ⟨uid'', a, present'', ages'.trans ages⟩

theorem Grows.descends (grows : Grows s s') : Descends s s' := by
  cases grows with
  | same servers last =>
    refine ⟨Nat.le_of_eq last.symm, fun uid b present => .inr ⟨uid, b, ?_, .refl b⟩⟩
    exact servers ▸ present
  | @polled uid a present =>
    refine ⟨Nat.le_refl _, fun uid' b present' => .inr ?_⟩
    simp only [Dict.get?_insert] at present'
    split at present'
    · cases present'
      exact ⟨uid, a, present, rfl, Nat.le_succ _⟩
    · exact ⟨uid', b, present', .refl b⟩
  | @placed uid new absent named next =>
    refine ⟨Nat.le_succ _, fun uid' b present' => ?_⟩
    simp only [Dict.get?_insert] at present'
    split at present'
    · cases present'
      exact .inl (by rw [next]; exact Nat.lt_succ_self _)
    · exact .inr ⟨uid', b, present', .refl b⟩

theorem Changes.descends (changes : Changes s s') : Descends s s' := by
  cases changes with
  | grows grows => exact grows.descends
  | erased uid =>
    refine ⟨Nat.le_refl _, fun uid' b present => .inr ⟨uid', b, ?_, .refl b⟩⟩
    simp only [Dict.get?_erase] at present
    split at present
    · cases present
    · exact present
  | @moved uid newUid a present =>
    refine ⟨Nat.le_refl _, fun uid' b present' => .inr ?_⟩
    simp only [Dict.get?_insert, Dict.get?_erase] at present'
    split at present'
    · cases present'
      exact ⟨uid, a, present, .refl a⟩
    · split at present'
      · cases present'
      · exact ⟨uid', b, present', .refl b⟩

/-- With one identifier, the later instance is the earlier one. -/
theorem Descends.ages (descends : Descends s s') (numbered : Numbered s) (numbered' : Numbered s')
    {uid uid' : String} {a b : Server} (present : s.servers.get? uid = some a)
    (present' : s'.servers.get? uid' = some b) (same : b.id = a.id) : a.Ages b := by
  obtain ⟨named, bound⟩ := numbered.named uid a present
  have ordinal : b.ordinal = a.ordinal := by
    rw [named, (numbered'.named uid' b present').1] at same
    exact ordinal_of_id same
  rcases descends.origin uid' b present' with new | ⟨uid₀, a₀, present₀, ages⟩
  · omega
  · have origin : uid₀ = uid :=
      numbered.apart uid₀ uid a₀ a present₀ present (ages.ordinal.symm.trans ordinal)
    rw [origin] at present₀
    cases present₀.symm.trans present
    exact ages

/-- No counter is beyond `n`. -/
structure State.Within (n : Nat) (s : State) : Prop where
  last : s.lastOrdinal ≤ n
  polls : ∀ uid server, s.servers.get? uid = some server → server.polls ≤ n

namespace State.Within

variable {n k : Nat}

theorem mono (within : s.Within n) (le : n ≤ k) : s.Within k :=
  ⟨Nat.le_trans within.last le, fun uid server present =>
    Nat.le_trans (within.polls uid server present) le⟩

theorem shrink (within : s.Within n) (last : s'.lastOrdinal = s.lastOrdinal)
    (servers : ∀ uid server, s'.servers.get? uid = some server →
      ∃ uid, s.servers.get? uid = some server) : s'.Within n where
  last := last ▸ within.last
  polls uid server present := by
    obtain ⟨uid', before⟩ := servers uid server present
    exact within.polls uid' server before

theorem get (within : s.Within n) (m : Machine) : (get m s).2.Within (n + 1) := by
  unfold Fake.get
  split
  · exact within.mono (Nat.le_succ n)
  · rename_i server present
    refine ⟨Nat.le_succ_of_le within.last, fun uid polled present' => ?_⟩
    simp only [Dict.get?_insert] at present'
    split at present'
    · cases present'
      exact Nat.succ_le_succ (within.polls m.uid server present)
    · exact Nat.le_succ_of_le (within.polls uid polled present')

theorem place (within : s.Within n) (m : Machine) (polls : Nat) :
    (place m polls s).2.Within (n + 1) := by
  unfold Fake.place
  split
  · exact within.mono (Nat.le_succ n)
  · refine ⟨Nat.succ_le_succ within.last, fun uid server present => ?_⟩
    simp only [Dict.get?_insert] at present
    split at present
    · cases present
      exact Nat.zero_le _
    · exact Nat.le_succ_of_le (within.polls uid server present)

theorem erase (within : s.Within n) (uid : String) :
    State.Within n { s with servers := s.servers.erase uid } := by
  refine within.shrink rfl fun uid' server present => ⟨uid', ?_⟩
  simp only [Dict.get?_erase] at present
  split at present
  · cases present
  · exact present

theorem migrateUid (within : s.Within n) (m : Machine) (newUid : String) :
    (migrateUid m newUid s).Within n := by
  unfold Fake.migrateUid
  split
  · exact within
  · rename_i moved held
    refine within.shrink rfl fun uid server present => ?_
    simp only [Dict.get?_insert, Dict.get?_erase] at present
    split at present
    · cases present
      exact ⟨m.uid, held⟩
    · split at present
      · cases present
      · exact ⟨uid, present⟩

end State.Within

end MachineFleet.Fake
