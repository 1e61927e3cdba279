import MachineFleet.Proofs.Cloud.ValidationCache
import Mathlib.Data.Set.Card

/-!
What a cache of validation outcomes retains, over any sequence of sets, look-ups and pauses. A log
of the sets is enough to tell: a look-up gives the outcome of the newest set of its key while that
set is younger than the time to live, and a set leaves the entries of the keys whose newest sets are
that young, with its own. Expired entries are removed in passing, and nobody can see when.
-/

namespace MachineFleet.ValidationCache

/-- A set that was made. -/
structure Note where
  spec : MachineSpec
  time : Nat
  outcome : ValidationOutcome

inductive Use where
  | set (spec : MachineSpec) (o : ValidationOutcome)
  | get (spec : MachineSpec)
  | pause (time : Nat)

/-- The clock, and the sets that were made until now, the newest first. -/
structure Log where
  now : Nat
  notes : List Note := []

namespace Log

def after (l : Log) : Use → Log
  | .set spec o => { l with notes := ⟨spec, l.now, o⟩ :: l.notes }
  | .get _ => l
  | .pause time => { l with now := l.now + time }

/-- The newest set of the key. -/
def Newest (l : Log) (k : String) (n : Note) : Prop :=
  ∃ newer older, l.notes = newer ++ n :: older ∧ key n.spec = k ∧ ∀ n' ∈ newer, key n'.spec ≠ k

/-- The newest set of the key, if it is younger than the time to live. -/
def Recent (l : Log) (ttl : Nat) (k : String) (n : Note) : Prop :=
  l.Newest k n ∧ l.now < n.time + ttl

end Log

/-- A cache and the log of what was done with it. -/
structure Shelf where
  cache : ValidationCache
  log : Log

namespace Shelf

def use (s : Shelf) (u : Use) : Shelf where
  cache :=
    match u with
    | .set spec o => s.cache.set s.log.now spec o
    | .get spec => (s.cache.get s.log.now spec).2
    | .pause _ => s.cache
  log := s.log.after u

/-- Any uses in order, beginning with an empty cache. -/
def used (ttl start : Nat) (uses : List Use) : Shelf :=
  uses.foldl use { cache := { ttl }, log := { now := start } }

/-- How the log tells what the cache does. -/
structure Told (ttl : Nat) (s : Shelf) : Prop where
  got : ∀ spec o, (s.cache.get s.log.now spec).1 = some o ↔
    ∃ n, s.log.Recent ttl (key spec) n ∧ n.outcome = o
  /-- The entries that a set leaves are counted by keys. -/
  counted : ∀ spec o, ((s.use (.set spec o)).cache.size : ℕ∞) =
    Set.encard { k | k = key spec ∨ ∃ n, (s.use (.set spec o)).log.Recent ttl k n }
  /-- To another key it makes no difference whether there is a look-up or a set in between. -/
  apart : ∀ spec o other, key other ≠ key spec → ∀ later, s.log.now ≤ later →
    ((s.use (.get spec)).cache.get later other).1 = (s.cache.get later other).1 ∧
    ((s.use (.set spec o)).cache.get later other).1 = (s.cache.get later other).1

end Shelf

variable {ttl : Nat} {s : Shelf} {k : String}

def Note.entry (n : Note) : Entry := ⟨n.time, n.outcome⟩

def Log.newest? (l : Log) (k : String) : Option Note := l.notes.find? fun n => key n.spec = k

theorem Log.newest?_eq_some {l : Log} {n : Note} : l.newest? k = some n ↔ l.Newest k n := by
  unfold newest? Newest
  rw [List.find?_eq_some_iff_append]
  constructor
  · rintro ⟨same, newer, older, split, others⟩
    refine ⟨newer, older, split, by simpa using same, ?_⟩
    intro n' member
    simpa using others n' member
  · rintro ⟨newer, older, split, same, others⟩
    refine ⟨by simpa using same, newer, older, split, ?_⟩
    intro n' member
    simpa using others n' member

theorem Log.newest?_set (l : Log) (spec : MachineSpec) (o : ValidationOutcome) (k : String) :
    (l.after (.set spec o)).newest? k =
      if k = key spec then some ⟨spec, l.now, o⟩ else l.newest? k := by
  simp only [after, newest?, List.find?_cons]
  by_cases own : k = key spec
  · simp [own]
  · have other : ¬ key spec = k := fun same => own same.symm
    simp [own, other]

/-- At any later time the cache knows of each key what the log says. -/
structure Shelf.Mirrors (ttl : Nat) (s : Shelf) : Prop where
  ttl : s.cache.ttl = ttl
  known : ∀ later, s.log.now ≤ later → ∀ k,
    s.cache.known? later k = ((s.log.newest? k).map Note.entry).filter (s.cache.isLive later)
  past : ∀ n ∈ s.log.notes, n.time ≤ s.log.now

namespace Shelf

theorem mirrors_empty (ttl start : Nat) :
    Mirrors ttl { cache := { ttl }, log := { now := start } } where
  ttl := rfl
  known _ _ _ := rfl
  past _ member := by cases member

theorem Mirrors.set (mirrors : Mirrors ttl s) (spec : MachineSpec) (o : ValidationOutcome) :
    Mirrors ttl (s.use (.set spec o)) := by
  constructor
  case ttl => exact mirrors.ttl
  case known =>
    intro later passed k
    have here : s.log.now ≤ later := passed
    have newest : (s.use (.set spec o)).log.newest? k =
        if k = key spec then some ⟨spec, s.log.now, o⟩ else s.log.newest? k :=
      s.log.newest?_set spec o k
    have known : (s.use (.set spec o)).cache.known? later k =
        if k = key spec then (some ⟨s.log.now, o⟩ : Option Entry).filter (s.cache.isLive later)
        else s.cache.known? later k := known?_set here spec o
    rw [known, newest, mirrors.known later here k]
    split <;> rfl
  case past =>
    intro n member
    rcases List.mem_cons.mp member with rfl | earlier
    · exact Nat.le_refl s.log.now
    · exact mirrors.past n earlier

theorem Mirrors.get (mirrors : Mirrors ttl s) (spec : MachineSpec) :
    Mirrors ttl (s.use (.get spec)) := by
  have same : (s.cache.get s.log.now spec).2.ttl = s.cache.ttl := get_ttl s.cache s.log.now spec
  constructor
  case ttl => exact same.trans mirrors.ttl
  case known =>
    intro later passed k
    have live : (s.use (.get spec)).cache.isLive = s.cache.isLive := isLive_eq same
    have kept : (s.use (.get spec)).cache.known? later k = s.cache.known? later k :=
      known?_get passed spec
    rw [live, kept]
    exact mirrors.known later passed k
  case past => exact mirrors.past

theorem Mirrors.pause (mirrors : Mirrors ttl s) (time : Nat) :
    Mirrors ttl (s.use (.pause time)) where
  ttl := mirrors.ttl
  known later passed k := by
    have earlier : s.log.now ≤ later := Nat.le_trans (Nat.le_add_right _ time) passed
    exact mirrors.known later earlier k
  past n member := Nat.le_trans (mirrors.past n member) (Nat.le_add_right _ time)

theorem Mirrors.use (mirrors : Mirrors ttl s) (u : Use) : Mirrors ttl (s.use u) := by
  cases u with
  | set spec o => exact mirrors.set spec o
  | get spec => exact mirrors.get spec
  | pause time => exact mirrors.pause time

theorem mirrors_used (ttl start : Nat) (uses : List Use) : Mirrors ttl (used ttl start uses) := by
  unfold used
  have before := mirrors_empty ttl start
  generalize ({ cache := { ttl }, log := { now := start } } : Shelf) = s at before ⊢
  induction uses generalizing s with
  | nil => exact before
  | cons u rest ih => exact ih (s.use u) (before.use u)

theorem Mirrors.known_iff (mirrors : Mirrors ttl s) {e : Entry} :
    s.cache.known? s.log.now k = some e ↔ ∃ n, s.log.Recent ttl k n ∧ n.entry = e := by
  have young : ∀ n, s.log.Newest k n →
      (s.cache.isLive s.log.now n.entry = true ↔ s.log.now < n.time + ttl) := by
    rintro n ⟨newer, older, split, -, -⟩
    have bound : n.time ≤ s.log.now := mirrors.past n (by simp [split])
    simp only [isLive, Note.entry, mirrors.ttl, decide_eq_true_eq]
    omega
  rw [mirrors.known s.log.now (Nat.le_refl _) k, Option.filter_eq_some_iff, Option.map_eq_some_iff]
  constructor
  · rintro ⟨⟨n, found, rfl⟩, live⟩
    have newest := Log.newest?_eq_some.mp found
    exact ⟨n, ⟨newest, (young n newest).mp live⟩, rfl⟩
  · rintro ⟨n, ⟨newest, recent⟩, rfl⟩
    exact ⟨⟨n, Log.newest?_eq_some.mpr newest, rfl⟩, (young n newest).mpr recent⟩

theorem Mirrors.got (mirrors : Mirrors ttl s) (spec : MachineSpec) (o : ValidationOutcome) :
    (s.cache.get s.log.now spec).1 = some o ↔
      ∃ n, s.log.Recent ttl (key spec) n ∧ n.outcome = o := by
  rw [get_fst, Option.map_eq_some_iff]
  constructor
  · rintro ⟨e, known, rfl⟩
    obtain ⟨n, recent, rfl⟩ := mirrors.known_iff.mp known
    exact ⟨n, recent, rfl⟩
  · rintro ⟨n, recent, rfl⟩
    exact ⟨n.entry, mirrors.known_iff.mpr ⟨n, recent, rfl⟩, rfl⟩

end Shelf

theorem encard_keys {α : Type} (d : Dict α) :
    Set.encard { k | d.contains k = true } = (d.size : ℕ∞) := by
  have keys : { k | d.contains k = true } = (d.keys.toFinset : Set String) := by
    ext k
    simp [Dict.mem_keys_iff]
  have all : d.keys.toFinset.card = d.size := by
    rw [List.toFinset_card_of_nodup d.nodup_keys]
    simp [Dict.keys, Dict.size]
  rw [keys, Set.encard_coe_eq_coe_finsetCard, all]

/-- A set removes all that has expired, so what it leaves is its own entry and what is known. -/
theorem contains_set (c : ValidationCache) (now : Nat) (spec : MachineSpec)
    (o : ValidationOutcome) :
    (c.set now spec o).entries.contains k = true ↔
      k = key spec ∨ (c.known? now k).isSome = true := by
  simp only [set, purge, Dict.contains_insert]
  simp only [Dict.contains, Dict.get?_filterValues, known?]

namespace Shelf

theorem recent_set (spec : MachineSpec) (o : ValidationOutcome) (other : k ≠ key spec) (n : Note) :
    (s.use (.set spec o)).log.Recent ttl k n ↔ s.log.Recent ttl k n := by
  have found : (s.use (.set spec o)).log.newest? k = s.log.newest? k := by
    have told := s.log.newest?_set spec o k
    rwa [if_neg other] at told
  unfold Log.Recent
  rw [← Log.newest?_eq_some, ← Log.newest?_eq_some, found]
  exact Iff.rfl

theorem Mirrors.counted (mirrors : Mirrors ttl s) (spec : MachineSpec) (o : ValidationOutcome) :
    ((s.use (.set spec o)).cache.size : ℕ∞) =
      Set.encard { k | k = key spec ∨ ∃ n, (s.use (.set spec o)).log.Recent ttl k n } := by
  rw [size, ← encard_keys]
  congr 1
  ext k
  show (s.cache.set s.log.now spec o).entries.contains k = true ↔
    k = key spec ∨ ∃ n, (s.use (.set spec o)).log.Recent ttl k n
  rw [contains_set]
  by_cases own : k = key spec
  · simp [own]
  · simp only [own, false_or, recent_set spec o own, Option.isSome_iff_exists, mirrors.known_iff]
    constructor
    · rintro ⟨e, n, recent, -⟩
      exact ⟨n, recent⟩
    · rintro ⟨n, recent⟩
      exact ⟨n.entry, n, recent, rfl⟩

/-- Whatever was set, looked up and waited for, the log of the sets tells what a look-up gives and
how many entries a set leaves, and using one key makes no difference to another. -/
theorem newest_sets_are_kept (ttl start : Nat) (uses : List Use) :
    Told ttl (used ttl start uses) := by
  have mirrors := mirrors_used ttl start uses
  constructor
  case got => exact mirrors.got
  case counted => exact mirrors.counted
  case apart =>
    intro spec o other differs later passed
    constructor
    · rw [get_fst, get_fst]
      exact congrArg (Option.map Entry.outcome) (known?_get passed spec)
    · have kept := known?_set (k := key other) (c := (used ttl start uses).cache) passed spec o
      rw [if_neg differs] at kept
      rw [get_fst, get_fst]
      exact congrArg (Option.map Entry.outcome) kept

end Shelf

end MachineFleet.ValidationCache
