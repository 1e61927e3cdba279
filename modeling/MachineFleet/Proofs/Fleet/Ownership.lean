import MachineFleet.Proofs.Fleet.World
import Mathlib.Data.List.Nodup

/-!
Whose a record is. A record that was made for a machine carries a UID of that machine and no UID
of another, and a machine has one record at most. A request that a machine makes in accord with
what it knows touches no record of another machine and keeps all this.
-/

namespace MachineFleet

/-- What an operation knows about the record of its machine. -/
inductive Knowledge (ρ : Type) where
  | unknown
  /-- No record carries the UID. -/
  | vacant
  /-- The record of the machine as the operation saw it. -/
  | found (s : ρ)

def Knowledge.ofSearch {ρ : Type} : Option ρ → Knowledge ρ
  | none => .vacant
  | some s => .found s

/-- Renaming replaces the first UID and adds nothing but the second. -/
structure Cloud.Renames (c : Cloud) : Prop where
  carries : ∀ m u v, c.carries (c.renamed m u v) v
  only : ∀ m u v x, c.carries m u → c.carries (c.renamed m u v) x →
    x = v ∨ x ≠ u ∧ c.carries m x

namespace World

variable {c : Cloud} {ι : Type} {words : Option ι → String → Prop} {w : World c ι} {i j : ι}

def Knows (w : World c ι) (i : ι) : Knowledge c.Record → Prop
  | .unknown => True
  | .vacant => ∀ s ∈ w.records, ¬ c.carries (c.marks s) (w.agents i).uid
  | .found s => c.carries (c.marks s) (w.agents i).uid ∧
      ∃ t ∈ w.records, c.id t = c.id s ∧ c.marks t = c.marks s ∧ w.maker (c.id t) = some i

/-- The records of one machine. -/
structure Owned (words : Option ι → String → Prop) (w : World c ι) (i : ι) : Prop where
  single : ∀ s ∈ w.records, ∀ t ∈ w.records,
    w.maker (c.id s) = some i → w.maker (c.id t) = some i → s = t
  marked : ∀ s ∈ w.records, w.maker (c.id s) = some i →
    ∃ u, (w.agents i).GoesBy u ∧ c.carries (c.marks s) u
  drawn : ∀ s ∈ w.records, w.maker (c.id s) = some i → ∀ u, c.carries (c.marks s) u →
    (w.agents i).HasHad u ∨ words (some i) u

/-- The records of an account and the UIDs of the machines. The marks of records that were made
for no machine are among the words of nobody. -/
structure Consistent (words : Option ι → String → Prop) (w : World c ι) : Prop where
  unique : (w.records.map c.id).Nodup
  strangers : ∀ s ∈ w.records, w.maker (c.id s) = none → ∀ u, c.carries (c.marks s) u →
    words none u
  owned : ∀ i, w.Owned words i
  apart : ∀ i j u, (w.agents i).HasHad u → (w.agents j).HasHad u → i = j
  unspoken : ∀ i u, (w.agents i).GoesBy u → ∀ o, words o u → o = some i
  ahead : ∀ i v, (w.agents i).target = some v → v ≠ (w.agents i).uid ∧ v ∉ (w.agents i).former

/-- What the request of a machine may do to the records. -/
structure Confined (words : Option ι → String → Prop) (w : World c ι) (i : ι)
    (after : List c.Record) : Prop where
  unique : (after.map c.id).Nodup
  kept : ∀ s ∈ w.records, w.maker (c.id s) ≠ some i → s ∈ after
  made : ∀ s ∈ after, s ∈ w.records ∨ (w.served i after).maker (c.id s) = some i
  owned : (w.served i after).Owned words i
  handed : ∀ v, (w.agents i).target = some v → ∀ s ∈ w.records, w.maker (c.id s) = some i →
    ∃ t ∈ after, c.id t = c.id s ∧ (c.marks t = c.marks s ∨
      c.carries (c.marks s) (w.agents i).uid ∧
        c.marks t = c.renamed (c.marks s) (w.agents i).uid v)

namespace Consistent

/-- A record that carries a UID of a machine was made for it. -/
theorem maker_of_carries (consistent : w.Consistent words) {s : c.Record} (member : s ∈ w.records)
    {u : String} (known : (w.agents i).GoesBy u) (carries : c.carries (c.marks s) u) :
    w.maker (c.id s) = some i := by
  cases made : w.maker (c.id s) with
  | none =>
    have spoken := consistent.strangers s member made u carries
    exact consistent.unspoken i u known none spoken
  | some j =>
    rcases (consistent.owned j).drawn s member made u carries with had | spoken
    · rw [consistent.apart j i u had (.inl known)]
    · exact consistent.unspoken i u known (some j) spoken

end Consistent

theorem Confined.from_before {after : List c.Record} (confined : w.Confined words i after)
    (other : j ≠ i) {s : c.Record} (member : s ∈ after)
    (made : (w.served i after).maker (c.id s) = some j) :
    s ∈ w.records ∧ w.maker (c.id s) = some j := by
  rcases confined.made s member with before | mine
  · exact ⟨before, (served_maker_of_mem i after before).symm.trans made⟩
  · rw [mine] at made
    exact absurd (Option.some.inj made).symm other

theorem served_owned {after : List c.Record} (confined : w.Confined words i after) (other : j ≠ i)
    (owned : w.Owned words j) : (w.served i after).Owned words j where
  single s hs t ht first second := by
    obtain ⟨sBefore, sMade⟩ := confined.from_before other hs first
    obtain ⟨tBefore, tMade⟩ := confined.from_before other ht second
    exact owned.single s sBefore t tBefore sMade tMade
  marked s hs made := by
    obtain ⟨before, wasMade⟩ := confined.from_before other hs made
    exact owned.marked s before wasMade
  drawn s hs made := by
    obtain ⟨before, wasMade⟩ := confined.from_before other hs made
    exact owned.drawn s before wasMade

theorem served_consistent {after : List c.Record} (consistent : w.Consistent words)
    (confined : w.Confined words i after) : (w.served i after).Consistent words where
  unique := confined.unique
  strangers s hs made := by
    rcases confined.made s hs with before | mine
    · rw [served_maker_of_mem i after before] at made
      exact consistent.strangers s before made
    · rw [mine] at made
      cases made
  owned j := by
    by_cases same : j = i
    · subst same
      exact confined.owned
    · exact served_owned confined same (consistent.owned j)
  apart := consistent.apart
  unspoken := consistent.unspoken
  ahead := consistent.ahead

/-- What a machine knows stays true while requests of others are served. -/
theorem knows_served {after : List c.Record} (consistent : w.Consistent words)
    (confined : w.Confined words i after) (other : j ≠ i) {k : Knowledge c.Record}
    (knows : w.Knows j k) : (w.served i after).Knows j k := by
  cases k with
  | unknown => trivial
  | vacant =>
    intro s member carries
    have made := (served_consistent consistent confined).maker_of_carries member
      (.inl rfl : ((w.served i after).agents j).GoesBy _) carries
    obtain ⟨before, -⟩ := confined.from_before other member made
    exact knows s before carries
  | found s =>
    obtain ⟨carries, t, member, sameId, sameMarks, made⟩ := knows
    have kept : t ∈ after := by
      refine confined.kept t member ?_
      rw [made]
      exact fun h => other (Option.some.inj h)
    have still : (w.served i after).maker (c.id t) = some j :=
      (served_maker_of_mem i after member).trans made
    exact ⟨carries, t, kept, sameId, sameMarks, still⟩

theorem confined_self (consistent : w.Consistent words) : w.Confined words i w.records where
  unique := consistent.unique
  kept _ member _ := member
  made _ member := .inl member
  owned := by
    rw [served_self]
    exact consistent.owned i
  handed _ _ s member _ := ⟨s, member, rfl, .inl rfl⟩

theorem confined_cons (consistent : w.Consistent words) {s : c.Record}
    (settled : (w.agents i).target = none) (vacant : w.Knows i .vacant)
    (new : c.id s ∉ w.records.map c.id) (carries : c.carries (c.marks s) (w.agents i).uid)
    (drawn : ∀ u, c.carries (c.marks s) u → u = (w.agents i).uid ∨ words (some i) u) :
    w.Confined words i (s :: w.records) := by
  have none_before : ∀ t ∈ w.records, w.maker (c.id t) ≠ some i := by
    intro t member made
    obtain ⟨u, known, carried⟩ := (consistent.owned i).marked t member made
    rcases known with rfl | aimed
    · exact vacant t member carried
    · rw [settled] at aimed
      cases aimed
  have only : ∀ t ∈ s :: w.records, (w.served i (s :: w.records)).maker (c.id t) = some i →
      t = s := by
    intro t member made
    rcases List.mem_cons.mp member with rfl | before
    · rfl
    · rw [served_maker_of_mem i _ before] at made
      exact absurd made (none_before t before)
  constructor
  case unique =>
    rw [List.map_cons, List.nodup_cons]
    exact ⟨new, consistent.unique⟩
  case kept =>
    intro t member _
    exact List.mem_cons_of_mem s member
  case made =>
    intro t member
    rcases List.mem_cons.mp member with rfl | before
    · exact .inr (served_maker_of_new i List.mem_cons_self new)
    · exact .inl before
  case owned =>
    constructor
    · intro t ht u hu first second
      rw [only t ht first, only u hu second]
    · intro t ht made
      rw [only t ht made]
      exact ⟨(w.agents i).uid, .inl rfl, carries⟩
    · intro t ht made u carried
      rw [only t ht made] at carried
      rcases drawn u carried with rfl | spoken
      · exact .inl (.inl (.inl rfl))
      · exact .inr spoken
  case handed =>
    intro v aimed
    rw [settled] at aimed
    cases aimed

theorem confined_map (consistent : w.Consistent words) (renames : c.Renames)
    {f : c.Record → c.Record} {v : String} (aimed : (w.agents i).target = some v)
    (same : ∀ t ∈ w.records, c.id (f t) = c.id t)
    (others : ∀ t ∈ w.records, w.maker (c.id t) ≠ some i → f t = t)
    (mine : ∀ t ∈ w.records, w.maker (c.id t) = some i → c.marks (f t) = c.marks t ∨
      c.carries (c.marks t) (w.agents i).uid ∧
        c.marks (f t) = c.renamed (c.marks t) (w.agents i).uid v) :
    w.Confined words i (w.records.map f) := by
  have source : ∀ s ∈ w.records.map f, ∃ t ∈ w.records, f t = s ∧
      (w.served i (w.records.map f)).maker (c.id s) = w.maker (c.id t) := by
    intro s member
    obtain ⟨t, before, rfl⟩ := List.mem_map.mp member
    refine ⟨t, before, rfl, ?_⟩
    rw [same t before]
    exact served_maker_of_mem i _ before
  constructor
  case unique =>
    have ids : (w.records.map f).map c.id = w.records.map c.id := by
      rw [List.map_map]
      exact List.map_congr_left same
    rw [ids]
    exact consistent.unique
  case kept =>
    intro t member notMine
    exact List.mem_map.mpr ⟨t, member, others t member notMine⟩
  case made =>
    intro s member
    obtain ⟨t, before, rfl, made⟩ := source s member
    by_cases his : w.maker (c.id t) = some i
    · exact .inr (made.trans his)
    · rw [others t before his]
      exact .inl before
  case owned =>
    constructor
    · intro s hs t ht first second
      obtain ⟨s', sBefore, rfl, sMade⟩ := source s hs
      obtain ⟨t', tBefore, rfl, tMade⟩ := source t ht
      rw [(consistent.owned i).single s' sBefore t' tBefore (sMade.symm.trans first)
        (tMade.symm.trans second)]
    · intro s hs made
      obtain ⟨t, before, rfl, wasMade⟩ := source s hs
      rcases mine t before (wasMade.symm.trans made) with keeps | ⟨-, changed⟩
      · rw [keeps]
        exact (consistent.owned i).marked t before (wasMade.symm.trans made)
      · rw [changed]
        exact ⟨v, .inr aimed, renames.carries _ _ _⟩
    · intro s hs made u carried
      obtain ⟨t, before, rfl, wasMade⟩ := source s hs
      have earlier := (consistent.owned i).drawn t before (wasMade.symm.trans made)
      rcases mine t before (wasMade.symm.trans made) with keeps | ⟨carries, changed⟩
      · rw [keeps] at carried
        exact earlier u carried
      · rw [changed] at carried
        rcases renames.only _ _ _ u carries carried with rfl | ⟨-, old⟩
        · exact .inl (.inl (.inr aimed))
        · exact earlier u old
  case handed =>
    intro v' aimed' s member made
    have sameTarget : v' = v := Option.some.inj (aimed'.symm.trans aimed)
    subst sameTarget
    exact ⟨f s, List.mem_map_of_mem member, same s member, mine s member made⟩

theorem confined_filter (consistent : w.Consistent words) {p : c.Record → Bool}
    (settled : (w.agents i).target = none)
    (others : ∀ t ∈ w.records, w.maker (c.id t) ≠ some i → p t = true) :
    w.Confined words i (w.records.filter p) := by
  have before : ∀ s ∈ w.records.filter p, s ∈ w.records := by
    intro s member
    exact List.mem_of_mem_filter member
  have made : ∀ s ∈ w.records.filter p,
      (w.served i (w.records.filter p)).maker (c.id s) = w.maker (c.id s) := by
    intro s member
    exact served_maker_of_mem i _ (before s member)
  constructor
  case unique =>
    exact consistent.unique.sublist ((List.filter_sublist).map c.id)
  case kept =>
    intro t member notMine
    exact List.mem_filter.mpr ⟨member, others t member notMine⟩
  case made =>
    intro s member
    exact .inl (before s member)
  case owned =>
    constructor
    · intro s hs t ht first second
      rw [made s hs] at first
      rw [made t ht] at second
      exact (consistent.owned i).single s (before s hs) t (before t ht) first second
    · intro s hs mine
      rw [made s hs] at mine
      exact (consistent.owned i).marked s (before s hs) mine
    · intro s hs mine
      rw [made s hs] at mine
      exact (consistent.owned i).drawn s (before s hs) mine
  case handed =>
    intro v aimed
    rw [settled] at aimed
    cases aimed

end World

end MachineFleet
