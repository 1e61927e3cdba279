import MachineFleet.Cloud.ValidationCache
import MachineFleet.Proofs.Dict

/-!
What a cache of validation outcomes still knows at a time, key by key. Every operation is described
by what is known at any later time, so an entry that has expired and one that is gone are the same.
-/

namespace MachineFleet.ValidationCache

/-- The entry of a key that is still used at a time. -/
def known? (c : ValidationCache) (now : Nat) (k : String) : Option Entry :=
  (c.entries.get? k).filter (c.isLive now)

variable {c : ValidationCache} {now later : Nat} {k : String} {e : Entry}

theorem known?_eq_some : c.known? now k = some e ↔ c.entries.get? k = some e ∧ c.isLive now e := by
  simp only [known?, Option.filter_eq_some_iff]

/-- An entry that has expired never comes back. -/
theorem isLive_of_later (ordered : now ≤ later) (live : c.isLive later e) : c.isLive now e := by
  simp only [isLive, decide_eq_true_eq] at live ⊢
  omega

theorem isLive_eq {c' : ValidationCache} (same : c'.ttl = c.ttl) : c'.isLive = c.isLive := by
  funext now e
  simp only [isLive, same]

theorem filter_isLive (ordered : now ≤ later) (o : Option Entry) :
    (o.filter (c.isLive now)).filter (c.isLive later) = o.filter (c.isLive later) := by
  apply Option.ext
  intro e
  simp only [Option.filter_eq_some_iff]
  constructor
  · rintro ⟨⟨present, -⟩, live⟩
    exact ⟨present, live⟩
  · rintro ⟨present, live⟩
    exact ⟨⟨present, isLive_of_later ordered live⟩, live⟩

theorem get_fst (c : ValidationCache) (now : Nat) (spec : MachineSpec) :
    (c.get now spec).1 = (c.known? now (key spec)).map Entry.outcome := by
  unfold get known?
  dsimp only
  cases c.entries.get? (key spec) with
  | none => rfl
  | some e =>
    dsimp only
    split
    · rename_i live
      rw [Option.filter_some, if_pos live]
      rfl
    · rename_i expired
      rw [Option.filter_some, if_neg expired]
      rfl

theorem get_ttl (c : ValidationCache) (now : Nat) (spec : MachineSpec) :
    (c.get now spec).2.ttl = c.ttl := by
  unfold get
  dsimp only
  split
  · rfl
  · split <;> rfl

/-- A look-up removes nothing that is still used. -/
theorem known?_get (ordered : now ≤ later) (spec : MachineSpec) :
    (c.get now spec).2.known? later k = c.known? later k := by
  unfold get
  dsimp only
  split
  · rfl
  · rename_i e present
    split
    · rfl
    · rename_i expired
      have gone : ¬ c.isLive later e := fun live => expired (isLive_of_later ordered live)
      show ((c.entries.erase (key spec)).get? k).filter (c.isLive later) = c.known? later k
      rw [Dict.get?_erase]
      split
      · rename_i same
        rw [known?, same, present, Option.filter_some, if_neg gone]
        rfl
      · rfl

theorem known?_set (ordered : now ≤ later) (spec : MachineSpec) (o : ValidationOutcome) :
    (c.set now spec o).known? later k =
      if k = key spec then (some ⟨now, o⟩ : Option Entry).filter (c.isLive later)
      else c.known? later k := by
  have entries : (c.set now spec o).entries.get? k =
      if k = key spec then some ⟨now, o⟩ else (c.entries.get? k).filter (c.isLive now) := by
    simp only [set, purge, Dict.get?_insert, Dict.get?_filterValues]
  have isLive_eq : (c.set now spec o).isLive = c.isLive := rfl
  unfold known?
  rw [entries, isLive_eq]
  split
  · rfl
  · exact filter_isLive ordered _

/-- What was found about a specification is repeated for all with its key while it is live. -/
theorem get_record (ordered : now ≤ later) {spec spec' : MachineSpec} (same : key spec = key spec')
    {a : Except CloudError Unit} {o : ValidationOutcome} (final : outcome? a = some o) :
    ((c.record now spec a).get later spec').1 = if later - now < c.ttl then some o else none := by
  rw [record, final, get_fst, ← same, known?_set ordered, if_pos rfl, Option.filter_some]
  simp only [isLive, decide_eq_true_eq]
  split <;> rfl

/-- Each entry of one of these specifications is what validating that one gives. -/
def Truthful (c : ValidationCache) (truth : MachineSpec → Except CloudError Unit)
    (among : MachineSpec → Prop) : Prop :=
  ∀ spec, among spec → ∀ e, c.entries.get? (key spec) = some e → e.outcome.answer = truth spec

variable {truth : MachineSpec → Except CloudError Unit} {among : MachineSpec → Prop}

theorem Truthful.get (truthful : c.Truthful truth among) (now : Nat) (spec : MachineSpec) :
    (c.get now spec).2.Truthful truth among := by
  intro other member e found
  refine truthful other member e ?_
  unfold ValidationCache.get at found
  dsimp only at found
  split at found
  · exact found
  split at found
  · exact found
  · rw [Dict.get?_erase] at found
    split at found
    · cases found
    · exact found

/-- A verdict may be recorded if it is the verdict on all specifications with its key. -/
theorem Truthful.record (truthful : c.Truthful truth among) (now : Nat) {spec : MachineSpec}
    (shared : ∀ other, among other → key other = key spec → truth other = truth spec)
    (whole : ∀ o, outcome? (truth spec) = some o → o.answer = truth spec) :
    (c.record now spec (truth spec)).Truthful truth among := by
  intro other member e found
  unfold ValidationCache.record at found
  split at found
  · rename_i o kept
    simp only [set, purge, Dict.get?_insert, Dict.get?_filterValues] at found
    split at found
    · rename_i same
      obtain rfl := Option.some.inj found
      exact (whole o kept).trans (shared other member same).symm
    · exact truthful other member e (Option.filter_eq_some_iff.mp found).1
  · exact truthful other member e found

end MachineFleet.ValidationCache
