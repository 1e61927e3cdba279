import MachineFleet.Proofs.Cloud.Error
import MachineFleet.Proofs.Cloud.ValidationCache

/-!
Validation with a cache in front of a cloud, over whole runs. Every consultation of the cloud is
put on record, and the record alone decides what a call answers: the newest consultation about the
same provider section that is final and younger than the time to live is repeated, and the cloud is
consulted where there is none. A repetition is not put on record, so it prolongs nothing.
-/

namespace MachineFleet.ValidationCache

/-- What a cloud answers, for how long that takes it, and what it is like afterwards. -/
structure Reply (σ : Type) where
  answer : Except CloudError Unit
  takes : Nat
  next : σ

/-- A cloud that validates as it likes. -/
abbrev Validator (σ : Type) : Type := MachineSpec → σ → Reply σ

structure Consultation where
  spec : MachineSpec
  ended : Nat
  answer : Except CloudError Unit

/-- The clock, the cloud, and what the cloud was consulted about, the newest first. -/
structure Site (σ : Type) where
  now : Nat
  cloud : σ
  record : List Consultation := []

structure Desk (σ : Type) where
  cache : ValidationCache
  site : Site σ

variable {σ : Type}

def consult (v : Validator σ) (spec : MachineSpec) : StateM (Site σ) (Except CloudError Unit) :=
  fun w =>
    let r := v spec w.cloud
    let ended := w.now + r.takes
    (r.answer, { now := ended, cloud := r.next, record := ⟨spec, ended, r.answer⟩ :: w.record })

/-- A call of the validation that has the cache in front. -/
def ask (v : Validator σ) (spec : MachineSpec) (d : Desk σ) : Except CloudError Unit × Desk σ :=
  let ((a, cache), site) :=
    (d.cache.validate (m := StateM (Site σ)) (fun w => (w.now, w)) (consult v) spec).run d.site
  (a, { cache, site })

inductive Step where
  | pause (time : Nat)
  | call (spec : MachineSpec)

def step (v : Validator σ) (d : Desk σ) : Step → Desk σ
  | .pause time => { d with site := { d.site with now := d.site.now + time } }
  | .call spec => (ask v spec d).2

/-- Calls and pauses in any order, beginning with an empty cache. -/
def runFrom (v : Validator σ) (ttl now : Nat) (cloud : σ) (steps : List Step) : Desk σ :=
  steps.foldl (step v) { cache := { ttl }, site := { now, cloud } }

namespace Consultation

/-- Success, or a failure that is terminal. -/
def IsFinal (c : Consultation) : Prop := ∀ e, c.answer = .error e → e.classify = .terminal

/-- The consultation was about the same provider section, and it may be repeated. -/
structure Covers (c : Consultation) (ttl now : Nat) (spec : MachineSpec) : Prop where
  same : key c.spec = key spec
  final : c.IsFinal
  recent : now < c.ended + ttl

end Consultation

/-- The second answer says what the first one said. -/
inductive Repeats : Except CloudError Unit → Except CloudError Unit → Prop where
  | passed : Repeats (.ok ()) (.ok ())
  | rejected {e : CloudError} {t : TerminalError} (cause : e.terminal? = some t) :
      Repeats (.error e) (.error (.terminal t))

/-- The call puts a consultation on record. -/
def Consults (v : Validator σ) (d : Desk σ) (spec : MachineSpec) : Prop :=
  (ask v spec d).2.site.record ≠ d.site.record

/-- How the record decides what a call answers. -/
structure Decided (v : Validator σ) (ttl : Nat) (d : Desk σ) (spec : MachineSpec) : Prop where
  consults : Consults v d spec ↔ ∀ c ∈ d.site.record, ¬ c.Covers ttl d.site.now spec
  consulted : Consults v d spec → (ask v spec d).1 = (v spec d.site.cloud).answer ∧
    (ask v spec d).2.site = (consult v spec d.site).2
  repeated : ¬ Consults v d spec → (ask v spec d).2.site = d.site ∧
    ∃ newer c older, d.site.record = newer ++ c :: older ∧ c.Covers ttl d.site.now spec ∧
      (∀ n ∈ newer, ¬ n.Covers ttl d.site.now spec) ∧ Repeats c.answer (ask v spec d).1

theorem outcome?_isSome (c : Consultation) : (outcome? c.answer).isSome = true ↔ c.IsFinal := by
  unfold Consultation.IsFinal
  cases c.answer with
  | ok u => simp [outcome?]
  | error e =>
    have agree := e.classify_terminal_iff
    by_cases terminal : e.classify = .terminal
    · simp [outcome?, terminal, agree.mp terminal]
    · simp [outcome?, terminal]

theorem repeats_of_outcome? {a : Except CloudError Unit} {o : ValidationOutcome}
    (kept : outcome? a = some o) : Repeats a o.answer := by
  cases a with
  | ok u =>
    cases kept
    exact .passed
  | error e =>
    unfold outcome? at kept
    dsimp only at kept
    split at kept
    · obtain ⟨t, cause, rfl⟩ := Option.map_eq_some_iff.mp kept
      exact .rejected cause
    · cases kept

def Consultation.leaves? (c : Consultation) (k : String) : Option Entry :=
  if key c.spec = k then (outcome? c.answer).map (Entry.mk c.ended) else none

/-- The newest entry that the consultations on record make for a key. -/
def newest? (record : List Consultation) (k : String) : Option Entry :=
  record.findSome? fun c => c.leaves? k

variable {v : Validator σ} {ttl : Nat} {d : Desk σ} {spec : MachineSpec} {e : Entry}
  {c : Consultation} {record : List Consultation} {now : Nat}

theorem leaves?_eq_some {k : String} (made : c.leaves? k = some e) :
    key c.spec = k ∧ c.IsFinal ∧ c.ended = e.storedAt ∧ outcome? c.answer = some e.outcome := by
  unfold Consultation.leaves? at made
  split at made
  · rename_i same
    obtain ⟨o, kept, rfl⟩ := Option.map_eq_some_iff.mp made
    exact ⟨same, (outcome?_isSome c).mp (by simp [kept]), rfl, kept⟩
  · cases made

theorem leaves?_of_final (same : key c.spec = key spec) (final : c.IsFinal) :
    ∃ e, c.leaves? (key spec) = some e := by
  obtain ⟨o, kept⟩ := Option.isSome_iff_exists.mp ((outcome?_isSome c).mpr final)
  exact ⟨⟨c.ended, o⟩, by simp [Consultation.leaves?, same, kept]⟩

/-- At any later time the cache knows of each key what the record says. -/
structure Mirrors (ttl : Nat) (d : Desk σ) : Prop where
  ttl : d.cache.ttl = ttl
  known : ∀ later, d.site.now ≤ later → ∀ k,
    d.cache.known? later k = (newest? d.site.record k).filter (d.cache.isLive later)
  past : ∀ c ∈ d.site.record, c.ended ≤ d.site.now
  order : d.site.record.Pairwise fun newer older => older.ended ≤ newer.ended

theorem ask_hit (hit : d.cache.known? d.site.now (key spec) = some e) :
    ask v spec d = (e.outcome.answer, { d with cache := (d.cache.get d.site.now spec).2 }) := by
  have found : (d.cache.get d.site.now spec).1 = some e.outcome := by rw [get_fst, hit]; rfl
  unfold ask ValidationCache.validate
  dsimp only [StateT.run, Bind.bind, StateT.bind, pure, StateT.pure]
  cases looked : d.cache.get d.site.now spec with
  | mk outcome cache =>
    rw [looked] at found
    cases found
    rfl

theorem ask_miss (miss : d.cache.known? d.site.now (key spec) = none) :
    ask v spec d = ((v spec d.site.cloud).answer,
      { cache := (d.cache.get d.site.now spec).2.record (consult v spec d.site).2.now spec
          (v spec d.site.cloud).answer
        site := (consult v spec d.site).2 }) := by
  have found : (d.cache.get d.site.now spec).1 = none := by rw [get_fst, miss]; rfl
  unfold ask ValidationCache.validate
  dsimp only [StateT.run, Bind.bind, StateT.bind, pure, StateT.pure]
  cases looked : d.cache.get d.site.now spec with
  | mk outcome cache =>
    rw [looked] at found
    cases found
    rfl

theorem consults_iff_miss :
    Consults v d spec ↔ d.cache.known? d.site.now (key spec) = none := by
  unfold Consults
  cases known : d.cache.known? d.site.now (key spec) with
  | some e => simp [ask_hit known]
  | none => simp [ask_miss known, consult]

theorem mirrors_start (ttl now : Nat) (cloud : σ) :
    Mirrors ttl ({ cache := { ttl }, site := { now, cloud } } : Desk σ) where
  ttl := rfl
  known _ _ _ := rfl
  past _ member := absurd member List.not_mem_nil
  order := List.Pairwise.nil

theorem Mirrors.pause (mirrors : Mirrors ttl d) (time : Nat) :
    Mirrors ttl (step v d (.pause time)) where
  ttl := mirrors.ttl
  known later passed k := mirrors.known later (Nat.le_trans (Nat.le_add_right _ _) passed) k
  past c member := Nat.le_trans (mirrors.past c member) (Nat.le_add_right _ _)
  order := mirrors.order

theorem Mirrors.hit (mirrors : Mirrors ttl d)
    (hit : d.cache.known? d.site.now (key spec) = some e) :
    Mirrors ttl (ask v spec d).2 := by
  rw [ask_hit hit]
  have same : (d.cache.get d.site.now spec).2.ttl = d.cache.ttl := get_ttl d.cache d.site.now spec
  constructor
  case ttl => exact same.trans mirrors.ttl
  case known =>
    intro later passed k
    rw [known?_get passed, isLive_eq same]
    exact mirrors.known later passed k
  case past => exact mirrors.past
  case order => exact mirrors.order

theorem record_ttl (c : ValidationCache) (now : Nat) (spec : MachineSpec)
    (a : Except CloudError Unit) : (c.record now spec a).ttl = c.ttl := by
  unfold ValidationCache.record
  split <;> rfl

/-- An answer is entered in the cache as it is put on record. -/
theorem known?_record {later : Nat} (passed : now ≤ later) (a : Except CloudError Unit)
    (k : String) (cache : ValidationCache) :
    (cache.record now spec a).known? later k =
      match (Consultation.mk spec now a).leaves? k with
      | some e => (some e).filter (cache.isLive later)
      | none => cache.known? later k := by
  unfold ValidationCache.record Consultation.leaves?
  dsimp only
  cases outcome? a with
  | none => simp
  | some o =>
    dsimp only
    rw [known?_set passed]
    by_cases same : k = key spec
    · simp [same]
    · simp [same, Ne.symm same]

theorem Mirrors.miss (mirrors : Mirrors ttl d)
    (miss : d.cache.known? d.site.now (key spec) = none) :
    Mirrors ttl (ask v spec d).2 := by
  rw [ask_miss miss]
  have same : (d.cache.get d.site.now spec).2.ttl = d.cache.ttl := get_ttl d.cache d.site.now spec
  have elapsed : d.site.now ≤ (consult v spec d.site).2.now := Nat.le_add_right _ _
  constructor
  case ttl => exact (record_ttl _ _ _ _).trans (same.trans mirrors.ttl)
  case known =>
    intro later passed k
    rw [known?_record passed, isLive_eq (record_ttl _ _ _ _), isLive_eq same,
      known?_get (Nat.le_trans elapsed passed),
      mirrors.known later (Nat.le_trans elapsed passed) k]
    simp only [consult, newest?, List.findSome?_cons]
    split
    · rename_i made
      rw [made]
    · rename_i made
      rw [made]
  case past =>
    intro c member
    rcases List.mem_cons.mp member with rfl | earlier
    · exact Nat.le_refl _
    · exact Nat.le_trans (mirrors.past c earlier) elapsed
  case order =>
    refine List.pairwise_cons.mpr ⟨fun c earlier => ?_, mirrors.order⟩
    exact Nat.le_trans (mirrors.past c earlier) elapsed

theorem Mirrors.step (mirrors : Mirrors ttl d) (s : Step) : Mirrors ttl (step v d s) := by
  cases s with
  | pause time => exact mirrors.pause time
  | call spec =>
    cases known : d.cache.known? d.site.now (key spec) with
    | some e => exact mirrors.hit known
    | none => exact mirrors.miss known

theorem mirrors_run (v : Validator σ) (ttl now : Nat) (cloud : σ) (steps : List Step) :
    Mirrors ttl (runFrom v ttl now cloud steps) := by
  unfold runFrom
  generalize start : ({ cache := { ttl }, site := { now, cloud } } : Desk σ) = d
  have mirrors : Mirrors ttl d := start ▸ mirrors_start ttl now cloud
  clear start
  induction steps generalizing d with
  | nil => exact mirrors
  | cons s rest ih => exact ih _ (mirrors.step s)

/-- The newest entry of a key that is still used comes from the newest consultation that may be
repeated. -/
theorem newest?_covers {later : Nat} (cache : ValidationCache)
    (newest : newest? record (key spec) = some e) (live : cache.isLive later e = true)
    (past : ∀ c ∈ record, c.ended ≤ later) :
    ∃ newer c older, record = newer ++ c :: older ∧ c.Covers cache.ttl later spec ∧
      (∀ n ∈ newer, ¬ n.Covers cache.ttl later spec) ∧ Repeats c.answer e.outcome.answer := by
  obtain ⟨newer, c, older, rfl, made, unmade⟩ := List.findSome?_eq_some_iff.mp newest
  obtain ⟨same, final, ended, kept⟩ := leaves?_eq_some made
  refine ⟨newer, c, older, rfl, ⟨same, final, ?_⟩, ?_, repeats_of_outcome? kept⟩
  · have bound := past c (by simp)
    simp only [isLive, decide_eq_true_eq] at live
    omega
  · intro n member covers
    obtain ⟨e', other⟩ := leaves?_of_final covers.same covers.final
    rw [unmade n member] at other
    cases other

/-- A consultation that may be repeated leaves an entry that is used, if a newer one has not. -/
theorem newest?_of_covers (cache : ValidationCache) (member : c ∈ record)
    (covers : c.Covers cache.ttl now spec)
    (order : record.Pairwise fun newer older => older.ended ≤ newer.ended)
    (past : ∀ c ∈ record, c.ended ≤ now) :
    ∃ e, newest? record (key spec) = some e ∧ cache.isLive now e = true := by
  induction record with
  | nil => cases member
  | cons first rest ih =>
    obtain ⟨newest, order⟩ := List.pairwise_cons.mp order
    unfold newest?
    rw [List.findSome?_cons]
    cases made : first.leaves? (key spec) with
    | some e =>
      -- What is on record later ended no earlier, so it is live if an older one is.
      have recent : now < first.ended + cache.ttl := by
        rcases List.mem_cons.mp member with rfl | older
        · exact covers.recent
        · exact Nat.lt_of_lt_of_le covers.recent (Nat.add_le_add_right (newest c older) _)
      obtain ⟨-, -, ended, -⟩ := leaves?_eq_some made
      refine ⟨e, rfl, ?_⟩
      have bound := past first List.mem_cons_self
      simp only [isLive, decide_eq_true_eq]
      omega
    | none =>
      rcases List.mem_cons.mp member with rfl | older
      · obtain ⟨e, other⟩ := leaves?_of_final covers.same covers.final
        rw [made] at other
        cases other
      · exact ih older order fun c member => past c (List.mem_cons_of_mem _ member)

theorem Mirrors.decided (mirrors : Mirrors ttl d) (spec : MachineSpec) : Decided v ttl d spec := by
  have known := mirrors.known d.site.now (Nat.le_refl _) (key spec)
  obtain rfl := mirrors.ttl
  constructor
  case consults =>
    rw [consults_iff_miss, known]
    constructor
    · intro miss c member covers
      obtain ⟨e, newest, live⟩ :=
        newest?_of_covers d.cache member covers mirrors.order mirrors.past
      rw [newest, Option.filter_some, if_pos live] at miss
      cases miss
    · intro uncovered
      refine Option.eq_none_iff_forall_ne_some.mpr fun e found => ?_
      obtain ⟨newest, live⟩ := Option.filter_eq_some_iff.mp found
      obtain ⟨newer, c, older, order, covers, -⟩ :=
        newest?_covers d.cache newest live mirrors.past
      exact uncovered c (order ▸ by simp) covers
  case consulted =>
    intro consults
    rw [ask_miss (consults_iff_miss.mp consults)]
    exact ⟨rfl, rfl⟩
  case repeated =>
    intro silent
    cases found : d.cache.known? d.site.now (key spec) with
    | none => exact absurd (consults_iff_miss.mpr found) silent
    | some e =>
      obtain ⟨newest, live⟩ := Option.filter_eq_some_iff.mp (known.symm.trans found)
      rw [ask_hit found]
      exact ⟨rfl, newest?_covers d.cache newest live mirrors.past⟩

/-- In any run, a call consults the cloud exactly if no consultation about the same provider
section ended less than the time to live ago with success or a terminal failure, and repeats the
newest of these otherwise. -/
theorem record_decides (v : Validator σ) (ttl now : Nat) (cloud : σ) (steps : List Step)
    (spec : MachineSpec) : Decided v ttl (runFrom v ttl now cloud steps) spec :=
  (mirrors_run v ttl now cloud steps).decided spec

end MachineFleet.ValidationCache
