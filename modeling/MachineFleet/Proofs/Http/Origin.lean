import MachineFleet.Proofs.Http.Absence

/-!
Where an instance on a cloud with an API comes from. A run that reports it has found a record at its
first look-up, or it has asked for a creation; and there are two look-ups then, since the creation
searches by itself and may find what the first look-up has missed.
-/

namespace MachineFleet.Http.Service

open Program

variable (S : Service)

/-- The API has named a record of the machine. -/
def Sees (r : Resolver) (m : Machine) (e : Event) : Prop :=
  ∃ x rest, S.Searched r m [e] (x :: rest)

/-- A record is made, and by one request only. -/
def Posts (t : List Event) : Prop :=
  ∃ u e v, t = u ++ e :: v ∧ S.Creates e.1 ∧ ¬ S.Fails e ∧ ∀ e' ∈ u ++ v, ¬ S.Creates e'.1

/-- Of two searches in a row, the first one finds no record of the machine and the second does. -/
def Overlooks (r : Resolver) (m : Machine) (t : List Event) : Prop :=
  ∃ u e e' v, t = u ++ e :: e' :: v ∧ S.Searched r m [e] [] ∧ S.Sees r m e'

/-- The ways in which an instance comes to be reported, by the events of the whole run, with what
is then said of its creation. -/
inductive Origin (r : Resolver) (m : Machine) : List Event → Bool → Prop where
  | found {checks polls : List Event} {e : Event} (looks : ∀ q ∈ checks, S.LooksUp q.1)
      (seen : S.Sees r m e) (waits : ∀ q ∈ polls, S.Sees r m q) :
      Origin r m (checks ++ e :: polls) false
  | overlooked {checks polls : List Event} {e e' : Event} (looks : ∀ q ∈ checks, S.LooksUp q.1)
      (missed : S.Searched r m [e] []) (seen : S.Sees r m e')
      (waits : ∀ q ∈ polls, S.Sees r m q) : Origin r m (checks ++ e :: e' :: polls) true
  | made {checks creation polls : List Event} {e : Event} (looks : ∀ q ∈ checks, S.LooksUp q.1)
      (missed : S.Searched r m [e] []) (posts : S.Posts creation)
      (waits : ∀ q ∈ polls, S.Sees r m q) :
      Origin r m (checks ++ e :: (creation ++ polls)) true

/-- What a report says of the creation of a record, by the events of the whole run. -/
structure TellsCreation (r : Resolver) (m : Machine) (t : List Event) (created : Bool) : Prop where
  flag : created = true ↔ (∃ e ∈ t, S.Creates e.1 ∧ ¬ S.Fails e) ∨ S.Overlooks r m t
  single : ∀ u e v, t = u ++ e :: v → S.Creates e.1 →
    ¬ S.Fails e ∧ ∀ e' ∈ u ++ v, ¬ S.Creates e'.1
  reused : created = false → ∀ e ∈ t, e.1.method = .get

variable {S} {r : Resolver} {m : Machine} {e : Event} {t : List Event} {rs : List S.Record}

theorem Searched.request (searched : S.Searched r m [e] rs) :
    e.1.method = .get ∧ e.1.path = S.collection := by
  obtain ⟨c, reply, -, asked, -⟩ := searched
  cases asked
  exact ⟨rfl, rfl⟩

theorem Searched.event (searched : S.Searched r m t rs) : ∃ e, t = [e] := by
  obtain ⟨c, reply, -, asked, -⟩ := searched
  exact ⟨_, asked⟩

theorem Searched.unique {rs' : List S.Record} (searched : S.Searched r m t rs)
    (searched' : S.Searched r m t rs') : rs = rs' := by
  obtain ⟨c, reply, -, rfl, found⟩ := searched
  obtain ⟨c', reply', -, asked, found'⟩ := searched'
  cases reply_of_single asked
  exact Option.some.inj (found.symm.trans found')

/-- The event only looks, and does not tell that there is no record. -/
theorem Sees.looks (sees : S.Sees r m e) :
    e.1.method = .get ∧ ¬ S.Searched r m [e] [] := by
  obtain ⟨x, rest, searched⟩ := sees
  exact ⟨searched.request.1, fun none => nomatch searched.unique none⟩

theorem LooksUp.looks (looks : S.LooksUp e.1) :
    e.1.method = .get ∧ ¬ S.Searched r m [e] [] :=
  ⟨looks.1, fun searched => looks.2 searched.request.2⟩

theorem not_creates_of_get (looks : e.1.method = .get) : ¬ S.Creates e.1 :=
  fun creates => nomatch looks.symm.trans creates.1

theorem Posts.append {before after : List Event} (posts : S.Posts t)
    (looks : ∀ q ∈ before ++ after, q.1.method = .get) : S.Posts (before ++ (t ++ after)) := by
  obtain ⟨u, e, v, rfl, creates, succeeds, only⟩ := posts
  refine ⟨before ++ u, e, v ++ after, by simp, creates, succeeds, fun q member => ?_⟩
  by_cases own : q ∈ u ++ v
  · exact only q own
  · refine not_creates_of_get (looks q ?_)
    simp only [List.mem_append, not_or] at member own ⊢
    tauto

/-- The request that makes the record is the one that there is. -/
theorem Posts.single (posts : S.Posts t) {u v : List Event} (split : t = u ++ e :: v)
    (creates : S.Creates e.1) : ¬ S.Fails e ∧ ∀ q ∈ u ++ v, ¬ S.Creates q.1 := by
  obtain ⟨u', e', v', rfl, -, succeeds, only⟩ := posts
  rcases split_append split with ⟨w, early, -⟩ | ⟨w, rfl, late⟩
  · exact absurd creates (only e (by simp [early]))
  cases w with
  | nil =>
    cases late
    rw [List.append_nil]
    exact ⟨succeeds, only⟩
  | cons q w =>
    cases late
    exact absurd creates (only e (by simp))

theorem Origin.looks (origin : S.Origin r m t false) :
    ∀ q ∈ t, q.1.method = .get ∧ ¬ S.Searched r m [q] [] := by
  cases origin with
  | found looks seen waits =>
    refine List.forall_mem_append.mpr ⟨fun q check => (looks q check).looks, ?_⟩
    exact List.forall_mem_cons.mpr ⟨seen.looks, fun q poll => (waits q poll).looks⟩

theorem Origin.posts (origin : S.Origin r m t true) :
    S.Posts t ∨ (∀ q ∈ t, q.1.method = .get) ∧ S.Overlooks r m t := by
  cases origin with
  | @overlooked checks polls e e' looks missed seen waits =>
    refine .inr ⟨?_, checks, e, e', polls, rfl, missed, seen⟩
    refine List.forall_mem_append.mpr ⟨fun q check => (looks q check).1, ?_⟩
    refine List.forall_mem_cons.mpr ⟨missed.request.1, ?_⟩
    exact List.forall_mem_cons.mpr ⟨seen.looks.1, fun q poll => (waits q poll).looks.1⟩
  | @made checks creation polls e looks missed posts waits =>
    refine .inl ?_
    rw [List.append_cons]
    refine posts.append (List.forall_mem_append.mpr ⟨?_, fun q poll => (waits q poll).looks.1⟩)
    refine List.forall_mem_append.mpr ⟨fun q check => (looks q check).1, ?_⟩
    exact List.forall_mem_singleton.mpr missed.request.1

theorem Origin.tells {created : Bool} (origin : S.Origin r m t created) :
    S.TellsCreation r m t created := by
  cases created with
  | false =>
    have looks := origin.looks
    have none : ∀ q ∈ t, ¬ S.Creates q.1 := fun q member => not_creates_of_get (looks q member).1
    constructor
    case flag =>
      refine ⟨nofun, ?_⟩
      rintro (⟨e, member, creates, -⟩ | ⟨u, e, e', v, rfl, missed, -⟩)
      · exact absurd creates (none e member)
      · exact absurd missed (looks e (by simp)).2
    case single =>
      rintro u e v rfl creates
      exact absurd creates (none e (by simp))
    case reused => exact fun _ q member => (looks q member).1
  | true =>
    constructor
    case flag =>
      refine ⟨fun _ => ?_, fun _ => rfl⟩
      rcases origin.posts with ⟨u, e, v, rfl, creates, succeeds, -⟩ | ⟨-, overlooks⟩
      · exact .inl ⟨e, by simp, creates, succeeds⟩
      · exact .inr overlooks
    case single =>
      intro u e v split creates
      rcases origin.posts with posts | ⟨looks, -⟩
      · exact posts.single split creates
      · exact absurd creates (not_creates_of_get (looks e (by simp [split])))
    case reused => exact nofun

theorem Course.sees {i : Instance} (course : S.Course r (.get m) t (.ok i)) :
    ∃ e, t = [e] ∧ S.Sees r m e := by
  cases course with
  | apart without _ => cases without
  | got resolved search =>
    obtain ⟨rest, searched⟩ := search.searched_some resolved
    obtain ⟨e, rfl⟩ := searched.event
    exact ⟨e, rfl, _, rest, searched⟩
  | altered alters _ _ _ _ _ => cases alters

theorem Course.misses {error : CloudError} (course : S.Course r (.get m) t (.error error))
    (missing : error.classify = .notFound) : ∃ e, t = [e] ∧ S.Searched r m [e] [] := by
  obtain ⟨m', same, searched⟩ := course.missing_iff.mp ⟨error, rfl, missing⟩
  cases same
  obtain ⟨e, rfl⟩ := searched.event
  exact ⟨e, rfl, searched⟩

/-- A creation that results in an instance has found a record or made one. -/
theorem Course.creates {script : String} {i : Instance}
    (course : S.Course r (.create m script) t (.ok i)) :
    (∃ e, t = [e] ∧ S.Sees r m e) ∨ S.Posts t := by
  cases course with
  | apart without _ => cases without
  | kept resolved search =>
    obtain ⟨rest, searched⟩ := search.searched_some resolved
    obtain ⟨e, rfl⟩ := searched.event
    exact .inl ⟨e, rfl, _, rest, searched⟩
  | @posted m script c t u v e a resolved search prepares creates ends made definite clears =>
    have succeeds : ¬ S.Fails e := by
      rw [S.fails_iff]
      exact not_not_intro (made i rfl).1
    refine .inr ⟨t ++ u, e, v, by simp, creates, succeeds, fun q member => ?_⟩
    simp only [List.mem_append] at member
    rcases member with (found | prepared) | cleared
    · exact search.makes_none found
    · exact prepares.requests q prepared
    · exact (clears q cleared).1
  | altered alters _ _ _ _ _ => cases alters

end MachineFleet.Http.Service
