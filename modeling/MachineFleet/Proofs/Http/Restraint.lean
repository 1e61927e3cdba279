import MachineFleet.Proofs.Hetzner.Requests
import MachineFleet.Proofs.Vultr.Requests

/-!
What the operations of a cloud with an API refrain from. They make at most one record, and only
after they have found none; they delete or mark at most one, and only the first that they have
found; they make no request before everything is resolved, and none after a failure but those
that clear up after a creation.
-/

namespace MachineFleet

theorem split_append {α : Type} {x y u v : List α} {e : α} (h : x ++ y = u ++ e :: v) :
    (∃ w, x = u ++ e :: w ∧ v = w ++ y) ∨ ∃ w, u = x ++ w ∧ y = w ++ e :: v := by
  rcases List.append_eq_append_iff.mp h with ⟨w, early, late⟩ | ⟨w, early, late⟩
  · exact .inr ⟨w, early, late⟩
  · cases w with
    | nil => exact .inr ⟨[], by simpa using early.symm, late.symm⟩
    | cons e' w =>
      cases late
      exact .inl ⟨w, early, rfl⟩

theorem split_single {α : Type} {x u v : List α} {e e' : α} (h : x ++ [e'] = u ++ e :: v) :
    (∃ w, x = u ++ e :: w) ∨ (u = x ∧ e = e' ∧ v = []) := by
  rcases split_append h with ⟨w, early, _⟩ | ⟨w, early, late⟩
  · exact .inl ⟨w, early⟩
  · cases w with
    | nil =>
      cases late
      exact .inr ⟨by simpa using early, rfl, rfl⟩
    | cons _ w => cases w <;> cases late

namespace Http.Service

variable {s : Service} {r : Resolver} {call : CloudCall} {c : s.Config} {uid : String}
  {t : List Event}

theorem Search.orderly {o : Except CloudError (Option s.Record)} (search : s.Search c uid t o) :
    Operation.Orderly (fun q => q = s.search c uid) s.fault t o := by
  cases search with
  | unsent other => exact .nil (.error other)
  | unread _ failed other =>
    refine .single rfl (fun cause same => ?_) (.error other)
    rw [Option.some.inj (failed.symm.trans same)]
  | listed _ _ sound =>
    refine .single rfl (fun cause failed => ?_) (.ok _)
    cases sound.symm.trans failed

variable (s) in
/-- The API was asked for the records of the machine, and told which they are. -/
def Searched (r : Resolver) (m : Machine) (t : List Event) (rs : List s.Record) : Prop :=
  ∃ c reply, s.config r m.spec = .ok c ∧ t = [⟨s.search c m.uid, reply⟩] ∧
    s.found m.uid reply = some rs

theorem Search.searched {m : Machine} {o : Option s.Record} (resolved : s.config r m.spec = .ok c)
    (search : s.Search c m.uid t (.ok o)) :
    ∃ rs, s.Searched r m t rs ∧ o = rs.head? ∧ ∀ e ∈ t, s.fault e.1 e.2 = none := by
  have sound := fun e member => search.orderly.sound (e := e) member
  cases search with
  | listed _ told _ => exact ⟨_, ⟨c, _, resolved, rfl, told⟩, rfl, sound⟩

theorem Search.searched_none {m : Machine} (resolved : s.config r m.spec = .ok c)
    (search : s.Search c m.uid t (.ok none)) : s.Searched r m t [] := by
  obtain ⟨rs, searched, first, _⟩ := search.searched resolved
  rw [List.head?_eq_none_iff.mp first.symm] at searched
  exact searched

theorem Search.searched_some {m : Machine} {x : s.Record} (resolved : s.config r m.spec = .ok c)
    (search : s.Search c m.uid t (.ok (some x))) : ∃ rest, s.Searched r m t (x :: rest) := by
  obtain ⟨rs, searched, first, _⟩ := search.searched resolved
  obtain ⟨rest, rfl⟩ := List.head?_eq_some_iff.mp first.symm
  exact ⟨rest, searched⟩

/-- A search only looks. -/
theorem Search.looks {o : Except CloudError (Option s.Record)} (search : s.Search c uid t o)
    {e : Event} (member : e ∈ t) : e.1.method = .get := by
  rw [search.orderly.requests e member]
  rfl

theorem Search.makes_none {o : Except CloudError (Option s.Record)} (search : s.Search c uid t o)
    {e : Event} (member : e ∈ t) : ¬ s.Creates e.1 := by
  intro creates
  cases (search.looks member).symm.trans creates.1

variable (s) in
/-- What the requests of an operation, with their replies, are limited to. -/
structure Restrained (r : Resolver) (call : CloudCall) (t : List Event) (a : call.Answer) :
    Prop where
  apart : call.spec? = none → t = []
  unresolved : ∀ spec e, call.spec? = some spec → s.config r spec = .error e →
    t = [] ∧ a = .error e
  looks : ((∃ spec, call = .validate spec) ∨ ∃ m, call = .get m) → ∀ e ∈ t, e.1.method = .get
  creates : ∀ u e v, t = u ++ e :: v → s.Creates e.1 →
    (∃ m script w x, call = .create m script ∧ u = w ++ x ∧ s.Searched r m w []) ∧
    ∀ e' ∈ u ++ v, ¬ s.Creates e'.1
  alters : ∀ m method, s.altered? call = some (m, method) → ∀ u e v, t = u ++ e :: v →
    e.1.method ≠ .get → v = [] ∧ e.1.method = method ∧
    ∃ x rest, s.Searched r m u (x :: rest) ∧ e.1.path = s.item x
  halts : ∀ u e v, t = u ++ e :: v → s.Fails e → ∀ e' ∈ v,
    (∃ m script, call = .create m script) ∧ ∃ k ∈ u, s.undone k e'.1

/-- A reply that is a failure is the last one. -/
def Halts (s : Service) (t : List Event) : Prop :=
  ∀ u e v, t = u ++ e :: v → s.Fails e → v = []

theorem halts_of_orderly {α : Type} {allowed : Request → Prop} {o : Except CloudError α}
    (orderly : Operation.Orderly allowed s.fault t o) : s.Halts t := by
  intro u e v split failed
  obtain ⟨cause, failure⟩ := Option.ne_none_iff_exists'.mp ((s.fails_iff e).mp failed)
  exact (orderly.stops u e v cause split failure).1

theorem halts_concat (sound : ∀ e ∈ t, s.fault e.1 e.2 = none) (e : Event) :
    s.Halts (t ++ [e]) := by
  intro u e' v split failed
  rcases split_single split with ⟨w, early⟩ | ⟨_, _, last⟩
  · have member : e' ∈ t := by simp [early]
    exact absurd (sound e' member) ((s.fails_iff e').mp failed)
  · exact last

/-- An operation without requests. -/
theorem restrained_of_silent {a : call.Answer}
    (unresolved : ∀ spec e, call.spec? = some spec → s.config r spec = .error e → a = .error e) :
    s.Restrained r call [] a where
  apart _ := rfl
  unresolved spec e resolves failed := ⟨rfl, unresolved spec e resolves failed⟩
  looks _ := nofun
  creates u e v split := by cases u <;> cases split
  alters _ _ _ u e v split := by cases u <;> cases split
  halts u e v split := by cases u <;> cases split

/-- An operation that only looks. -/
theorem restrained_of_looks {spec : MachineSpec} {a : call.Answer}
    (resolves : call.spec? = some spec) (resolved : s.config r spec = .ok c)
    (looks : ∀ e ∈ t, e.1.method = .get) (halts : s.Halts t) : s.Restrained r call t a where
  apart without := by cases resolves.symm.trans without
  unresolved spec' e same failed := by
    cases Option.some.inj (resolves.symm.trans same)
    cases resolved.symm.trans failed
  looks _ := looks
  creates u e v split creates := by
    have looking := looks e (by simp [split])
    cases looking.symm.trans creates.1
  alters m method _ u e v split other := absurd (looks e (by simp [split])) other
  halts u e v split failed e' member := by
    rw [halts u e v split failed] at member
    cases member

theorem restrained_of_search {m : Machine} {o : Except CloudError (Option s.Record)}
    {a : call.Answer} (resolves : call.spec? = some m.spec)
    (resolved : s.config r m.spec = .ok c) (search : s.Search c m.uid t o) :
    s.Restrained r call t a :=
  restrained_of_looks resolves resolved (fun _ member => search.looks member)
    (halts_of_orderly search.orderly)

theorem altered_ne_post {m : Machine} {method : Method}
    (alters : s.altered? call = some (m, method)) : method ≠ .post := by
  rintro rfl
  cases call with
  | migrateUid m' newUid =>
    have marking : s.marking = .post := congrArg Prod.snd (Option.some.inj alters)
    rcases s.replaces with put | patch
    · cases put.symm.trans marking
    · cases patch.symm.trans marking
  | _ => cases alters

/-- An operation that deletes or marks what it has found. -/
theorem restrained_of_altered {m : Machine} {method : Method} {x : s.Record} {e : Event}
    {a : call.Answer} (alters : s.altered? call = some (m, method))
    (resolved : s.config r m.spec = .ok c) (search : s.Search c m.uid t (.ok (some x)))
    (requested : e.1.method = method ∧ e.1.path = s.item x) :
    s.Restrained r call (t ++ [e]) a := by
  have resolves : call.spec? = some m.spec := by
    cases call <;> cases alters <;> rfl
  obtain ⟨rest, searched⟩ := search.searched_some resolved
  have looking := restrained_of_search (a := a) resolves resolved search
  have halts := halts_concat (fun e member => search.orderly.sound member) e
  have posts : method ≠ .post := altered_ne_post alters
  constructor
  case apart => exact fun without => by cases resolves.symm.trans without
  case unresolved =>
    intro spec' e' same failed
    cases Option.some.inj (resolves.symm.trans same)
    cases resolved.symm.trans failed
  case looks =>
    rintro (⟨spec, rfl⟩ | ⟨m', rfl⟩) <;> cases alters
  case creates =>
    intro u e' v split creates
    rcases split_single split with ⟨w, early⟩ | ⟨_, rfl, _⟩
    · exact absurd creates (search.makes_none (by simp [early]))
    · exact absurd (requested.1.symm.trans creates.1) posts
  case alters =>
    intro m' method' same u e' v split other
    cases alters.symm.trans same
    rcases split_single split with ⟨w, early⟩ | ⟨rfl, rfl, rfl⟩
    · exact absurd (search.looks (by simp [early])) other
    · exact ⟨rfl, requested.1, x, rest, searched, requested.2⟩
  case halts =>
    intro u e' v split failed e'' member
    rw [halts u e' v split failed] at member
    cases member

/-- A creation that failed in its preparations. -/
theorem restrained_of_unprepared {m : Machine} {script : String} {u : List Event}
    {a : Except CloudError Instance} {o : Except CloudError Unit}
    (resolved : s.config r m.spec = .ok c) (search : s.Search c m.uid t (.ok none))
    (prepares : Operation.Orderly (fun q => ¬ s.Creates q) s.fault u o) :
    s.Restrained r (.create m script) (t ++ u) a := by
  constructor
  case apart => nofun
  case unresolved =>
    rintro spec' e' ⟨⟩ failed
    cases resolved.symm.trans failed
  case looks => rintro (⟨spec, ⟨⟩⟩ | ⟨m', ⟨⟩⟩)
  case alters =>
    intro m' method same
    cases same
  case creates =>
    intro u' e' v' split creates
    rcases split_append split with ⟨w, early, _⟩ | ⟨w, _, later⟩
    · exact absurd creates (search.makes_none (by simp [early]))
    · exact absurd creates (prepares.requests e' (by simp [later]))
  case halts =>
    intro u' e' v' split failed e'' member
    rcases split_append split with ⟨w, early, _⟩ | ⟨w, _, later⟩
    · exact absurd (search.orderly.sound (by simp [early])) ((s.fails_iff e').mp failed)
    · rw [halts_of_orderly prepares w e' v' later failed] at member
      cases member

/-- A creation that made its preparations, with what clears up after it. -/
theorem restrained_of_posted {m : Machine} {script : String} {u v : List Event} {e : Event}
    {a : Except CloudError Instance} (resolved : s.config r m.spec = .ok c)
    (search : s.Search c m.uid t (.ok none))
    (prepares : Operation.Orderly (fun q => ¬ s.Creates q) s.fault u (.ok ()))
    (clears : ∀ e' ∈ v, ¬ s.Creates e'.1 ∧ ∃ k ∈ u, s.undone k e'.1) :
    s.Restrained r (.create m script) (t ++ (u ++ e :: v)) a := by
  have searched := search.searched_none resolved
  constructor
  case apart => nofun
  case unresolved =>
    rintro spec' e' ⟨⟩ failed
    cases resolved.symm.trans failed
  case looks => rintro (⟨spec, ⟨⟩⟩ | ⟨m', ⟨⟩⟩)
  case alters =>
    intro m' method same
    cases same
  case creates =>
    intro u' e' v' split creates
    -- Neither the search nor the preparations create, and nothing that clears up does.
    rcases split_append split with ⟨w, early, _⟩ | ⟨w, rfl, later⟩
    · exact absurd creates (search.makes_none (by simp [early]))
    rcases split_append later with ⟨w', early, _⟩ | ⟨w', rfl, last⟩
    · exact absurd creates (prepares.requests e' (by simp [early]))
    cases w' with
    | cons _ w' =>
      cases last
      exact absurd creates (clears e' (by simp)).1
    | nil =>
      cases last
      refine ⟨⟨m, script, t, u, rfl, by simp, searched⟩, ?_⟩
      intro e'' member
      simp only [List.append_nil, List.append_assoc, List.mem_append] at member
      rcases member with found | prepared | cleared
      · exact search.makes_none found
      · exact prepares.requests e'' prepared
      · exact (clears e'' cleared).1
  case halts =>
    intro u' e' v' split failed e'' member
    rcases split_append split with ⟨w, early, _⟩ | ⟨w, rfl, later⟩
    · exact absurd (search.orderly.sound (by simp [early])) ((s.fails_iff e').mp failed)
    rcases split_append later with ⟨w', early, _⟩ | ⟨w', rfl, last⟩
    · exact absurd (prepares.sound (by simp [early])) ((s.fails_iff e').mp failed)
    refine ⟨⟨m, script, rfl⟩, ?_⟩
    have cleared : e'' ∈ v := by
      cases w' with
      | nil =>
        cases last
        exact member
      | cons _ w' =>
        cases last
        simp [member]
    obtain ⟨k, put, undone⟩ := (clears e'' cleared).2
    exact ⟨k, by simp [put], undone⟩

theorem Course.restrained {a : call.Answer} (course : s.Course r call t a) :
    s.Restrained r call t a := by
  cases course with
  | apart without definite =>
    refine restrained_of_silent fun spec e resolves _ => ?_
    cases without.symm.trans resolves
  | unresolved resolves failed _ =>
    refine restrained_of_silent fun spec e same failed' => ?_
    cases Option.some.inj (resolves.symm.trans same)
    exact congrArg Except.error (Except.error.inj (failed.symm.trans failed'))
  | validated resolved orderly =>
    exact restrained_of_looks rfl resolved orderly.requests (halts_of_orderly orderly)
  | unsearched looks resolved search =>
    exact restrained_of_search (CloudCall.spec_of_machine looks) resolved search
  | missed resolved search => exact restrained_of_search rfl resolved search
  | got resolved search => exact restrained_of_search rfl resolved search
  | kept resolved search => exact restrained_of_search rfl resolved search
  | unprepared resolved search prepares =>
    exact restrained_of_unprepared resolved search prepares
  | posted resolved search prepares _ _ _ _ clears =>
    exact restrained_of_posted resolved search prepares clears
  | absent resolved search => exact restrained_of_search rfl resolved search
  | leaving resolved search => exact restrained_of_search rfl resolved search
  | unmarked resolved search => exact restrained_of_search rfl resolved search
  | altered alters resolved search requested _ _ =>
    exact restrained_of_altered alters resolved search requested

variable (s) in
/-- Whatever the API replies, the statement holds of every run of every operation. -/
def Always (holds : Resolver → (call : CloudCall) → List Event → call.Answer → Prop) : Prop :=
  ∀ (σ : Type) (peer : Request → σ → Reply × σ) (now : σ) (r : Resolver) (call : CloudCall),
    holds r call ((s.answer r call).transcript peer now) ((s.answer r call).run peer now).1

theorem always_of_course {holds : Resolver → (call : CloudCall) → List Event → call.Answer → Prop}
    (takes : ∀ {r : Resolver} {call : CloudCall} {t : List Event} {a : call.Answer},
      Program.Yields (s.answer r call) t a → s.Course r call t a)
    (follows : ∀ {r : Resolver} {call : CloudCall} {t : List Event} {a : call.Answer},
      s.Course r call t a → holds r call t a) : s.Always holds :=
  fun _ peer now r call => follows (takes (Program.yields_run peer (s.answer r call) now))

/-- On Hetzner and on Vultr, no operation requests more than it has to. -/
theorem operations_are_restrained (base : String) :
    (Hetzner.service base).Always (Hetzner.service base).Restrained ∧
      (Vultr.service base).Always (Vultr.service base).Restrained := by
  constructor
  · exact always_of_course Hetzner.course_of_yields Course.restrained
  · exact always_of_course Vultr.course_of_yields Course.restrained

end Http.Service

end MachineFleet
