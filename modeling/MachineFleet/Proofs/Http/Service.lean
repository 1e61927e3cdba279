import MachineFleet.Config.Resolver
import MachineFleet.Proofs.Http.Exchange

/-!
Clouds with an API in which a machine has a record that is found by its UID. The courses are all
the ways in which their operations can go; what is said of the requests of an operation, and of
the one failure that means that there is no record, is read off them.
-/

namespace MachineFleet

/-- What an operation resolves before it makes requests; without any it makes none. -/
def CloudCall.spec? : CloudCall → Option MachineSpec
  | .validate spec => some spec
  | .get m => some m.spec
  | .create m _ => some m.spec
  | .cleanup m => some m.spec
  | .migrateUid m _ => some m.spec
  | _ => none

/-- The machine whose record an operation looks for. -/
def CloudCall.machine? : CloudCall → Option Machine
  | .get m => some m
  | .create m _ => some m
  | .cleanup m => some m
  | .migrateUid m _ => some m
  | _ => none

theorem CloudCall.spec_of_machine {call : CloudCall} {m : Machine}
    (looks : call.machine? = some m) : call.spec? = some m.spec := by
  cases call <;> cases looks <;> rfl

namespace Http

/-- The body of a success. -/
def Reply.body? : Reply → Option String
  | .dropped => none
  | .response status body => if isSuccess status then some body else none

/-- What the body of a success says in the given form. -/
def Reply.read? {α : Type} (r : Json.Reader α) (reply : Reply) : Option α :=
  reply.body?.bind fun body => (Json.decodeText r body).toOption

theorem Reply.read?_eq {ε α : Type} (r : Json.Reader α) (fail : Json.DecodeError → ε)
    {reply : Reply} {body : Except ε String} (told : reply.body? = body.toOption) :
    reply.read? r = (body >>= fun b => (Json.decodeText r b).mapError fail).toOption := by
  unfold Reply.read?
  rw [told]
  cases body with
  | error e => rfl
  | ok b =>
    show (Json.decodeText r b).toOption = ((Json.decodeText r b).mapError fail).toOption
    cases Json.decodeText r b <;> rfl

structure Service where
  Record : Type
  Config : Type
  /-- What a specification asks for, with the values that it refers to. -/
  config : Resolver → MachineSpec → Except CloudError Config
  token : Config → String
  /-- The path of all records. -/
  collection : String
  /-- The path of one record. -/
  item : Record → String
  query : String → List (String × String)
  listing : Json.Reader (List Record)
  /-- A record among those listed is one of the machine with the UID. -/
  owns : String → Record → Bool
  /-- The method by which a record is marked. -/
  marking : Method
  replaces : marking = .put ∨ marking = .patch
  snapshot : Record → Instance
  /-- The failure that a reply to the request is, when it is read for what was asked. -/
  fault : Request → Reply → Option CloudError
  refused : ∀ q reply, reply.body? = none → fault q reply ≠ none
  /-- What the event put up for a creation is taken away by the request. -/
  undone : Event → Request → Prop
  answer : Resolver → (call : CloudCall) → Exchange call.Answer

namespace Service

variable (s : Service)

def search (c : s.Config) (uid : String) : Request where
  method := .get
  path := s.collection
  query := s.query uid
  token := s.token c

/-- The records of the machine in the reply to a search, in order. -/
def found (uid : String) (reply : Reply) : Option (List s.Record) :=
  (reply.read? s.listing).map fun rs => rs.filter (s.owns uid)

/-- The reply is no success, or what was asked cannot be read from it. -/
def Fails (e : Event) : Prop := e.2.body? = none ∨ s.fault e.1 e.2 ≠ none

theorem fails_iff (e : Event) : s.Fails e ↔ s.fault e.1 e.2 ≠ none :=
  ⟨fun fails => fails.elim (s.refused e.1 e.2) id, .inr⟩

/-- The request makes a record. -/
def Creates (q : Request) : Prop := q.method = .post ∧ q.path = s.collection

/-- The request looks something up that is not a machine's record. -/
def LooksUp (q : Request) : Prop := q.method = .get ∧ q.path ≠ s.collection

/-- The record of a machine that an operation deletes or marks, and the method by which. -/
def altered? : CloudCall → Option (Machine × Method)
  | .cleanup m => some (m, .delete)
  | .migrateUid m _ => some (m, s.marking)
  | _ => none

/-- How a machine's record is searched for. -/
inductive Search (c : s.Config) (uid : String) :
    List Event → Except CloudError (Option s.Record) → Prop where
  | unsent {e : CloudError} (other : e.classify ≠ .notFound) : Search c uid [] (.error e)
  | unread {reply : Reply} {e : CloudError} (unreadable : s.found uid reply = none)
      (failed : s.fault (s.search c uid) reply = some e) (other : e.classify ≠ .notFound) :
      Search c uid [⟨s.search c uid, reply⟩] (.error e)
  | listed {reply : Reply} {rs : List s.Record} (sendable : isHeaderValue (s.token c) = true)
      (told : s.found uid reply = some rs) (sound : s.fault (s.search c uid) reply = none) :
      Search c uid [⟨s.search c uid, reply⟩] (.ok rs.head?)

/-- An exchange that asks for the records and takes the first one is a search. -/
theorem search_of_yields {s : Service} {c : s.Config} {uid : String} {ε : Type}
    {toCloud : ε → CloudError} {read : Reply → Except ε (List s.Record)}
    (reads : ∀ reply, s.found uid reply = (read reply).toOption)
    (faults : ∀ reply, s.fault (s.search c uid) reply = failure? ((read reply).mapError toCloud))
    (other : ∀ e, (toCloud e).classify ≠ .notFound) {t : List Event}
    {o : Except CloudError (Option s.Record)}
    (h : Program.Yields (Operation.ofApi toCloud ((send (s.search c uid)).bind fun reply =>
      .done (read reply)) >>= fun rs => pure rs.head? : Operation (Option s.Record)) t o) :
    s.Search c uid t o := by
  have result : ∀ reply (r : Except CloudError (List s.Record)),
      r = (read reply).mapError toCloud → s.found uid reply = r.toOption := by
    rintro reply _ rfl
    rw [reads reply]
    cases read reply <;> rfl
  rcases Operation.yields_bind h with ⟨e, listed, rfl⟩ | ⟨rs, u, v, rfl, listed, first⟩
  · rcases Operation.yields_call listed with ⟨_, rfl, failed⟩ | ⟨_, reply, rfl, failed⟩
    · exact .unsent (Definite.mapError other _ e failed.symm)
    · refine .unread (result reply _ failed) ?_ (Definite.mapError other _ e failed.symm)
      rw [faults reply, ← failed]
      rfl
  · obtain ⟨rfl, rfl⟩ := Program.yields_done first
    rw [List.append_nil]
    rcases Operation.yields_call listed with ⟨_, _, resulted⟩ | ⟨sendable, reply, rfl, resulted⟩
    · -- Nothing is found where no reply has come.
      cases result .dropped _ resulted
    · refine .listed sendable (result reply _ resulted) ?_
      rw [faults reply, ← resulted]
      rfl

/-- How an operation goes. -/
inductive Course (r : Resolver) : (call : CloudCall) → List Event → call.Answer → Prop where
  | apart {call : CloudCall} {a : call.Answer} (without : call.spec? = none)
      (definite : Definite a) : Course r call [] a
  | unresolved {call : CloudCall} {spec : MachineSpec} {e : CloudError}
      (resolves : call.spec? = some spec) (failed : s.config r spec = .error e)
      (other : e.classify ≠ .notFound) : Course r call [] (.error e)
  | validated {spec : MachineSpec} {c : s.Config} {t : List Event} {a : Except CloudError Unit}
      (resolved : s.config r spec = .ok c)
      (orderly : Operation.Orderly (fun q => q.method = .get) s.fault t a) :
      Course r (.validate spec) t a
  | unsearched {call : CloudCall} {m : Machine} {c : s.Config} {t : List Event} {e : CloudError}
      (looks : call.machine? = some m) (resolved : s.config r m.spec = .ok c)
      (search : s.Search c m.uid t (.error e)) : Course r call t (.error e)
  | missed {m : Machine} {c : s.Config} {t : List Event} (resolved : s.config r m.spec = .ok c)
      (search : s.Search c m.uid t (.ok none)) : Course r (.get m) t (.error .instanceNotFound)
  | got {m : Machine} {c : s.Config} {t : List Event} {x : s.Record}
      (resolved : s.config r m.spec = .ok c) (search : s.Search c m.uid t (.ok (some x))) :
      Course r (.get m) t (.ok (s.snapshot x))
  | kept {m : Machine} {script : String} {c : s.Config} {t : List Event} {x : s.Record}
      (resolved : s.config r m.spec = .ok c) (search : s.Search c m.uid t (.ok (some x))) :
      Course r (.create m script) t (.ok (s.snapshot x))
  | unprepared {m : Machine} {script : String} {c : s.Config} {t u : List Event} {e : CloudError}
      (resolved : s.config r m.spec = .ok c) (search : s.Search c m.uid t (.ok none))
      (prepares : Operation.Orderly (fun q => ¬ s.Creates q) s.fault u
        (.error e : Except CloudError Unit)) : Course r (.create m script) (t ++ u) (.error e)
  | posted {m : Machine} {script : String} {c : s.Config} {t u v : List Event} {e : Event}
      {a : Except CloudError Instance} (resolved : s.config r m.spec = .ok c)
      (search : s.Search c m.uid t (.ok none))
      (prepares : Operation.Orderly (fun q => ¬ s.Creates q) s.fault u (.ok ()))
      (creates : s.Creates e.1) (ends : ∀ cause, a = .error cause → s.fault e.1 e.2 = some cause)
      (made : ∀ i, a = .ok i → s.fault e.1 e.2 = none ∧ ∃ x, i = s.snapshot x)
      (definite : Definite a)
      (clears : ∀ e' ∈ v, ¬ s.Creates e'.1 ∧ ∃ k ∈ u, s.undone k e'.1) :
      Course r (.create m script) (t ++ (u ++ e :: v)) a
  | absent {m : Machine} {c : s.Config} {t : List Event} (resolved : s.config r m.spec = .ok c)
      (search : s.Search c m.uid t (.ok none)) : Course r (.cleanup m) t (.ok true)
  | leaving {m : Machine} {c : s.Config} {t : List Event} {x : s.Record}
      (resolved : s.config r m.spec = .ok c) (search : s.Search c m.uid t (.ok (some x))) :
      Course r (.cleanup m) t (.ok false)
  | unmarked {m : Machine} {newUid : String} {c : s.Config} {t : List Event}
      (resolved : s.config r m.spec = .ok c) (search : s.Search c m.uid t (.ok none)) :
      Course r (.migrateUid m newUid) t (.ok ())
  | altered {call : CloudCall} {m : Machine} {method : Method} {c : s.Config} {t : List Event}
      {x : s.Record} {e : Event} {a : call.Answer} (alters : s.altered? call = some (m, method))
      (resolved : s.config r m.spec = .ok c) (search : s.Search c m.uid t (.ok (some x)))
      (requested : e.1.method = method ∧ e.1.path = s.item x)
      (ends : ∀ cause, a = .error cause → s.fault e.1 e.2 = some cause) (definite : Definite a) :
      Course r call (t ++ [e]) a

/-- An instance that a look-up or a creation results in is that of a record. -/
theorem Course.snapshot_of_get {s : Service} {r : Resolver} {m : Machine} {t : List Event}
    {i : Instance} (course : s.Course r (.get m) t (.ok i)) : ∃ x, s.snapshot x = i := by
  cases course with
  | apart without _ => cases without
  | got _ _ => exact ⟨_, rfl⟩
  | altered alters _ _ _ _ _ => cases alters

theorem Course.snapshot_of_create {s : Service} {r : Resolver} {m : Machine} {script : String}
    {t : List Event} {i : Instance} (course : s.Course r (.create m script) t (.ok i)) :
    ∃ x, s.snapshot x = i := by
  cases course with
  | apart without _ => cases without
  | kept _ _ => exact ⟨_, rfl⟩
  | posted _ _ _ _ _ made _ _ =>
    obtain ⟨_, x, same⟩ := made i rfl
    exact ⟨x, same.symm⟩
  | altered alters _ _ _ _ _ => cases alters

/-- A creation results in what the reply to its request says. -/
theorem course_of_post {s : Service} {r : Resolver} {m : Machine} {script : String}
    {c : s.Config} {t u v : List Event} {q : Request} {reply : Reply}
    {o : Except CloudError s.Record} (resolved : s.config r m.spec = .ok c)
    (search : s.Search c m.uid t (.ok none))
    (prepares : Operation.Orderly (fun q => ¬ s.Creates q) s.fault u (.ok ()))
    (creates : s.Creates q) (faults : s.fault q reply = failure? o) (definite : Definite o)
    (clears : ∀ e ∈ v, ¬ s.Creates e.1 ∧ ∃ k ∈ u, s.undone k e.1) :
    s.Course r (.create m script) (t ++ (u ++ ⟨q, reply⟩ :: v)) (o.map s.snapshot) := by
  cases o with
  | error e =>
    refine .posted resolved search prepares creates ?_ nofun definite.recast clears
    rintro cause ⟨⟩
    exact faults
  | ok x =>
    refine .posted resolved search prepares creates nofun ?_ (.ok _) clears
    rintro i ⟨⟩
    exact ⟨faults, x, rfl⟩

/-- A deletion or a marking fails only as the reply to its request does. -/
theorem course_of_change {β : Type} {s : Service} {r : Resolver} {call : CloudCall} {m : Machine}
    {method : Method} {c : s.Config} {t : List Event} {x : s.Record} {q : Request}
    {reply : Reply} {o : Except CloudError β} {a : call.Answer}
    (alters : s.altered? call = some (m, method)) (resolved : s.config r m.spec = .ok c)
    (search : s.Search c m.uid t (.ok (some x))) (requested : q.method = method ∧ q.path = s.item x)
    (faults : s.fault q reply = failure? o) (definite : Definite o)
    (ends : ∀ cause, a = .error cause → o = .error cause) :
    s.Course r call (t ++ [⟨q, reply⟩]) a := by
  refine .altered alters resolved search requested (fun cause failed => ?_)
    fun cause failed => definite cause (ends cause failed)
  exact faults.trans (failure?_eq_some.mpr (ends cause failed))

theorem Search.sendable {s : Service} {c : s.Config} {uid : String} {t : List Event}
    {o : Option s.Record} (search : s.Search c uid t (.ok o)) :
    isHeaderValue (s.token c) = true := by
  cases search with
  | listed sendable _ _ => exact sendable

/-- A record that is gone counts as deleted; any other failure to delete it is one. -/
theorem course_of_deletion {s : Service} {r : Resolver} {m : Machine} {c : s.Config}
    {t u : List Event} {x : s.Record} {q : Request} {ε : Type} {toCloud : ε → CloudError}
    {read : Reply → Except ε Unit} {next : Except ε Unit → Operation Bool}
    {a : Except CloudError Bool} (gone : ε → Bool) (resolved : s.config r m.spec = .ok c)
    (search : s.Search c m.uid t (.ok (some x))) (token : q.token = s.token c)
    (requested : q.method = .delete ∧ q.path = s.item x)
    (faults : ∀ reply, s.fault q reply = failure? ((read reply).mapError toCloud))
    (other : ∀ e, (toCloud e).classify ≠ .notFound) (deleted : next (.ok ()) = pure false)
    (failed : ∀ e, next (.error e) = if gone e then pure true else throw (toCloud e))
    (h : Program.Yields
      (Operation.observe ((send q).bind fun reply => .done (read reply)) >>= next :
        Operation Bool) u a) : s.Course r (.cleanup m) (t ++ u) a := by
  rcases Operation.yields_bind h with ⟨e, observed, rfl⟩ | ⟨told, d, w, rfl, observed, ends⟩
  · obtain ⟨_, _, same⟩ := Operation.yields_observe observed
    cases same
  obtain ⟨_, asked, same⟩ := Operation.yields_observe observed
  cases same
  rcases Operation.yields_send asked with ⟨unsendable, _, _⟩ | ⟨_, reply, rfl, rfl⟩
  · rw [token, search.sendable] at unsendable
    cases unsendable
  have ended : w = [] ∧ ∀ cause, a = .error cause →
      (read reply).mapError toCloud = .error cause := by
    cases told : read reply with
    | ok _ =>
      rw [told, deleted] at ends
      obtain ⟨rfl, rfl⟩ := Program.yields_done ends
      exact ⟨rfl, nofun⟩
    | error e =>
      rw [told, failed] at ends
      split at ends
      · obtain ⟨rfl, rfl⟩ := Program.yields_done ends
        exact ⟨rfl, nofun⟩
      · obtain ⟨rfl, rfl⟩ := Program.yields_done ends
        refine ⟨rfl, ?_⟩
        rintro cause ⟨⟩
        rfl
  obtain ⟨rfl, fails⟩ := ended
  exact course_of_change rfl resolved search requested (faults reply) (.mapError other _) fails

/-- The operations on the record of a machine begin alike: they resolve the specification and
search for the record. -/
theorem course_of_search {s : Service} {r : Resolver} {call : CloudCall} {m : Machine}
    {find : s.Config → Operation (Option s.Record)}
    {next : s.Config → Option s.Record → Operation call.Result} {t : List Event}
    {a : call.Answer} (looks : call.machine? = some m)
    (definite : ∀ spec, Definite (s.config r spec))
    (finds : ∀ c t o, Program.Yields (find c) t o → s.Search c m.uid t o)
    (goesOn : ∀ c u v o, s.config r m.spec = .ok c → s.Search c m.uid u (.ok o) →
      Program.Yields (next c o) v a → s.Course r call (u ++ v) a)
    (h : Program.Yields
      (Operation.ofExcept (s.config r m.spec) >>= fun c => find c >>= next c :
        Operation call.Result) t a) : s.Course r call t a := by
  rcases Operation.yields_resolved h with ⟨e, failed, rfl, rfl⟩ | ⟨c, resolved, h⟩
  · exact .unresolved (CloudCall.spec_of_machine looks) failed (definite m.spec e failed)
  rcases Operation.yields_bind h with ⟨e, searched, rfl⟩ | ⟨o, u, v, rfl, searched, h⟩
  · exact .unsearched looks resolved (finds c t _ searched)
  · exact goesOn c u v o resolved (finds c u _ searched) h

/-- A look-up results in the record that its search finds. -/
theorem course_of_get {s : Service} {r : Resolver} {m : Machine}
    {find : s.Config → Operation (Option s.Record)} {next : Option s.Record → Operation Instance}
    {t : List Event} {a : Except CloudError Instance}
    (definite : ∀ spec, Definite (s.config r spec))
    (finds : ∀ c t o, Program.Yields (find c) t o → s.Search c m.uid t o)
    (found : ∀ x, next (some x) = pure (s.snapshot x))
    (missing : next none = throw .instanceNotFound)
    (h : Program.Yields (Operation.ofExcept (s.config r m.spec) >>= fun c => find c >>= next :
      Operation Instance) t a) : s.Course r (.get m) t a := by
  refine course_of_search rfl definite finds (fun c u v o resolved search h => ?_) h
  cases o with
  | none =>
    rw [missing] at h
    obtain ⟨rfl, rfl⟩ := Program.yields_done h
    rw [List.append_nil]
    exact .missed resolved search
  | some x =>
    rw [found] at h
    obtain ⟨rfl, rfl⟩ := Program.yields_done h
    rw [List.append_nil]
    exact .got resolved search

end Service

end Http

end MachineFleet
