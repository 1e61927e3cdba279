import MachineFleet.Hetzner.Machines
import MachineFleet.Proofs.Http.Service
import MachineFleet.Proofs.Text.Path

/-!
How the operations on Hetzner Cloud go. Each of their requests has a reply that it can be read
from, and the failure to read it is what the operation ends in, but for the keys of a creation:
these are deleted whatever became of the server, and whatever the API says to it.
-/

namespace MachineFleet.Hetzner

open Program Http Operation

/-- The failure to make something of a reply. -/
def failed? {α : Type} (x : Except ApiError α) : Option CloudError :=
  failure? (x.mapError ApiError.toCloud)

/-- The failure that a reply is, when it is read for what the request asks. -/
def fault (base : String) (q : Request) (reply : Reply) : Option CloudError :=
  let area := Text.below base q.path
  match q.method with
  | .get =>
    if area = "servers" then failed? (decodeReply serversReader reply)
    else failed? (Client.readCatalogue area reply)
  | .post =>
    if area = "servers" then failed? (decodeReply serverReader reply)
    else failed? (decodeReply keyReader reply)
  | .put => failed? (decodeReply serverReader reply)
  | .patch => failed? (check reply)
  | .delete => failed? (check reply)

theorem body?_eq (reply : Reply) : reply.body? = (check reply).toOption := by
  cases reply with
  | dropped => rfl
  | response status body =>
    simp only [Reply.body?, check]
    by_cases success : isSuccess status = true
    · rw [if_pos success, if_pos success]
      rfl
    · rw [if_neg success, if_neg success]
      split <;> rfl

/-- A reply without the body of a success is read as its error, whatever it was for. -/
theorem fault_of_unread (base : String) {q : Request} {reply : Reply} {e : ApiError}
    (unread : check reply = .error e) : fault base q reply = some e.toCloud := by
  have undecoded : ∀ {α : Type} (r : Json.Reader α), decodeReply r reply = .error e := by
    intro α r
    unfold decodeReply
    rw [unread]
    rfl
  cases method : q.method with
  | get =>
    simp only [fault, method]
    split
    · rw [undecoded]
      rfl
    · rw [Client.readCatalogue, undecoded]
      rfl
  | post =>
    simp only [fault, method, undecoded]
    split <;> rfl
  | put =>
    simp only [fault, method, undecoded]
    rfl
  | patch =>
    simp only [fault, method, unread]
    rfl
  | delete =>
    simp only [fault, method, unread]
    rfl

theorem fault_of_bodiless (base : String) {q : Request} {reply : Reply}
    (bodiless : reply.body? = none) : fault base q reply ≠ none := by
  rw [body?_eq] at bodiless
  cases unread : check reply with
  | ok body =>
    rw [unread] at bodiless
    cases bodiless
  | error e =>
    rw [fault_of_unread base unread]
    nofun

/-- The event has uploaded a key. -/
def Uploads (base : String) (e : Event) (id : Nat) : Prop :=
  e.1.method = .post ∧ e.1.path = base ++ "/ssh_keys" ∧
    ∃ key, decodeReply keyReader e.2 = .ok key ∧ key.id = id

/-- The request deletes a key. -/
def Deletes (base : String) (q : Request) (id : Nat) : Prop :=
  q.method = .delete ∧ q.path = base ++ ("/ssh_keys/" ++ toString id)

def service (base : String) : Service where
  Record := Server
  Config := Config
  config := config
  token := Config.token
  collection := base ++ "/servers"
  item s := base ++ ("/servers/" ++ toString s.id)
  query uid := [("label_selector", uidLabel ++ "=" ++ uid)]
  listing := serversReader
  owns _ _ := true
  marking := .put
  replaces := .inl rfl
  snapshot := Server.snapshot
  fault := fault base
  refused _ _ := fault_of_bodiless base
  undone e q := ∃ id, Uploads base e id ∧ Deletes base q id
  answer := answer base

variable {base uid : String} {c : Config} {t : List Event} {reply : Reply}

theorem toCloud_definite (e : ApiError) : e.toCloud.classify ≠ .notFound := by
  cases e with
  | api status code m =>
    simp only [ApiError.toCloud]
    split
    · exact fun h => by cases h
    · split <;> exact fun h => by cases h
  | transport => exact fun h => by cases h
  | decode e => exact fun h => by cases h

/-- A configuration fails over a variable, a section that cannot be read or an operating system. -/
theorem config_failsAs {P : CloudError → Prop} (unresolved : ∀ e, P (.config e))
    (unread : ∀ m, P (.invalidConfiguration ("failed to parse " ++ m)))
    (unsupported : ∀ m, P (.invalidConfiguration ("operating system '" ++ m)))
    (r : Resolver) (spec : MachineSpec) : FailsAs P (config r spec) := by
  have resolved : ∀ {α : Type} (x : Except ConfigError α), FailsAs P (x.mapError .config) :=
    FailsAs.mapError unresolved
  unfold config payload
  refine .bind (.payload unread _ _ spec) fun found => ?_
  refine .bind (resolved _) fun token => .bind (resolved _) fun chosen => ?_
  have image : ∀ os, FailsAs P (defaultImage os) := by
    intro os
    unfold defaultImage
    split
    · exact .ok _
    · exact .ok _
    · exact .ok _
    · rw [String.append_assoc]
      exact .error (unsupported _)
  extract_lets rest
  have ends : ∀ image, FailsAs P (rest image) := by
    intro image
    refine .bind (resolved _) fun _ => .bind (resolved _) fun _ => .bind (resolved _) fun _ => ?_
    refine .bind (resolved _) fun _ => .bind (resolved _) fun _ => ?_
    exact .bind (resolved _) fun _ => .ok _
  split
  · exact .bind (image _) ends
  · exact ends chosen

theorem config_definite (r : Resolver) (spec : MachineSpec) : Definite (config r spec) :=
  config_failsAs (fun _ h => by cases h) (fun _ h => by cases h) (fun _ h => by cases h) r spec

theorem read?_eq {α : Type} (r : Json.Reader α) (reply : Reply) :
    reply.read? r = (decodeReply r reply).toOption :=
  Reply.read?_eq r _ (body?_eq reply)

theorem found_eq (uid : String) (reply : Reply) :
    (service base).found uid reply = (decodeReply serversReader reply).toOption := by
  have all : ∀ rs : List Server, rs.filter ((service base).owns uid) = rs :=
    fun rs => List.filter_eq_self.mpr fun _ _ => rfl
  unfold Service.found
  rw [← read?_eq, funext all]
  exact Option.map_id'

theorem fault_search (c : Config) (uid : String) (reply : Reply) :
    fault base ((service base).search c uid) reply =
      failed? (decodeReply serversReader reply) := by
  have area : Text.below base (base ++ "/servers") = "servers" := Text.below_append _ _
  simp only [fault, Service.search, service, area, if_true]

theorem fault_creation {token : String} {body : Option Json} (reply : Reply) :
    fault base { method := .post, path := base ++ "/servers", token, body } reply =
      failed? (decodeReply serverReader reply) := by
  have area : Text.below base (base ++ "/servers") = "servers" := Text.below_append _ _
  simp only [fault, area, if_true]

theorem fault_upload {token : String} {body : Option Json} (reply : Reply) :
    fault base { method := .post, path := base ++ "/ssh_keys", token, body } reply =
      failed? (decodeReply keyReader reply) := by
  have area : Text.below base (base ++ "/ssh_keys") = "ssh_keys" := Text.below_append _ _
  simp only [fault, area]
  rfl

theorem not_creates_of_upload {q : Request} (path : q.path = base ++ "/ssh_keys") :
    ¬ (service base).Creates q := by
  rintro ⟨_, collection⟩
  have parts : "/ssh_keys" = "/servers" :=
    (String.append_right_inj base).mp (path.symm.trans collection)
  exact absurd parts (by decide)

theorem findServer_search {o : Except CloudError (Option Server)}
    (h : Yields (findServer (client base c) uid) t o) : (service base).Search c uid t o :=
  Service.search_of_yields (found_eq uid) (fault_search c uid) toCloud_definite h

/-- The part only looks up what is not a server, and stops at a failure. -/
abbrev Looks {α : Type} (base : String) (x : Operation α) : Prop :=
  IsOrderly (service base).LooksUp (fault base) x

theorem looksUp_aside {collection token : String} {query : List (String × String)}
    (other : collection ≠ "servers") : (service base).LooksUp
      { method := .get, path := base ++ ("/" ++ collection), query, token } :=
  ⟨rfl, fun same => other (Text.last_of_path same)⟩

theorem require_looks {collection kind name : String} (other : collection ≠ "servers") :
    Looks base (require (client base c) collection kind name) := by
  refine isOrderly_bind (isOrderly_ask (looksUp_aside other) ?_ toCloud_definite) fun entry => ?_
  · intro reply
    simp only [fault, client, Text.below_slash, if_neg other]
    exact (failure?_map _ _ _).symm
  · cases entry with
    | none => exact isOrderly_throw fun h => by cases h
    | some r => exact isOrderly_pure r.id

theorem requireNetworks_looks (names : List String) :
    Looks base (requireNetworks (client base c) names) := by
  induction names with
  | nil => exact isOrderly_pure []
  | cons name rest ih =>
    refine isOrderly_bind (require_looks (by decide)) fun id => ?_
    exact isOrderly_bind ih fun ids => isOrderly_pure (id :: ids)

theorem checkSettings_failsAs {P : CloudError → Prop} (token : P (.missing "token"))
    (serverType : P (.missing "serverType"))
    (places : P (.invalidConfiguration
      "location and datacenter must not be set at the same time"))
    (c : Config) : FailsAs P (checkSettings c) := by
  unfold checkSettings
  split
  · exact .error token
  split
  · exact .error serverType
  split
  · exact .error places
  · exact .ok ()

theorem checkSettings_definite (c : Config) : Definite (checkSettings c) :=
  checkSettings_failsAs (fun h => by cases h) (fun h => by cases h) (fun h => by cases h) c

theorem validate_looks (r : Resolver) (spec : MachineSpec) : Looks base (validate base r spec) := by
  unfold validate
  refine isOrderly_bind (isOrderly_ofExcept (config_definite r spec)) fun c => ?_
  refine isOrderly_bind (isOrderly_ofExcept (checkSettings_definite c)) fun _ => ?_
  extract_lets api afterDatacenter afterLocation
  have types : ∀ u, Looks base (afterDatacenter u) := by
    intro u
    refine isOrderly_bind (isOrderly_discard (require_looks (by decide))) fun _ => ?_
    refine isOrderly_bind (isOrderly_discard (require_looks (by decide))) fun _ => ?_
    exact isOrderly_discard (requireNetworks_looks c.networks)
  have places : ∀ u, Looks base (afterLocation u) := by
    intro u
    dsimp only [afterLocation]
    split
    · exact isOrderly_bind (isOrderly_discard (require_looks (by decide))) types
    · exact types ()
  split
  · exact isOrderly_bind (isOrderly_discard (require_looks (by decide))) places
  · exact places ()

theorem validate_course {r : Resolver} {spec : MachineSpec} {a : Except CloudError Unit}
    (h : Yields (validate base r spec) t a) : (service base).Course r (.validate spec) t a := by
  have orderly := validate_looks r spec t a h
  unfold validate at h
  rcases yields_resolved h with ⟨e, failed, rfl, rfl⟩ | ⟨c, resolved, _⟩
  · exact .unresolved rfl failed (config_definite r spec e failed)
  · exact .validated resolved (orderly.mono fun _ => And.left)

theorem uploadKeys_prepares (name : String) (place : Nat) (keys : List String) :
    IsOrderly (fun q => ¬ (service base).Creates q) (fault base)
      (uploadKeys (client base c) name place keys) := by
  induction keys generalizing place with
  | nil => exact isOrderly_pure []
  | cons key rest ih =>
    refine isOrderly_bind (isOrderly_ask (not_creates_of_upload rfl) fault_upload
      toCloud_definite) fun made => ?_
    exact isOrderly_bind (ih (place + 1)) fun ids => isOrderly_pure (made.id :: ids)

/-- The keys that an upload results in are those of its requests. -/
theorem uploadKeys_uploads (name : String) (place : Nat) (keys : List String) {ids : List Nat}
    (h : Yields (uploadKeys (client base c) name place keys) t (.ok ids)) :
    ∀ id ∈ ids, ∃ e ∈ t, Uploads base e id := by
  induction keys generalizing place t ids with
  | nil =>
    obtain ⟨-, same⟩ := yields_done h
    cases same
    nofun
  | cons key rest ih =>
    rcases Operation.yields_bind h with ⟨e, _, ⟨⟩⟩ | ⟨made, u, v, rfl, uploaded, h⟩
    rcases Operation.yields_bind h with ⟨e, _, ⟨⟩⟩ | ⟨more, v, w, rfl, others, h⟩
    obtain ⟨-, same⟩ := yields_done h
    cases same
    intro id member
    rcases List.mem_cons.mp member with rfl | later
    · rcases yields_call uploaded with ⟨_, _, failed⟩ | ⟨_, reply, rfl, resulted⟩
      · cases failed
      · exact ⟨_, List.mem_append_left _ (List.mem_singleton.mpr rfl), rfl, rfl, made,
          ok_of_mapError resulted, rfl⟩
    · obtain ⟨e, found, uploads⟩ := ih (place + 1) others id later
      exact ⟨e, by simp [found], uploads⟩

/-- Whatever the API says, each key is deleted. -/
theorem deleteKeys_deletes (ids : List Nat) {o : Except CloudError Unit}
    (h : Yields (deleteKeys (client base c) ids) t o) :
    o = .ok () ∧ ∀ e ∈ t, ∃ id ∈ ids, Deletes base e.1 id := by
  induction ids generalizing t o with
  | nil =>
    obtain ⟨rfl, rfl⟩ := yields_done h
    exact ⟨rfl, nofun⟩
  | cons id rest ih =>
    rcases Operation.yields_bind h with ⟨e, deleted, rfl⟩ | ⟨_, u, v, rfl, deleted, h⟩
    · obtain ⟨told, observed, same⟩ := yields_map deleted
      obtain ⟨_, _, rfl⟩ := yields_observe observed
      cases same
    · obtain ⟨told, observed, _⟩ := yields_map deleted
      obtain ⟨_, asked, _⟩ := yields_observe observed
      obtain ⟨ends, deletions⟩ := ih h
      refine ⟨ends, fun e member => ?_⟩
      rcases List.mem_append.mp member with here | later
      · rcases yields_send asked with ⟨_, rfl, _⟩ | ⟨_, reply, rfl, _⟩
        · cases here
        · cases List.mem_singleton.mp here
          exact ⟨id, List.mem_cons_self, rfl, rfl⟩
      · obtain ⟨id', known, deletes⟩ := deletions e later
        exact ⟨id', List.mem_cons_of_mem id known, deletes⟩

theorem get_course {r : Resolver} {m : Machine} {a : Except CloudError Instance}
    (h : Yields (get base r m) t a) : (service base).Course r (.get m) t a :=
  Service.course_of_get (config_definite r) (fun _ _ _ => findServer_search) (fun _ => rfl) rfl h

theorem create_course {r : Resolver} {m : Machine} {script : String}
    {a : Except CloudError Instance} (h : Yields (create base r m script) t a) :
    (service base).Course r (.create m script) t a := by
  refine Service.course_of_search rfl (config_definite r) (fun c _ _ => findServer_search)
    (fun c u v o resolved search h => ?_) h
  cases o with
  | some x =>
    obtain ⟨rfl, rfl⟩ := yields_done h
    rw [List.append_nil]
    exact .kept resolved search
  | none =>
    have looks : IsOrderly (fun q => ¬ (service base).Creates q) (fault base)
        (requireNetworks (client base c) c.networks) := by
      intro t o yields
      refine (requireNetworks_looks c.networks t o yields).mono ?_
      rintro q looks ⟨post, _⟩
      cases looks.1.symm.trans post
    rcases Operation.yields_bind h with ⟨e, required, rfl⟩ | ⟨networks, n, v, rfl, required, h⟩
    · exact .unprepared resolved search (looks _ _ required).recast
    rcases Operation.yields_bind h with ⟨e, uploaded, rfl⟩ | ⟨keys, k, v, rfl, uploaded, h⟩
    · exact .unprepared resolved search
        ((looks _ _ required).append (uploadKeys_prepares m.uid 0 _ _ _ uploaded)).recast
    have prepares := ((looks _ _ required).append
      (uploadKeys_prepares m.uid 0 _ _ _ uploaded)).forget
    rcases Operation.yields_bind h with ⟨e, observed, rfl⟩ | ⟨made, p, v, rfl, observed, h⟩
    · obtain ⟨_, _, same⟩ := yields_observe observed
      cases same
    obtain ⟨_, asked, same⟩ := yields_observe observed
    cases same
    rcases yields_send asked with ⟨unsendable, _, _⟩ | ⟨_, reply, rfl, rfl⟩
    · cases unsendable.symm.trans search.sendable
    rcases Operation.yields_bind h with ⟨e, cleared, rfl⟩ | ⟨_, d, w, rfl, cleared, h⟩
    · cases (deleteKeys_deletes keys cleared).1
    obtain ⟨-, deletes⟩ := deleteKeys_deletes keys cleared
    have clears : ∀ e ∈ d, ¬ (service base).Creates e.1 ∧
        ∃ f ∈ n ++ k, (service base).undone f e.1 := by
      intro e member
      obtain ⟨id, known, deletion⟩ := deletes e member
      obtain ⟨f, put, uploads⟩ := uploadKeys_uploads m.uid 0 _ uploaded id known
      refine ⟨?_, f, List.mem_append_right n put, id, uploads, deletion⟩
      rintro ⟨post, _⟩
      cases deletion.1.symm.trans post
    have ended : w = [] ∧ a = ((decodeReply serverReader reply).mapError ApiError.toCloud).map
        Server.snapshot := by
      cases read : decodeReply serverReader reply with
      | ok x =>
        rw [read] at h
        exact yields_done h
      | error e =>
        rw [read] at h
        exact yields_done h
    obtain ⟨rfl, rfl⟩ := ended
    rw [List.append_nil, List.singleton_append, ← List.append_assoc n k]
    exact Service.course_of_post resolved search prepares ⟨rfl, rfl⟩ (fault_creation reply)
      (.mapError toCloud_definite _) clears

theorem cleanup_course {r : Resolver} {m : Machine} {a : Except CloudError Bool}
    (h : Yields (cleanup base r m) t a) : (service base).Course r (.cleanup m) t a := by
  refine Service.course_of_search rfl (config_definite r) (fun c _ _ => findServer_search)
    (fun c u v o resolved search h => ?_) h
  cases o with
  | none =>
    obtain ⟨rfl, rfl⟩ := yields_done h
    rw [List.append_nil]
    exact .absent resolved search
  | some x =>
    dsimp only at h
    split at h
    · obtain ⟨rfl, rfl⟩ := yields_done h
      rw [List.append_nil]
      exact .leaving resolved search
    · refine Service.course_of_deletion ApiError.isNotFound resolved search ?_ ?_ ?_
        toCloud_definite ?_ ?_ h
      · rfl
      · exact ⟨rfl, rfl⟩
      · exact fun reply => (failure?_map _ (fun _ => ()) (check reply)).symm
      · rfl
      · exact fun _ => rfl

theorem migrateUid_course {r : Resolver} {m : Machine} {newUid : String}
    {a : Except CloudError Unit} (h : Yields (migrateUid base r m newUid) t a) :
    (service base).Course r (.migrateUid m newUid) t a := by
  refine Service.course_of_search rfl (config_definite r) (fun c _ _ => findServer_search)
    (fun c u v o resolved search h => ?_) h
  cases o with
  | none =>
    obtain ⟨rfl, rfl⟩ := yields_done h
    rw [List.append_nil]
    exact .unmarked resolved search
  | some x =>
    obtain ⟨told, updated, rfl⟩ := yields_map h
    rcases yields_call updated with ⟨unsendable, _, _⟩ | ⟨_, reply, rfl, rfl⟩
    · cases unsendable.symm.trans search.sendable
    refine Service.course_of_change rfl resolved search ⟨rfl, rfl⟩ rfl
      (.mapError toCloud_definite _) fun cause failed => ?_
    cases read : decodeReply serverReader reply with
    | ok _ =>
      rw [read] at failed
      cases failed
    | error e =>
      rw [read] at failed
      cases failed
      rfl

/-- Every run of an operation takes one of the courses. -/
theorem course_of_yields {r : Resolver} {call : CloudCall} {a : call.Answer}
    (h : Yields (answer base r call) t a) : (service base).Course r call t a := by
  cases call with
  | validate spec => exact validate_course h
  | get m => exact get_course h
  | create m script => exact create_course h
  | cleanup m => exact cleanup_course h
  | migrateUid m newUid => exact migrateUid_course h
  | addDefaults spec =>
    obtain ⟨rfl, rfl⟩ := yields_done h
    exact .apart rfl (.bind (.payload _ _ spec) fun _ => .ok _)
  | metricsLabels m =>
    obtain ⟨rfl, rfl⟩ := yields_done h
    exact .apart rfl (.bind (.payload _ _ m.spec) fun _ => .ok _)
  | cloudConfig spec =>
    obtain ⟨rfl, rfl⟩ := yields_done h
    exact .apart rfl (.ok _)
  | recordMetrics ms =>
    obtain ⟨rfl, rfl⟩ := yields_done h
    exact .apart rfl (.ok _)

end MachineFleet.Hetzner
