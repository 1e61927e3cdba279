import MachineFleet.Proofs.Http.Service
import MachineFleet.Proofs.Text.Path
import MachineFleet.Vultr.Machines

/-!
How the operations on Vultr go. Each of their requests has a reply that it can be read from, and
the failure to read it is what the operation ends in. Of the instances that the API lists, only
those with exactly the UID among their tags are the machine's.
-/

namespace MachineFleet.Vultr

open Program Http Operation

/-- The failure to make something of a reply. -/
def failed? {α : Type} (x : Except ApiError α) : Option CloudError :=
  failure? (x.mapError ApiError.toCloud)

def catalogueReader {α : Type} (name : String) (r : Json.Reader α) : Json.Reader (List α) :=
  Json.RecordReader.readMember "Catalogue" name (.list r)

/-- The failure that a reply is, when it is read for what the request asks. -/
def fault (base : String) (q : Request) (reply : Reply) : Option CloudError :=
  let area := Text.below base q.path
  match q.method with
  | .get =>
    if area = "instances" then failed? (decodeReply serversReader reply)
    else if area = "os" then failed? (decodeReply (catalogueReader area Image.reader) reply)
    else if area = "plans" then failed? (decodeReply (catalogueReader area Plan.reader) reply)
    else failed? (decodeReply (catalogueReader area regionReader) reply)
  | .post => failed? (decodeReply serverReader reply)
  | .put => failed? (check reply)
  | .patch => failed? (check reply)
  | .delete => failed? (check reply)

theorem body?_eq (reply : Reply) : reply.body? = (check reply).toOption := by
  cases reply with
  | dropped => rfl
  | response status body =>
    simp only [Reply.body?, check]
    by_cases success : isSuccess status = true
    · rw [if_pos success, if_pos success]
      rfl
    · rw [if_neg success, if_neg success]
      split <;> rfl

/-- A reply without the body of a success is read as its error, whatever it was for. -/
theorem fault_of_unread (base : String) {q : Request} {reply : Reply} {e : ApiError}
    (unread : check reply = .error e) : fault base q reply = some e.toCloud := by
  have undecoded : ∀ {α : Type} (r : Json.Reader α), decodeReply r reply = .error e := by
    intro α r
    unfold decodeReply
    rw [unread]
    rfl
  cases method : q.method with
  | get =>
    simp only [fault, method, undecoded]
    split
    · rfl
    split
    · rfl
    split <;> rfl
  | post =>
    simp only [fault, method, undecoded]
    rfl
  | _ =>
    simp only [fault, method, unread]
    rfl

theorem fault_of_bodiless (base : String) {q : Request} {reply : Reply}
    (bodiless : reply.body? = none) : fault base q reply ≠ none := by
  rw [body?_eq] at bodiless
  cases unread : check reply with
  | ok body =>
    rw [unread] at bodiless
    cases bodiless
  | error e =>
    rw [fault_of_unread base unread]
    nofun

def service (base : String) : Service where
  Record := Server
  Config := Config
  config := config
  token := Config.apiKey
  collection := base ++ "/instances"
  item s := base ++ ("/instances/" ++ s.id)
  query uid := [("tag", uid)]
  listing := serversReader
  owns uid s := s.tags.contains uid
  marking := .patch
  replaces := .inr rfl
  snapshot := Server.snapshot
  fault := fault base
  refused _ _ := fault_of_bodiless base
  undone _ _ := False
  answer := answer base

variable {base uid : String} {c : Config} {t : List Event} {reply : Reply}

theorem toCloud_definite (e : ApiError) : e.toCloud.classify ≠ .notFound := by
  cases e with
  | api status m =>
    simp only [ApiError.toCloud]
    split
    · exact fun h => by cases h
    · split <;> exact fun h => by cases h
  | transport => exact fun h => by cases h

theorem config_definite (r : Resolver) (spec : MachineSpec) : Definite (config r spec) := by
  unfold config payload
  refine .bind (.payload _ _ spec) fun found => ?_
  refine .bind (.resolved _) fun _ => .bind (.resolved _) fun _ => .bind (.resolved _) fun _ => ?_
  exact .bind (.resolved _) fun _ => .bind (.resolved _) fun _ => .bind (.resolved _) fun _ => .ok _

theorem family_definite (os : OperatingSystem) : Definite (family os) := by
  unfold family
  split <;> exact fun _ failed missing => by cases failed <;> cases missing

theorem checkSettings_definite (c : Config) : Definite (checkSettings c) := by
  unfold checkSettings
  split
  · exact .error fun h => by cases h
  split
  · exact .error fun h => by cases h
  split
  · exact .error fun h => by cases h
  · exact .ok ()

theorem checkPlan_definite (c : Config) (plans : List Plan) : Definite (checkPlan c plans) := by
  unfold checkPlan
  split
  · exact .error fun h => by cases h
  · split
    · exact .error fun h => by cases h
    · exact .ok ()

theorem read?_eq {α : Type} (r : Json.Reader α) (reply : Reply) :
    reply.read? r = (decodeReply r reply).toOption :=
  Reply.read?_eq r _ (body?_eq reply)

theorem found_eq (uid : String) (reply : Reply) :
    (service base).found uid reply =
      ((decodeReply serversReader reply).map fun ss =>
        ss.filter fun s => s.tags.contains uid).toOption := by
  have listed : reply.read? serversReader = (decodeReply serversReader reply).toOption :=
    read?_eq serversReader reply
  show (reply.read? serversReader).map _ = _
  rw [listed]
  cases decodeReply serversReader reply <;> rfl

theorem fault_search (c : Config) (uid : String) (reply : Reply) :
    fault base ((service base).search c uid) reply =
      failed? ((decodeReply serversReader reply).map fun ss =>
        ss.filter fun s => s.tags.contains uid) := by
  have area : Text.below base (base ++ "/instances") = "instances" := Text.below_append _ _
  simp only [fault, Service.search, service, area, if_true, failed?, failure?_map]

theorem findInstance_search {o : Except CloudError (Option Server)}
    (h : Yields (findInstance (client base c) uid) t o) : (service base).Search c uid t o :=
  Service.search_of_yields (found_eq uid) (fault_search c uid) toCloud_definite h

/-- The part only looks up what is not an instance, and stops at a failure. -/
abbrev Looks {α : Type} (base : String) (x : Operation α) : Prop :=
  IsOrderly (service base).LooksUp (fault base) x

theorem looksUp_aside {name token : String} {query : List (String × String)}
    (other : name ≠ "instances") : (service base).LooksUp
      { method := .get, path := base ++ ("/" ++ name), query, token } :=
  ⟨rfl, fun same => other (Text.last_of_path same)⟩

theorem list_looks {α : Type} {name : String} (other : name ≠ "instances") (r : Json.Reader α)
    (faults : ∀ (query : List (String × String)) (token : String) (reply : Reply),
      fault base { method := .get, path := base ++ ("/" ++ name), query, token } reply =
        failed? (decodeReply (catalogueReader name r) reply)) :
    Looks base (Operation.ofApi ApiError.toCloud ((client base c).list name r)) :=
  isOrderly_ask (looksUp_aside other) (faults _ _) toCloud_definite

theorem listImages_looks :
    Looks base (Operation.ofApi ApiError.toCloud (client base c).listImages) := by
  refine list_looks (by decide) Image.reader fun query token reply => ?_
  simp only [fault, Text.below_slash]
  rfl

theorem listPlans_looks :
    Looks base (Operation.ofApi ApiError.toCloud (client base c).listPlans) := by
  refine list_looks (by decide) Plan.reader fun query token reply => ?_
  simp only [fault, Text.below_slash]
  rfl

theorem listRegions_looks :
    Looks base (Operation.ofApi ApiError.toCloud (client base c).listRegions) := by
  refine list_looks (by decide) regionReader fun query token reply => ?_
  simp only [fault, Text.below_slash]
  rfl

theorem resolveOs_looks (c : Config) : Looks base (resolveOs (client base c) c) := by
  unfold resolveOs
  split
  · split
    · exact isOrderly_pure _
    · exact isOrderly_throw fun h => by cases h
  · refine isOrderly_bind (isOrderly_ofExcept (family_definite c.operatingSystem)) fun f => ?_
    refine isOrderly_bind listImages_looks fun images => ?_
    split
    · exact isOrderly_pure _
    · exact isOrderly_throw fun h => by cases h

theorem validate_looks (r : Resolver) (spec : MachineSpec) : Looks base (validate base r spec) := by
  unfold validate
  refine isOrderly_bind (isOrderly_ofExcept (config_definite r spec)) fun c => ?_
  refine isOrderly_bind (isOrderly_ofExcept (checkSettings_definite c)) fun _ => ?_
  refine isOrderly_bind listRegions_looks fun regions => ?_
  extract_lets afterRegion
  have plans : ∀ u, Looks base (afterRegion u) := by
    intro u
    refine isOrderly_bind listPlans_looks fun plans => ?_
    refine isOrderly_bind (isOrderly_ofExcept (checkPlan_definite c plans)) fun _ => ?_
    exact isOrderly_discard (resolveOs_looks c)
  split
  · exact isOrderly_bind (isOrderly_throw fun h => by cases h) plans
  · exact plans ()

theorem validate_course {r : Resolver} {spec : MachineSpec} {a : Except CloudError Unit}
    (h : Yields (validate base r spec) t a) : (service base).Course r (.validate spec) t a := by
  have orderly := validate_looks r spec t a h
  unfold validate at h
  rcases yields_resolved h with ⟨e, failed, rfl, rfl⟩ | ⟨c, resolved, _⟩
  · exact .unresolved rfl failed (config_definite r spec e failed)
  · exact .validated resolved (orderly.mono fun _ => And.left)

theorem get_course {r : Resolver} {m : Machine} {a : Except CloudError Instance}
    (h : Yields (get base r m) t a) : (service base).Course r (.get m) t a :=
  Service.course_of_get (config_definite r) (fun _ _ _ => findInstance_search) (fun _ => rfl) rfl h

theorem create_course {r : Resolver} {m : Machine} {script : String}
    {a : Except CloudError Instance} (h : Yields (create base r m script) t a) :
    (service base).Course r (.create m script) t a := by
  refine Service.course_of_search rfl (config_definite r) (fun c _ _ => findInstance_search)
    (fun c u v o resolved search h => ?_) h
  cases o with
  | some x =>
    obtain ⟨rfl, rfl⟩ := yields_done h
    rw [List.append_nil]
    exact .kept resolved search
  | none =>
    have looks : IsOrderly (fun q => ¬ (service base).Creates q) (fault base)
        (resolveOs (client base c) c) := by
      intro t o yields
      refine (resolveOs_looks c t o yields).mono ?_
      rintro q looks ⟨post, _⟩
      cases looks.1.symm.trans post
    rcases Operation.yields_bind h with ⟨e, chosen, rfl⟩ | ⟨os, n, v, rfl, chosen, h⟩
    · exact .unprepared resolved search (looks _ _ chosen).recast
    obtain ⟨made, asked, rfl⟩ := yields_map h
    rcases yields_call asked with ⟨unsendable, _, _⟩ | ⟨_, reply, rfl, rfl⟩
    · cases unsendable.symm.trans search.sendable
    exact Service.course_of_post resolved search (looks _ _ chosen).forget ⟨rfl, rfl⟩ rfl
      (.mapError toCloud_definite _) nofun

theorem cleanup_course {r : Resolver} {m : Machine} {a : Except CloudError Bool}
    (h : Yields (cleanup base r m) t a) : (service base).Course r (.cleanup m) t a := by
  refine Service.course_of_search rfl (config_definite r) (fun c _ _ => findInstance_search)
    (fun c u v o resolved search h => ?_) h
  cases o with
  | none =>
    obtain ⟨rfl, rfl⟩ := yields_done h
    rw [List.append_nil]
    exact .absent resolved search
  | some x =>
    refine Service.course_of_deletion ApiError.isNotFound resolved search ?_ ?_ ?_
      toCloud_definite ?_ ?_ h
    · rfl
    · exact ⟨rfl, rfl⟩
    · exact fun reply => (failure?_map _ (fun _ => ()) (check reply)).symm
    · rfl
    · exact fun _ => rfl

theorem migrateUid_course {r : Resolver} {m : Machine} {newUid : String}
    {a : Except CloudError Unit} (h : Yields (migrateUid base r m newUid) t a) :
    (service base).Course r (.migrateUid m newUid) t a := by
  refine Service.course_of_search rfl (config_definite r) (fun c _ _ => findInstance_search)
    (fun c u v o resolved search h => ?_) h
  cases o with
  | none =>
    obtain ⟨rfl, rfl⟩ := yields_done h
    rw [List.append_nil]
    exact .unmarked resolved search
  | some x =>
    rcases yields_call h with ⟨unsendable, _, _⟩ | ⟨_, reply, rfl, rfl⟩
    · cases unsendable.symm.trans search.sendable
    exact Service.course_of_change rfl resolved search ⟨rfl, rfl⟩
      (failure?_map _ (fun _ => ()) (check reply)).symm (.mapError toCloud_definite _) fun _ => id

/-- Every run of an operation takes one of the courses. -/
theorem course_of_yields {r : Resolver} {call : CloudCall} {a : call.Answer}
    (h : Yields (answer base r call) t a) : (service base).Course r call t a := by
  cases call with
  | validate spec => exact validate_course h
  | get m => exact get_course h
  | create m script => exact create_course h
  | cleanup m => exact cleanup_course h
  | migrateUid m newUid => exact migrateUid_course h
  | addDefaults spec =>
    obtain ⟨rfl, rfl⟩ := yields_done h
    exact .apart rfl (.ok _)
  | metricsLabels m =>
    obtain ⟨rfl, rfl⟩ := yields_done h
    exact .apart rfl (.bind (.payload _ _ m.spec) fun _ => .ok _)
  | cloudConfig spec =>
    obtain ⟨rfl, rfl⟩ := yields_done h
    exact .apart rfl (.ok _)
  | recordMetrics ms =>
    obtain ⟨rfl, rfl⟩ := yields_done h
    exact .apart rfl (.ok _)

end MachineFleet.Vultr
