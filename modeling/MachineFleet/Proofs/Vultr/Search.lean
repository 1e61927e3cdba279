import MachineFleet.Proofs.Fleet.Play
import MachineFleet.Proofs.Fleet.Safety
import MachineFleet.Proofs.Vultr.Conduct

/-!
What an answered search on Vultr leads to: the operations on a machine take one of the instances
that are listed for it, or they take it that there is none.
-/

namespace MachineFleet.Vultr

open World

variable {base : String} {ι : Type}

/-- A search for the instance of a machine is answered with what the account holds. -/
structure Searches (w : World (cloud base) ι) (i : ι) (r : Resolver) (m : Machine)
    (reply : Http.Reply) : Prop where
  named : m.uid = (w.agents i).uid
  resolved : ∃ c, config r m.spec = .ok c ∧ Http.isHeaderValue c.apiKey = true
  told : ∃ found, decodeReply serversReader reply = .ok found ∧
    found.Perm (w.records.filter (listedFor m.uid))

/-- After this reply, operations on the machine take `s` for its instance. -/
structure Takes (base : String) (r : Resolver) (m : Machine) (reply : Http.Reply) (s : Server) :
    Prop where
  get : Http.Exchange.resume reply (get base r m) = .done (.ok s.snapshot)
  create : ∀ userdata,
    Http.Exchange.resume reply (create base r m userdata) = .done (.ok s.snapshot)
  cleanup : ∃ q, Http.Exchange.request? (Http.Exchange.resume reply (cleanup base r m)) = some q ∧
    q.method = .delete ∧ q.path = base ++ ("/instances/" ++ s.id)
  migrateUid : ∀ newUid, ∃ q,
    Http.Exchange.request? (Http.Exchange.resume reply (migrateUid base r m newUid)) = some q ∧
    q.method = .patch ∧ q.path = base ++ ("/instances/" ++ s.id) ∧
    q.body.bind tagsOf = some (s.tags.filter (· != m.uid) ++ [newUid])

/-- After this reply, operations on the machine know of no instance: a creation makes one. -/
structure Misses (base : String) (r : Resolver) (m : Machine) (reply : Http.Reply) : Prop where
  get : Http.Exchange.resume reply (get base r m) = .done (.error .instanceNotFound)
  create : ∀ userdata c, config r m.spec = .ok c →
    Http.Exchange.resume reply (create base r m userdata) = (do
      let os ← resolveOs (client base c) c
      let s ← Operation.ofApi ApiError.toCloud
        ((client base c).createInstance (createBody c m userdata os))
      return s.snapshot : Operation Instance)
  cleanup : Http.Exchange.resume reply (cleanup base r m) = .done (.ok true)
  migrateUid : ∀ newUid,
    Http.Exchange.resume reply (migrateUid base r m newUid) = .done (.ok ())

variable {r : Resolver} {m : Machine} {c : Config} {reply : Http.Reply} {found : List Server}

def sought (uid : String) (reply : Http.Reply) : Except CloudError (Option Server) :=
  match decodeReply serversReader reply with
  | .ok found => .ok (picked uid found)
  | .error e => .error e.toCloud

theorem call_ask {α : Type} {api : Client} (sent : Http.isHeaderValue api.token = true)
    (method : Http.Method) (path : String) (query : List (String × String)) (body : Option Json)
    (read : Http.Reply → Except ApiError α) :
    api.call method path query body read = .ask
      { method, path := api.base ++ path, query, token := api.token, body }
      fun reply => .done (read reply) := by
  unfold Client.call Http.send
  rw [if_pos sent]
  rfl

theorem findInstance_ask (api : Client) (sent : Http.isHeaderValue api.token = true)
    (uid : String) :
    findInstance api uid = Program.ask
      { method := .get, path := api.base ++ "/instances", query := [("tag", uid)],
        token := api.token }
      fun reply => .done (sought uid reply) := by
  unfold findInstance Operation.ofApi Client.listByTag
  rw [call_ask sent]
  have same : ∀ reply, ExceptT.bindCont (m := Program Http.Request fun _ => Http.Reply)
      (fun found : List Server => (pure found.head? : Operation (Option Server)))
      (((decodeReply serversReader reply).map fun ss =>
        ss.filter fun s => s.tags.contains uid).mapError ApiError.toCloud) =
      Program.done (sought uid reply) := by
    intro reply
    unfold sought
    cases decodeReply serversReader reply with
    | ok found => rfl
    | error e => rfl
  exact congrArg (Program.ask _) (funext same)

theorem resume_search {α : Type} (resolved : config r m.spec = .ok c)
    (sent : Http.isHeaderValue c.apiKey = true)
    (told : decodeReply serversReader reply = .ok found)
    (f : Config → Option Server → Operation α) :
    Http.Exchange.resume reply (Operation.ofExcept (config r m.spec) >>= fun c =>
      findInstance (client base c) m.uid >>= f c : Operation α) = f c (picked m.uid found) := by
  have learnt : sought m.uid reply = .ok (picked m.uid found) := by
    unfold sought
    rw [told]
  have asks := findInstance_ask (client base c) sent m.uid
  have searched : Http.Exchange.resume reply
      (findInstance (client base c) m.uid >>= f c : Operation α) =
        ExceptT.bindCont (f c) (sought m.uid reply) := by
    rw [asks]
    rfl
  rw [resolved]
  rw [learnt] at searched
  exact searched

theorem takes_of_picked (resolved : config r m.spec = .ok c)
    (sent : Http.isHeaderValue c.apiKey = true)
    (told : decodeReply serversReader reply = .ok found) {s : Server}
    (choice : picked m.uid found = some s) : Takes base r m reply s := by
  have token : Http.isHeaderValue (client base c).token = true := sent
  constructor
  case get =>
    unfold Vultr.get
    rw [resume_search resolved sent told, choice]
    rfl
  case create =>
    intro userdata
    unfold Vultr.create
    rw [resume_search resolved sent told, choice]
    rfl
  case cleanup =>
    refine ⟨{ method := .delete, path := base ++ ("/instances/" ++ s.id), token := c.apiKey },
      ?_, rfl, rfl⟩
    unfold Vultr.cleanup
    rw [resume_search resolved sent told, choice]
    dsimp only
    unfold Operation.observe Client.deleteInstance
    rw [call_ask token]
    rfl
  case migrateUid =>
    intro newUid
    refine ⟨{
      method := .patch
      path := base ++ ("/instances/" ++ s.id)
      token := c.apiKey
      body := some (.obj [("tags", .ofList (s.tags.filter (· != m.uid) ++ [newUid]))]) },
      ?_, rfl, rfl, tagsOf_tags _⟩
    unfold Vultr.migrateUid
    rw [resume_search resolved sent told, choice]
    dsimp only
    unfold Operation.ofApi Client.setTags
    rw [call_ask token]
    rfl

theorem misses_of_picked (resolved : config r m.spec = .ok c)
    (sent : Http.isHeaderValue c.apiKey = true)
    (told : decodeReply serversReader reply = .ok found)
    (choice : picked m.uid found = none) : Misses base r m reply := by
  constructor
  case get =>
    unfold Vultr.get
    rw [resume_search resolved sent told, choice]
    rfl
  case create =>
    intro userdata c' resolved'
    cases resolved.symm.trans resolved'
    unfold Vultr.create
    rw [resume_search resolved sent told, choice]
  case cleanup =>
    unfold Vultr.cleanup
    rw [resume_search resolved sent told, choice]
    rfl
  case migrateUid =>
    intro newUid
    unfold Vultr.migrateUid
    rw [resume_search resolved sent told, choice]
    rfl

variable {words : Option ι → String → Prop} {w : World (cloud base) ι} {i j : ι}

/-- An operation takes an instance with the UID among its tags. It misses if there is none. -/
theorem Searches.takes_or_misses (searches : Searches w i r m reply) :
    (∃ s ∈ w.records, (w.agents i).uid ∈ s.tags ∧ Takes base r m reply s) ∨
      (∀ s ∈ w.records, (w.agents i).uid ∉ s.tags) ∧ Misses base r m reply := by
  obtain ⟨named, ⟨c, resolved, sent⟩, found, told, exact⟩ := searches
  rw [← named]
  cases choice : picked m.uid found with
  | none =>
    refine .inr ⟨fun s member has => ?_, misses_of_picked resolved sent told choice⟩
    have listed := List.mem_filter.mpr ⟨member, listedFor_of_mem has⟩
    exact picked_none choice s (exact.mem_iff.mpr listed) has
  | some s =>
    obtain ⟨listed, has⟩ := picked_some choice
    have member := (List.mem_filter.mp (exact.mem_iff.mp listed)).1
    exact .inl ⟨s, member, has, takes_of_picked resolved sent told choice⟩

/-- An instance that is listed first is taken for that of any machine whose UID is a tag of it. -/
theorem Searches.takes_first (searches : Searches w i r m reply) {s : Server}
    {rest : List Server} (told : decodeReply serversReader reply = .ok (s :: rest))
    (shared : (w.agents i).uid ∈ s.tags) : Takes base r m reply s := by
  obtain ⟨named, ⟨c, resolved, sent⟩, -⟩ := searches
  rw [← named] at shared
  have choice : picked m.uid (s :: rest) = some s := by
    have passes : s.tags.contains m.uid = true := List.contains_iff_mem.mpr shared
    unfold picked
    rw [List.filter_cons, if_pos passes, List.head?_cons]
  exact takes_of_picked resolved sent told choice

end MachineFleet.Vultr
