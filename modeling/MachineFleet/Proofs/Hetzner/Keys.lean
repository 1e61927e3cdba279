import MachineFleet.Proofs.Http.Restraint

/-!
What becomes of the keys that a creation on Hetzner Cloud puts up. A creation that gets as far as
the request for the server takes away every key that it has put up, each of them once, whatever
the API says to it. A creation that ends while it is putting up its keys takes none away.
-/

namespace MachineFleet.Hetzner

open Program Http Operation

/-- The number of the key that the event has put up. -/
def uploaded? (base : String) (e : Event) : Option Nat :=
  if e.1.method = .post ∧ e.1.path = base ++ "/ssh_keys" then
    (decodeReply keyReader e.2).toOption.map (·.id)
  else none

def uploads (base : String) (t : List Event) : List Nat := t.filterMap (uploaded? base)

/-- The paths of what is deleted. -/
def deletions (t : List Event) : List String :=
  (t.filter fun e => e.1.method = .delete).map fun e => e.1.path

def keyPath (base : String) (id : Nat) : String := base ++ ("/ssh_keys/" ++ toString id)

/-- The keys that are put up are all taken away later, each of them once, and nothing else is. -/
def Cleared (base : String) (t : List Event) : Prop :=
  ∃ u v, t = u ++ v ∧ deletions u = [] ∧ uploads base v = [] ∧
    deletions v = (uploads base u).map (keyPath base)

/-- The event is an attempt to put up a key that has failed. -/
structure Rejects (base : String) (e : Event) (cause : CloudError) : Prop where
  method : e.1.method = .post
  path : e.1.path = base ++ "/ssh_keys"
  failed : fault base e.1 e.2 = some cause

variable {base uid : String} {c : Config} {t u v : List Event}

@[simp] theorem uploads_append : uploads base (u ++ v) = uploads base u ++ uploads base v :=
  List.filterMap_append

@[simp] theorem deletions_append : deletions (u ++ v) = deletions u ++ deletions v := by
  simp [deletions]

/-- Looking things up leaves the keys as they are. -/
theorem uploads_of_looks (looks : ∀ e ∈ t, e.1.method = .get) : uploads base t = [] := by
  refine List.filterMap_eq_nil_iff.mpr fun e member => if_neg ?_
  rintro ⟨post, _⟩
  cases (looks e member).symm.trans post

theorem deletions_of_looks (looks : ∀ e ∈ t, e.1.method = .get) : deletions t = [] := by
  unfold deletions
  rw [List.map_eq_nil_iff, List.filter_eq_nil_iff]
  intro e member
  rw [looks e member]
  decide

theorem cleared_of_looks (looks : ∀ e ∈ t, e.1.method = .get) : Cleared base t := by
  refine ⟨t, [], (List.append_nil t).symm, deletions_of_looks looks, rfl, ?_⟩
  rw [uploads_of_looks looks]
  rfl

theorem uploads_upload {token : String} {body : Option Json} (reply : Reply) :
    uploads base [⟨{ method := .post, path := base ++ "/ssh_keys", token, body }, reply⟩] =
      ((decodeReply keyReader reply).toOption.map (·.id)).toList := by
  have found : uploaded? base
      ⟨{ method := .post, path := base ++ "/ssh_keys", token, body }, reply⟩ =
        (decodeReply keyReader reply).toOption.map (·.id) := if_pos ⟨rfl, rfl⟩
  rw [uploads, List.filterMap_cons, found]
  cases (decodeReply keyReader reply).toOption <;> rfl

theorem uploads_creation {token : String} {body : Option Json} (reply : Reply) :
    uploads base [⟨{ method := .post, path := base ++ "/servers", token, body }, reply⟩] = [] := by
  refine List.filterMap_eq_nil_iff.mpr fun e member => if_neg ?_
  rintro ⟨_, path⟩
  cases List.mem_singleton.mp member
  exact absurd ((String.append_right_inj base).mp path) (by decide)

/-- Putting up keys only puts them up. -/
theorem uploadKeys_deletions {place : Nat} {keys : List String} {o : Except CloudError (List Nat)}
    (h : Yields (uploadKeys (client base c) uid place keys) t o) : deletions t = [] := by
  induction keys generalizing place t o with
  | nil =>
    obtain ⟨rfl, _⟩ := yields_done h
    rfl
  | cons key rest ih =>
    have first : ∀ {u : List Event} {r : Except CloudError NamedResource},
        Yields (ofApi ApiError.toCloud ((client base c).createKey (uid ++ "-" ++ toString place)
          key)) u r → deletions u = [] := by
      intro u r uploaded
      rcases yields_call uploaded with ⟨_, rfl, _⟩ | ⟨_, reply, rfl, _⟩
      · rfl
      · rfl
    rcases Operation.yields_bind h with ⟨e, uploaded, _⟩ | ⟨made, u, v, rfl, uploaded, h⟩
    · exact first uploaded
    rw [deletions_append, first uploaded, List.nil_append]
    rcases Operation.yields_bind h with ⟨e, others, _⟩ | ⟨more, v, w, rfl, others, h⟩
    · exact ih others
    · obtain ⟨rfl, _⟩ := yields_done h
      rw [List.append_nil]
      exact ih others

theorem uploadKeys_ok {place : Nat} {keys : List String} {ids : List Nat}
    (h : Yields (uploadKeys (client base c) uid place keys) t (.ok ids)) :
    uploads base t = ids := by
  induction keys generalizing place t ids with
  | nil =>
    obtain ⟨rfl, same⟩ := yields_done h
    cases same
    rfl
  | cons key rest ih =>
    rcases Operation.yields_bind h with ⟨e, _, ⟨⟩⟩ | ⟨made, u, v, rfl, uploaded, h⟩
    rcases Operation.yields_bind h with ⟨e, _, ⟨⟩⟩ | ⟨more, v, w, rfl, others, h⟩
    obtain ⟨rfl, same⟩ := yields_done h
    cases same
    rcases yields_call uploaded with ⟨_, _, failed⟩ | ⟨_, reply, rfl, resulted⟩
    · cases failed
    · have read : decodeReply keyReader reply = .ok made := ok_of_mapError resulted
      rw [List.append_nil, uploads_append, ih others]
      exact congrArg (· ++ more) ((uploads_upload reply).trans (by rw [read]))

/-- Putting up keys fails with the last of its requests. -/
theorem uploadKeys_error {place : Nat} {keys : List String} {cause : CloudError}
    (sendable : isHeaderValue c.token = true)
    (h : Yields (uploadKeys (client base c) uid place keys) t (.error cause)) :
    ∃ u e, t = u ++ [e] ∧ Rejects base e cause := by
  induction keys generalizing place t with
  | nil => cases (yields_done h).2
  | cons key rest ih =>
    rcases Operation.yields_bind h with ⟨e, uploaded, same⟩ | ⟨made, u, v, rfl, uploaded, h⟩
    · cases same
      rcases yields_call uploaded with ⟨unsendable, _, _⟩ | ⟨_, reply, rfl, failed⟩
      · cases sendable.symm.trans unsendable
      · refine ⟨[], _, rfl, rfl, rfl, (fault_upload reply).trans ?_⟩
        exact failure?_eq_some.mpr failed.symm
    · rcases Operation.yields_bind h with ⟨e, others, same⟩ | ⟨more, v, w, rfl, others, h⟩
      · cases same
        obtain ⟨w, e, rfl, rejects⟩ := ih others
        exact ⟨u ++ w, e, (List.append_assoc u w [e]).symm, rejects⟩
      · cases (yields_done h).2

/-- Whatever the API says, each key is taken away once. -/
theorem deleteKeys_clears {ids : List Nat} {o : Except CloudError Unit}
    (sendable : isHeaderValue c.token = true)
    (h : Yields (deleteKeys (client base c) ids) t o) :
    uploads base t = [] ∧ deletions t = ids.map (keyPath base) := by
  induction ids generalizing t o with
  | nil =>
    obtain ⟨rfl, _⟩ := yields_done h
    exact ⟨rfl, rfl⟩
  | cons id rest ih =>
    rcases Operation.yields_bind h with ⟨e, deleted, _⟩ | ⟨_, u, v, rfl, deleted, h⟩
    · obtain ⟨told, observed, same⟩ := yields_map deleted
      obtain ⟨_, _, rfl⟩ := yields_observe observed
      cases same
    · obtain ⟨told, observed, _⟩ := yields_map deleted
      obtain ⟨_, asked, _⟩ := yields_observe observed
      obtain ⟨kept, cleared⟩ := ih h
      rcases yields_send asked with ⟨unsendable, _, _⟩ | ⟨_, reply, rfl, _⟩
      · cases sendable.symm.trans unsendable
      · rw [uploads_append, deletions_append, kept, cleared]
        exact ⟨rfl, rfl⟩

/-- Once the keys are put up, the server is asked for, and then each key is taken away. -/
theorem posting_clears {body : Json} {keys : List Nat}
    {next : Except ApiError Server → Operation Instance} {a : Except CloudError Instance}
    (sendable : isHeaderValue c.token = true)
    (silent : ∀ made t a, Yields (next made) t a → t = [])
    (h : Yields (observe ((client base c).createServer body) >>= fun made =>
      deleteKeys (client base c) keys >>= fun _ => next made : Operation Instance) t a) :
    ∃ p d, t = p :: d ∧ (deletions [p] = [] ∧ uploads base [p] = []) ∧ uploads base d = [] ∧
      deletions d = keys.map (keyPath base) := by
  rcases Operation.yields_bind h with ⟨e, observed, rfl⟩ | ⟨made, p, v, rfl, observed, h⟩
  · obtain ⟨_, _, same⟩ := yields_observe observed
    cases same
  obtain ⟨_, asked, same⟩ := yields_observe observed
  cases same
  rcases yields_send asked with ⟨unsendable, _, _⟩ | ⟨_, reply, rfl, rfl⟩
  · cases unsendable.symm.trans sendable
  rcases Operation.yields_bind h with ⟨e, cleared, rfl⟩ | ⟨_, d, w, rfl, cleared, h⟩
  · cases (deleteKeys_deletes keys cleared).1
  obtain ⟨later, deleted⟩ := deleteKeys_clears sendable cleared
  obtain rfl := silent _ _ _ h
  rw [List.append_nil]
  exact ⟨_, d, rfl, ⟨rfl, uploads_creation reply⟩, later, deleted⟩

theorem create_clears {r : Resolver} {m : Machine} {script : String}
    {a : Except CloudError Instance} (h : Yields (create base r m script) t a) :
    Cleared base t ∨ ∃ u e cause, t = u ++ [e] ∧ Rejects base e cause ∧ a = .error cause ∧
      deletions t = [] := by
  unfold create at h
  rcases yields_resolved h with ⟨e, _, rfl, _⟩ | ⟨c, resolved, h⟩
  · exact .inl (cleared_of_looks nofun)
  rcases Operation.yields_bind h with ⟨e, searched, rfl⟩ | ⟨o, s, v, rfl, searched, h⟩
  · exact .inl (cleared_of_looks fun _ => (findServer_search searched).looks)
  have search : (service base).Search c m.uid s (.ok o) := findServer_search searched
  cases o with
  | some x =>
    obtain ⟨rfl, _⟩ := yields_done h
    rw [List.append_nil]
    exact .inl (cleared_of_looks fun _ => search.looks)
  | none =>
    have looking : ∀ {n : List Event} {o : Except CloudError (List Nat)},
        Yields (requireNetworks (client base c) c.networks) n o →
        ∀ e ∈ s ++ n, e.1.method = .get := by
      intro n o required
      have networks := (requireNetworks_looks c.networks n o required).requests
      exact List.forall_mem_append.mpr
        ⟨fun _ => search.looks, fun e member => (networks e member).1⟩
    rcases Operation.yields_bind h with ⟨e, required, rfl⟩ | ⟨networks, n, v, rfl, required, h⟩
    · exact .inl (cleared_of_looks (looking required))
    have looks := looking required
    rcases Operation.yields_bind h with ⟨e, uploaded, rfl⟩ | ⟨keys, k, v, rfl, uploaded, h⟩
    · obtain ⟨u, last, rfl, rejects⟩ := uploadKeys_error search.sendable uploaded
      refine .inr ⟨s ++ n ++ u, last, e, by simp, rejects, rfl, ?_⟩
      rw [← List.append_assoc, deletions_append, deletions_of_looks looks,
        uploadKeys_deletions uploaded]
      rfl
    obtain ⟨p, d, rfl, first, later, deleted⟩ := posting_clears search.sendable
      (fun made t a h => by cases made <;> exact (yields_done h).1) h
    refine .inl ⟨s ++ n ++ k ++ [p], d, by simp only [List.append_assoc, List.singleton_append],
      ?_, later, ?_⟩
    · rw [deletions_append, deletions_append, deletions_of_looks looks,
        uploadKeys_deletions uploaded, first.1]
      rfl
    · rw [deleted, uploads_append, uploads_append, uploads_of_looks looks,
        uploadKeys_ok uploaded, first.2, List.nil_append, List.append_nil]

/-- Whatever the API replies, a creation takes away every key that it has put up, unless it ends
with a key that it could not put up. -/
theorem keys_are_cleared {σ : Type} (peer : Request → σ → Reply × σ) (now : σ) (base : String)
    (r : Resolver) (m : Machine) (script : String) :
    let creation : Exchange (Except CloudError Instance) := create base r m script
    let t := creation.transcript peer now
    Cleared base t ∨ ∃ u e cause, t = u ++ [e] ∧ Rejects base e cause ∧
      (creation.run peer now).1 = .error cause ∧ deletions t = [] :=
  create_clears (yields_run peer (create base r m script) now)

namespace Interruption

def machine : Machine where
  metadata := { name := some "worker-1", uid := some "uid-1" }
  spec :=
    { provider := some (.obj [("cloudProvider", .str "hetzner"), ("operatingSystem", .str "ubuntu"),
        ("sshPublicKeys", .arr [.str "one", .str "two"]),
        ("cloudProviderSpec", .obj [("token", .str "key"), ("serverType", .str "cx22")])]) }

/-- There is no server, the first key is taken and the second one is not. -/
def peer : Peer where
  replies :=
    [.response 200 (Json.obj [("servers", .arr [])]).compact,
      .response 201
        (Json.obj [("ssh_key", .obj [("id", .ofNat 1), ("name", .str "uid-1-0")])]).compact,
      .response 503 ""]

def events : List Event := Program.transcript Peer.answer (create "" {} machine "") peer

end Interruption

open Interruption in
/-- A key is put up and never taken away. -/
theorem interrupted_creation_leaves_key :
    uploads "" events = [1] ∧ deletions events = [] ∧ ¬ Cleared "" events := by
  have put : uploads "" events = [1] := by decide +kernel
  have left : deletions events = [] := by decide +kernel
  refine ⟨put, left, ?_⟩
  rintro ⟨u, v, split, _, quiet, deleted⟩
  rw [split, uploads_append, quiet, List.append_nil] at put
  rw [split, deletions_append, deleted, put] at left
  simp at left

end MachineFleet.Hetzner
