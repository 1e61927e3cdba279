import MachineFleet.Proofs.Http.Restraint

/-!
When the record of a machine counts as gone. A clean-up is to report that only if each record that
the API lists for the machine is gone. It addresses no other than the first one: the report can be
relied on where at most one is listed, and says nothing of those behind it.
-/

namespace MachineFleet

open Program

namespace Http

/-- The API does not know what the request is about. -/
def Reply.IsUnknown (reply : Reply) : Prop := ∃ body, reply = .response 404 body

namespace Service

variable (s : Service)

/-- The API was to delete the record, and does not know it. -/
structure Gone (x : s.Record) (e : Event) : Prop where
  method : e.1.method = .delete
  path : e.1.path = s.item x
  unknown : e.2.IsUnknown

/-- The API was to delete the record in this run, and does not know it. -/
def IsGone (t : List Event) (x : s.Record) : Prop := ∃ e ∈ t, s.Gone x e

/-- The run begins with a search that found these records of the machine. -/
def Lists (r : Resolver) (m : Machine) (t : List Event) (rs : List s.Record) : Prop :=
  ∃ u, u <+: t ∧ s.Searched r m u rs

/-- What a clean-up has confirmed when it reports that the machine's record is gone: of the listed
records the first one, if there is any, and no other. -/
structure Confirms (t : List Event) (rs : List s.Record) : Prop where
  first : ∀ x, rs.head? = some x → s.IsGone t x
  others : ∀ x ∈ rs, s.IsGone t x → rs.head?.map s.item = some (s.item x)
  alone : rs.length ≤ 1 → ∀ x ∈ rs, s.IsGone t x

/-- Every clean-up that reports that the machine's record is gone is backed by its run, whatever
the API replies. -/
def EachReport (backed : List Event → List s.Record → Prop) : Prop :=
  ∀ (σ : Type) (peer : Request → σ → Reply × σ) (now : σ) (r : Resolver) (m : Machine),
    ((s.answer r (.cleanup m)).run peer now).1 = .ok true →
      ∃ rs, s.Lists r m ((s.answer r (.cleanup m)).transcript peer now) rs ∧
        backed ((s.answer r (.cleanup m)).transcript peer now) rs

/-- Whatever is reported as gone is gone, with all that was listed. -/
def AlwaysConfirms : Prop := s.EachReport fun t rs => ∀ x ∈ rs, s.IsGone t x

variable {s} {r : Resolver} {m : Machine} {t : List Event}

/-- A deletion that ends in "gone" has the reply for it. -/
theorem unknown_of_deletion {q : Request} {ε : Type} {toCloud : ε → CloudError}
    {check : Reply → Except ε String} {next : Except ε Unit → Operation Bool} (gone : ε → Bool)
    (sendable : isHeaderValue q.token = true) (deleted : next (.ok ()) = pure false)
    (failed : ∀ e, next (.error e) = if gone e then pure true else throw (toCloud e))
    (unknown : ∀ {reply e}, check reply = .error e → gone e = true → reply.IsUnknown)
    (h : Yields (Operation.observe ((send q).bind fun reply =>
      .done ((check reply).map fun _ => ())) >>= next : Operation Bool) t (.ok true)) :
    ∃ reply : Reply, t = [⟨q, reply⟩] ∧ reply.IsUnknown := by
  rcases Operation.yields_bind h with ⟨e, _, ⟨⟩⟩ | ⟨told, d, w, rfl, observed, ends⟩
  obtain ⟨_, asked, same⟩ := Operation.yields_observe observed
  cases same
  rcases Operation.yields_send asked with ⟨unsendable, _, _⟩ | ⟨_, reply, rfl, rfl⟩
  · cases sendable.symm.trans unsendable
  cases outcome : check reply with
  | ok _ =>
    rw [outcome, Except.map, deleted] at ends
    cases (yields_done ends).2
  | error e =>
    rw [outcome, Except.map, failed] at ends
    split at ends
    · rename_i known
      obtain ⟨rfl, _⟩ := yields_done ends
      exact ⟨reply, List.append_nil _, unknown outcome known⟩
    · cases (yields_done ends).2

theorem confirms_nil : s.Confirms t [] where
  first := nofun
  others := nofun
  alone _ := nofun

/-- Behind a search, one deletion confirms what it is for. -/
theorem confirms_of_deletion {x : s.Record} {rest : List s.Record} {u : List Event} {e : Event}
    (looks : ∀ e ∈ u, e.1.method = .get) (gone : s.Gone x e) :
    s.Confirms (u ++ [e]) (x :: rest) where
  first := by
    rintro y ⟨⟩
    exact ⟨e, List.mem_concat_self, gone⟩
  others := by
    rintro y - ⟨e', member, deleted⟩
    rcases List.mem_append.mp member with early | last
    · cases (looks e' early).symm.trans deleted.method
    · rw [List.mem_singleton.mp last] at deleted
      exact congrArg some (gone.path.symm.trans deleted.path)
  alone := by
    intro few y listed
    obtain rfl : rest = [] := List.length_eq_zero_iff.mp (by simpa using few)
    rw [List.mem_singleton.mp listed]
    exact ⟨e, List.mem_concat_self, gone⟩

/-- A clean-up that ends in "gone" has found nothing, or the first record is gone. -/
theorem confirms_of_search {find : s.Config → Operation (Option s.Record)}
    {next : s.Config → Option s.Record → Operation Bool}
    (finds : ∀ c t o, Yields (find c) t o → s.Search c m.uid t o)
    (deletes : ∀ c x v, isHeaderValue (s.token c) = true →
      Yields (next c (some x)) v (.ok true) → ∃ e, v = [e] ∧ s.Gone x e)
    (h : Yields (Operation.ofExcept (s.config r m.spec) >>= fun c => find c >>= next c :
      Operation Bool) t (.ok true)) : ∃ rs, s.Lists r m t rs ∧ s.Confirms t rs := by
  rcases Operation.yields_resolved h with ⟨e, _, _, ⟨⟩⟩ | ⟨c, resolved, h⟩
  rcases Operation.yields_bind h with ⟨e, _, ⟨⟩⟩ | ⟨o, u, v, rfl, searched, h⟩
  have search := finds c u _ searched
  cases o with
  | none =>
    exact ⟨[], ⟨u, List.prefix_append u v, search.searched_none resolved⟩, confirms_nil⟩
  | some x =>
    obtain ⟨rest, told⟩ := search.searched_some resolved
    obtain ⟨e, rfl, gone⟩ := deletes c x v search.sendable h
    exact ⟨x :: rest, ⟨u, List.prefix_append u [e], told⟩,
      confirms_of_deletion (fun _ => search.looks) gone⟩

end Service

end Http

namespace Hetzner

open Http

variable {base : String}

theorem unknown_of_check {reply : Reply} {e : ApiError} (failed : check reply = .error e)
    (notFound : e.isNotFound = true) : reply.IsUnknown := by
  cases reply with
  | dropped =>
    cases failed
    cases notFound
  | response status body =>
    simp only [check] at failed
    split at failed
    · cases failed
    · have told : status = 404 := by
        split at failed <;> cases failed <;> exact beq_iff_eq.mp notFound
      exact ⟨body, by rw [told]⟩

theorem cleanup_confirms {r : Resolver} {m : Machine} {t : List Event}
    {a : Except CloudError Bool} (h : Yields (cleanup base r m) t a) (reported : a = .ok true) :
    ∃ rs, (service base).Lists r m t rs ∧ (service base).Confirms t rs := by
  subst reported
  refine Service.confirms_of_search (fun c _ _ => findServer_search) (fun c x v sendable h => ?_) h
  dsimp only at h
  split at h
  · cases (yields_done h).2
  · obtain ⟨reply, rfl, unknown⟩ := Service.unknown_of_deletion ApiError.isNotFound
      (by exact sendable) rfl (fun _ => rfl) unknown_of_check h
    exact ⟨_, rfl, rfl, rfl, unknown⟩

end Hetzner

namespace Vultr

open Http

variable {base : String}

theorem unknown_of_check {reply : Reply} {e : ApiError} (failed : check reply = .error e)
    (notFound : e.isNotFound = true) : reply.IsUnknown := by
  cases reply with
  | dropped =>
    cases failed
    cases notFound
  | response status body =>
    simp only [check] at failed
    split at failed
    · cases failed
    · have told : status = 404 := by
        split at failed <;> cases failed <;> exact beq_iff_eq.mp notFound
      exact ⟨body, by rw [told]⟩

theorem cleanup_confirms {r : Resolver} {m : Machine} {t : List Event}
    {a : Except CloudError Bool} (h : Yields (cleanup base r m) t a) (reported : a = .ok true) :
    ∃ rs, (service base).Lists r m t rs ∧ (service base).Confirms t rs := by
  subst reported
  refine Service.confirms_of_search (fun c _ _ => findInstance_search)
    (fun c x v sendable h => ?_) h
  obtain ⟨reply, rfl, unknown⟩ := Service.unknown_of_deletion ApiError.isNotFound
    (by exact sendable) rfl (fun _ => rfl) unknown_of_check h
  exact ⟨_, rfl, rfl, rfl, unknown⟩

end Vultr

namespace Http.Service

/-- On Hetzner and on Vultr, a clean-up that reports that the machine's record is gone has found
none, or has confirmed that the first one that it found is gone. That is all of them where at most
one is listed, and none but the first where there are more. -/
theorem first_is_confirmed_gone (base : String) :
    (Hetzner.service base).EachReport (Hetzner.service base).Confirms ∧
      (Vultr.service base).EachReport (Vultr.service base).Confirms := by
  constructor
  · intro _ peer now r m reported
    exact Hetzner.cleanup_confirms (yields_run peer (Hetzner.cleanup base r m) now) reported
  · intro _ peer now r m reported
    exact Vultr.cleanup_confirms (yields_run peer (Vultr.cleanup base r m) now) reported

end Http.Service

namespace Hetzner

open Http

namespace Leftover

def machine : Machine where
  metadata := { name := some "worker-1", uid := some "uid-1" }
  spec :=
    { provider := some (.obj [("cloudProvider", .str "hetzner"), ("operatingSystem", .str "ubuntu"),
        ("cloudProviderSpec", .obj [("token", .str "key"), ("serverType", .str "cx22")])]) }

def listing : Reply :=
  .response 200 (Json.obj [("servers", .arr [server 41, server 42])]).compact
where
  server (id : Nat) : Json := .obj [("id", .ofNat id), ("name", .str "worker-1")]

/-- Two servers are listed, and neither is there when it is to be deleted. -/
def peer (q : Request) (_ : Unit) : Reply × Unit :=
  (if q.method = .get then listing else .response 404 "", ())

def cleaning : Exchange (Except CloudError Bool) := cleanup "" {} machine

theorem reported : (cleaning.run peer ()).1 = .ok true := by
  have told : (cleaning.run peer ()).1.toOption = some true := by decide +kernel
  exact toOption_eq_some_iff.mp told

theorem listed : ((service "").found "uid-1" listing).map (List.map (service "").item) =
    some ["/servers/41", "/servers/42"] := by decide +kernel

theorem deleted : ((cleaning.transcript peer ()).filter fun e => e.1.method = .delete).map
    (fun e => e.1.path) = ["/servers/41"] := by decide +kernel

end Leftover

open Leftover in
/-- A clean-up reports that the server is gone while another one is listed that it has not
addressed. -/
theorem leftover_is_passed_over : ¬ (service "").AlwaysConfirms := by
  intro always
  obtain ⟨rs, ⟨u, early, c, reply, _, rfl, told⟩, gone⟩ := always Unit peer () {} machine reported
  have answered : reply = listing := by
    obtain ⟨_, answered⟩ := Program.answered cleaning ()
      (early.subset (List.mem_singleton_self _))
    exact answered
  subst answered
  have items := listed
  rw [show (service "").found "uid-1" listing = some rs from told] at items
  have second : "/servers/42" ∈ rs.map (service "").item := by
    rw [Option.some.inj items]
    decide
  obtain ⟨x, member, item⟩ := List.mem_map.mp second
  obtain ⟨e, occurs, method, path, _⟩ := gone x member
  have addressed : "/servers/42" ∈ ((cleaning.transcript peer ()).filter
      fun e => e.1.method = .delete).map (fun e => e.1.path) :=
    List.mem_map.mpr ⟨e, List.mem_filter.mpr ⟨occurs, by simpa using method⟩, path.trans item⟩
  rw [deleted] at addressed
  exact absurd addressed (by decide)

end Hetzner

end MachineFleet
