import MachineFleet.Proofs.Hetzner.Catalogue

/-!
When an operation on Hetzner Cloud ends for good because something is not found. It has looked a
name up, and the reply to that is a success whose body carries a catalogue without the name, or
no catalogue at all. Any other success without a catalogue ends it with a failure that may be
tried again.
-/

namespace MachineFleet.Hetzner

open Program Http Operation

/-- The run has looked the name up in the collection, and this is the reply. -/
def Asked (base : String) (r : Resolver) (spec : MachineSpec) (t : List Event)
    (collection kind name : String) (reply : Reply) : Prop :=
  (collection, kind) ∈ kinds ∧ ∃ c, config r spec = .ok c ∧
    ⟨lookup (client base c) collection name, reply⟩ ∈ t

/-- The run tells names that are not found from replies that cannot be read: it is what its last
reply misses that a run refuses. Replies that are `vacant` pass for an empty catalogue. -/
structure Discerns {α : Type} (vacant : String → Reply → Prop) (base : String) (r : Resolver)
    (spec : MachineSpec) (t : List Event) (a : Except CloudError α) : Prop where
  refused : ∀ collection kind name, (collection, kind) ∈ kinds → a = .error (refusal kind name) →
    ∃ c u reply, config r spec = .ok c ∧
      t = u ++ [⟨lookup (client base c) collection name, reply⟩] ∧
      Misses vacant collection name reply
  missed : ∀ collection kind name reply, Asked base r spec t collection kind name reply →
    Misses vacant collection name reply → a = .error (refusal kind name)
  unread : ∀ collection kind name reply, Asked base r spec t collection kind name reply →
    reply.body? ≠ none → ¬ vacant collection reply → (∀ items, ¬ Carries collection reply items) →
    ∃ cause, a = .error cause ∧ Deferred cause

/-- Whatever the API replies, validations and creations discern the two. -/
def AlwaysDiscerns (vacant : String → Reply → Prop) (base : String) : Prop :=
  ∀ (σ : Type) (peer : Request → σ → Reply × σ) (now : σ) (r : Resolver),
    (∀ spec, let validation : Exchange (Except CloudError Unit) := validate base r spec
      Discerns vacant base r spec (validation.transcript peer now) (validation.run peer now).1) ∧
    ∀ (m : Machine) (script : String),
      let creation : Exchange (Except CloudError Instance) := create base r m script
      Discerns vacant base r m.spec (creation.transcript peer now) (creation.run peer now).1

variable {base : String} {c : Config} {api : Client} {t : List Event}
  {collection kind name : String} {reply : Reply}

/-- The event looks a name up, and its reply is this failure. -/
def Objects (api : Client) (e : Event) (cause : CloudError) : Prop :=
  ∃ collection kind name, (collection, kind) ∈ kinds ∧ e.1 = lookup api collection name ∧
    sought collection kind name e.2 = .error cause

/-- A run that fails does so over something else, or over its last event, a look-up. Where a
look-up is a failure, the run ends in it. -/
structure Heeds {α : Type} (api : Client) (t : List Event) (o : Except CloudError α) : Prop where
  founded : ∀ cause, o = .error cause → IsOther cause ∨ ∃ u e, t = u ++ [e] ∧ Objects api e cause
  heeded : ∀ e ∈ t, ∀ cause, Objects api e cause → o = .error cause

def IsHeedful {α : Type} (api : Client) (x : Operation α) : Prop :=
  ∀ t o, Yields x t o → Heeds api t o

/-- The request looks no name up. -/
def IsAside (api : Client) (q : Request) : Prop :=
  ∀ collection kind name, (collection, kind) ∈ kinds → q ≠ lookup api collection name

theorem isAside_of_method {q : Request} (other : q.method ≠ .get) : IsAside api q := by
  rintro collection kind name _ rfl
  exact other rfl

theorem isAside_search (uid : String) :
    IsAside (client base c) ((service base).search c uid) := by
  intro collection kind name known same
  have paths : base ++ "/servers" = base ++ ("/" ++ collection) := congrArg Request.path same
  have area : "/" ++ "servers" = "/" ++ collection := (String.append_right_inj base).mp paths
  obtain rfl : "servers" = collection := (String.append_right_inj "/").mp area
  simp [kinds] at known

/-- A look-up tells what it looks up. -/
theorem lookup_inj {collection' name' : String}
    (same : lookup api collection name = lookup api collection' name') :
    collection = collection' ∧ name = name' := by
  have paths : api.base ++ ("/" ++ collection) = api.base ++ ("/" ++ collection') :=
    congrArg Request.path same
  have queries : [("name", name)] = [("name", name')] := congrArg Request.query same
  refine ⟨?_, by simpa using queries⟩
  exact (String.append_right_inj "/").mp ((String.append_right_inj api.base).mp paths)

theorem sought_of_objects {cause : CloudError} (known : (collection, kind) ∈ kinds)
    (objects : Objects api ⟨lookup api collection name, reply⟩ cause) :
    sought collection kind name reply = .error cause := by
  obtain ⟨collection', kind', name', known', same, failed⟩ := objects
  obtain ⟨rfl, rfl⟩ := lookup_inj same
  have single : ∀ entry ∈ kinds, ∀ entry' ∈ kinds, entry.1 = entry'.1 → entry = entry' := by
    decide
  cases single _ known _ known' rfl
  exact failed

section Heedful

variable {ε α β : Type}

theorem heeds_nil {o : Except CloudError α} (other : FailsAs IsOther o) : Heeds api [] o where
  founded cause failed := .inl (other cause failed)
  heeded := nofun

theorem heeds_aside {q : Request} {o : Except CloudError α} (aside : IsAside api q)
    (other : FailsAs IsOther o) : Heeds api [⟨q, reply⟩] o where
  founded cause failed := .inl (other cause failed)
  heeded := by
    intro e member cause objects
    rw [List.mem_singleton.mp member] at objects
    obtain ⟨collection, kind, name, known, same, _⟩ := objects
    exact absurd same (aside collection kind name known)

theorem Heeds.recast {cause : CloudError}
    (heeds : Heeds api t (.error cause : Except CloudError α)) :
    Heeds api t (.error cause : Except CloudError β) where
  founded cause' same := by
    cases same
    exact heeds.founded cause rfl
  heeded e member cause' objects := by
    cases heeds.heeded e member cause' objects
    rfl

theorem Heeds.append {u v : List Event} {a : α} {o : Except CloudError β}
    (first : Heeds api u (.ok a)) (rest : Heeds api v o) : Heeds api (u ++ v) o where
  founded cause failed := by
    rcases rest.founded cause failed with other | ⟨w, e, rfl, objects⟩
    · exact .inl other
    · exact .inr ⟨u ++ w, e, (List.append_assoc u w [e]).symm, objects⟩
  heeded e member cause objects := by
    rcases List.mem_append.mp member with early | later
    · cases first.heeded e early cause objects
    · exact rest.heeded e later cause objects

theorem isHeedful_ofExcept {x : Except CloudError α} (other : FailsAs IsOther x) :
    IsHeedful api (Operation.ofExcept x) := by
  intro t o h
  obtain ⟨rfl, rfl⟩ := yields_done h
  exact heeds_nil other

theorem isHeedful_pure (a : α) : IsHeedful api (pure a : Operation α) :=
  isHeedful_ofExcept (.ok a)

theorem isHeedful_bind {x : Operation α} {f : α → Operation β} (first : IsHeedful api x)
    (rest : ∀ a, IsHeedful api (f a)) : IsHeedful api (x >>= f : Operation β) := by
  intro t o h
  rcases Operation.yields_bind h with ⟨e, failed, rfl⟩ | ⟨a, u, v, rfl, resulted, h⟩
  · exact (first t _ failed).recast
  · exact (first u _ resulted).append (rest a v o h)

theorem isHeedful_discard {x : Operation α} (heedful : IsHeedful api x) :
    IsHeedful api (discard x : Operation Unit) := by
  have mapped : IsHeedful api ((fun _ => ()) <$> x : Operation Unit) := by
    rw [map_eq_pure_bind]
    exact isHeedful_bind heedful fun _ => isHeedful_pure ()
  exact mapped

/-- A request that looks no name up. -/
theorem isHeedful_aside {q : Request} {read : Reply → Except CloudError α}
    (aside : IsAside api q) (other : ∀ reply, FailsAs IsOther (read reply)) :
    IsHeedful api ((send q).bind fun reply => .done (read reply) : Operation α) := by
  intro t o h
  rcases yields_send h with ⟨_, rfl, rfl⟩ | ⟨_, reply, rfl, rfl⟩
  · exact heeds_nil (other .dropped)
  · exact heeds_aside aside (other reply)

theorem isHeedful_ofApi {q : Request} {read : Reply → Except ApiError α} (aside : IsAside api q) :
    IsHeedful api (ofApi ApiError.toCloud ((send q).bind fun reply => .done (read reply))) := by
  unfold ofApi
  rw [bind_assoc]
  exact isHeedful_aside aside fun reply => .mapError toCloud_isOther (read reply)

theorem isHeedful_observe {q : Request} {read : Reply → Except ε α} (aside : IsAside api q) :
    IsHeedful api (observe ((send q).bind fun reply => .done (read reply))) := by
  unfold observe
  rw [bind_assoc]
  exact isHeedful_aside aside fun reply => .ok (read reply)

end Heedful

theorem require_isHeedful (known : (collection, kind) ∈ kinds) :
    IsHeedful api (require api collection kind name) := by
  intro t o h
  rw [require_eq] at h
  rcases yields_send h with ⟨_, rfl, rfl⟩ | ⟨_, reply, rfl, rfl⟩
  · exact heeds_nil (.error (toCloud_isOther .transport))
  · constructor
    · exact fun cause failed => .inr ⟨[], _, rfl, collection, kind, name, known, rfl, failed⟩
    · intro e member cause objects
      rw [List.mem_singleton.mp member] at objects
      exact sought_of_objects known objects

theorem requireNetworks_isHeedful (names : List String) :
    IsHeedful api (requireNetworks api names) := by
  induction names with
  | nil => exact isHeedful_pure []
  | cons name rest ih =>
    refine isHeedful_bind (require_isHeedful (by decide)) fun id => ?_
    exact isHeedful_bind ih fun ids => isHeedful_pure (id :: ids)

theorem uploadKeys_isHeedful (uid : String) (place : Nat) (keys : List String) :
    IsHeedful api (uploadKeys api uid place keys) := by
  induction keys generalizing place with
  | nil => exact isHeedful_pure []
  | cons key rest ih =>
    refine isHeedful_bind (isHeedful_ofApi (isAside_of_method nofun)) fun made => ?_
    exact isHeedful_bind (ih (place + 1)) fun ids => isHeedful_pure (made.id :: ids)

theorem deleteKeys_isHeedful (ids : List Nat) : IsHeedful api (deleteKeys api ids) := by
  induction ids with
  | nil => exact isHeedful_pure ()
  | cons id rest ih =>
    have deletes : IsHeedful api (observe (api.deleteKey id)) :=
      isHeedful_observe (isAside_of_method nofun)
    exact isHeedful_bind (isHeedful_discard deletes) fun _ => ih

/-- An operation that heeds its look-ups once its configuration is there discerns them. -/
theorem discerns_of_heedful {α : Type} {r : Resolver} {spec : MachineSpec}
    {next : Config → Operation α} {a : Except CloudError α}
    (heedful : ∀ c, IsHeedful (client base c) (next c))
    (h : Yields (Operation.ofExcept (config r spec) >>= next : Operation α) t a) :
    Discerns Lacks base r spec t a := by
  rcases yields_resolved h with ⟨e, failed, rfl, rfl⟩ | ⟨c, resolved, h⟩
  · constructor
    case refused =>
      intro collection kind name known same
      cases same
      exact absurd rfl (config_isOther r spec _ failed _ known name)
    case missed =>
      rintro collection kind name reply ⟨_, _, _, ⟨⟩⟩
    case unread =>
      rintro collection kind name reply ⟨_, _, _, ⟨⟩⟩
  · have heeds := heedful c t a h
    have answer : ∀ {collection kind name reply cause},
        Asked base r spec t collection kind name reply →
        sought collection kind name reply = .error cause → a = .error cause := by
      rintro collection kind name reply cause ⟨known, c', resolved', member⟩ failed
      cases resolved'.symm.trans resolved
      exact heeds.heeded _ member cause ⟨collection, kind, name, known, rfl, failed⟩
    constructor
    case refused =>
      intro collection kind name known ends
      rcases heeds.founded _ ends with other | ⟨u, ⟨q, reply⟩, last, objects⟩
      · exact absurd rfl (other _ known name)
      · obtain ⟨collection', kind', name', known', asked, failed⟩ := objects
        obtain ⟨rfl, rfl, misses⟩ := misses_of_sought known known' failed
        cases asked
        exact ⟨c, u, reply, resolved, last, misses⟩
    case missed =>
      intro collection kind name reply asked misses
      exact answer asked (sought_of_misses misses)
    case unread =>
      intro collection kind name reply asked success listed uncarried
      obtain ⟨e, failed, deferred⟩ := readCatalogue_of_uncarried success listed uncarried
      refine ⟨e.toCloud, answer asked ?_, deferred⟩
      rw [sought, failed]

theorem validate_discerns {r : Resolver} {spec : MachineSpec} {a : Except CloudError Unit}
    (h : Yields (validate base r spec) t a) : Discerns Lacks base r spec t a := by
  refine discerns_of_heedful (fun c => ?_) h
  refine isHeedful_bind (isHeedful_ofExcept (checkSettings_isOther c)) fun _ => ?_
  extract_lets api afterDatacenter afterLocation
  have types : ∀ u, IsHeedful api (afterDatacenter u) := by
    intro u
    refine isHeedful_bind (isHeedful_discard (require_isHeedful (by decide))) fun _ => ?_
    refine isHeedful_bind (isHeedful_discard (require_isHeedful (by decide))) fun _ => ?_
    exact isHeedful_discard (requireNetworks_isHeedful c.networks)
  have places : ∀ u, IsHeedful api (afterLocation u) := by
    intro u
    dsimp only [afterLocation]
    split
    · exact isHeedful_bind (isHeedful_discard (require_isHeedful (by decide))) types
    · exact types ()
  split
  · exact isHeedful_bind (isHeedful_discard (require_isHeedful (by decide))) places
  · exact places ()

theorem create_discerns {r : Resolver} {m : Machine} {script : String}
    {a : Except CloudError Instance} (h : Yields (create base r m script) t a) :
    Discerns Lacks base r m.spec t a := by
  refine discerns_of_heedful (fun c => ?_) h
  have searches : IsHeedful (client base c) (findServer (client base c) m.uid) :=
    isHeedful_bind (isHeedful_ofApi (isAside_search m.uid)) fun rs => isHeedful_pure rs.head?
  refine isHeedful_bind searches fun o => ?_
  cases o with
  | some x => exact isHeedful_pure _
  | none =>
    refine isHeedful_bind (requireNetworks_isHeedful c.networks) fun networks => ?_
    refine isHeedful_bind (uploadKeys_isHeedful _ _ _) fun keys => ?_
    refine isHeedful_bind (isHeedful_observe (isAside_of_method nofun)) fun made => ?_
    refine isHeedful_bind (deleteKeys_isHeedful keys) fun _ => ?_
    cases made with
    | ok x => exact isHeedful_pure _
    | error e => exact isHeedful_ofExcept (.error (toCloud_isOther e))

/-- Whatever the API replies, a validation or a creation refuses a name exactly where the reply to
its last look-up, for that name, has a catalogue without it or nothing for the collection; any
other success without a catalogue ends it with a failure that may be tried again. -/
theorem refusals_are_founded (base : String) : AlwaysDiscerns Lacks base := by
  intro σ peer now r
  constructor
  · exact fun spec => validate_discerns (yields_run peer (validate base r spec) now)
  · exact fun m script => create_discerns (yields_run peer (create base r m script) now)

namespace Vacancy

def spec : MachineSpec where
  provider := some (.obj [("cloudProvider", .str "hetzner"), ("operatingSystem", .str "ubuntu"),
    ("cloudProviderSpec", .obj [("token", .str "key"), ("serverType", .str "cx22"),
      ("location", .str "fsn1")])])

def blank : Reply := .response 200 (Json.obj []).compact

/-- Every request is answered alike. -/
def peer (_ : Request) (_ : Unit) : Reply × Unit := (blank, ())

def validation : Exchange (Except CloudError Unit) := validate "" {} spec

/-- What a result says for good. -/
def final? : Except CloudError Unit → Option TerminalError
  | .error (.terminal told) => some told
  | _ => none

theorem refused : (validation.run peer ()).1 = .error (refusal "location" "fsn1") := by
  have told : final? (validation.run peer ()).1 =
      some ⟨.invalidConfiguration, "location 'fsn1' not found"⟩ := by decide +kernel
  unfold final? at told
  split at told
  · rename_i ends
    rw [ends, Option.some.inj told]
    rfl
  · cases told

theorem not_carries (items : List NamedResource) : ¬ Carries "locations" blank items := by
  rintro ⟨members, listed, ⟨body, success, told⟩, entry, _⟩
  obtain rfl : (Json.obj []).compact = body := Option.some.inj success
  have nothing : ((Json.decodeText (.dict .any) (Json.obj []).compact).toOption.bind
      (Dict.get? · "locations")).isNone = true := by decide +kernel
  rw [told] at nothing
  simp [Except.toOption, entry] at nothing

end Vacancy

open Vacancy in
/-- A success without anything in it is taken for a catalogue that is known to be empty. -/
theorem blank_reply_is_refused : ¬ AlwaysDiscerns (fun _ _ => False) "" := by
  intro always
  have discerns := (always Unit peer () {}).1 spec
  obtain ⟨c, u, reply, _, last, misses⟩ :=
    discerns.refused "locations" "location" "fsn1" (by decide) refused
  have answered : reply = blank := by
    obtain ⟨_, answered⟩ := Program.answered validation ()
      (show _ ∈ validation.transcript peer () from last ▸ List.mem_concat_self)
    exact answered
  rcases misses with vacant | ⟨items, carries, _⟩
  · exact vacant
  · rw [answered] at carries
    exact not_carries items carries

end MachineFleet.Hetzner
