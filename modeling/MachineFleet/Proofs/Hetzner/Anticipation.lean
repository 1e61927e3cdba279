import Mathlib.Data.List.Forall2
import MachineFleet.Proofs.Hetzner.Requests
import MachineFleet.Proofs.Http.Catalogue

/-!
What a validation on Hetzner Cloud finds in the catalogue, and that a creation asks for it. The
two look networks up alike, and a creation trusts the validation for everything else.
-/

namespace MachineFleet.Hetzner

open Program Http Operation

/-- The entry that a reply has for a name. -/
def namedIn (collection name : String) (reply : Reply) : Option NamedResource :=
  (Client.readCatalogue collection reply).toOption.bind fun items => items.find? (·.name == name)

def lookup (c : Client) (collection name : String) : Request where
  method := .get
  path := c.base ++ ("/" ++ collection)
  query := [("name", name)]
  token := c.token

/-- The event looks an entry up by its name and finds it. -/
def Finds (c : Client) (wanted : String × NamedResource) (e : Event) : Prop :=
  e.1 = lookup c wanted.1 wanted.2.name ∧ namedIn wanted.1 wanted.2.name e.2 = some wanted.2

/-- What a server is made of. -/
structure Choice where
  location : Option NamedResource
  datacenter : Option NamedResource
  serverType : NamedResource
  image : NamedResource
  networks : List NamedResource

namespace Choice

/-- The entries, with the collections that they are in. -/
def entries (choice : Choice) : List (String × NamedResource) :=
  choice.location.toList.map ("locations", ·) ++
    (choice.datacenter.toList.map ("datacenters", ·) ++
      (("server_types", choice.serverType) :: ("images", choice.image) ::
        choice.networks.map ("networks", ·)))

/-- The body asks for the choice: for networks by their numbers, for the rest by name. -/
structure NamedBy (choice : Choice) (body : Json) : Prop where
  serverType : body.member? "server_type" = some (.str choice.serverType.name)
  image : body.member? "image" = some (.str choice.image.name)
  location : body.member? "location" = choice.location.map fun x => .str x.name
  datacenter : body.member? "datacenter" = choice.datacenter.map fun x => .str x.name
  networks : body.member? "networks" =
    if choice.networks.isEmpty then none else some (.arr (choice.networks.map fun x => .ofNat x.id))

/-- The names in the choice are those of a configuration. -/
structure Fits (choice : Choice) (c : Config) : Prop where
  location : choice.location.map (·.name) = if c.location.isEmpty then none else some c.location
  datacenter : choice.datacenter.map (·.name) =
    if c.datacenter.isEmpty then none else some c.datacenter
  serverType : choice.serverType.name = c.serverType
  image : choice.image.name = c.image
  networks : choice.networks.map (·.name) = c.networks

end Choice

/-- A validation finds what is named, entry by entry, and looks nothing else up. -/
def agreement (base : String) : (service base).Agreement Choice where
  Finds c choice t := choice.Fits c ∧ List.Forall₂ (Finds (client base c)) choice.entries t
  Names choice body := choice.NamedBy body

variable {base uid : String} {c : Config} {api : Client} {t : List Event}

theorem findByName_eq (api : Client) (collection name : String) :
    api.findByName collection name = (send (lookup api collection name)).bind fun reply =>
      .done ((Client.readCatalogue collection reply).map fun items =>
        items.find? (·.name == name)) := rfl

/-- What says for good that a name is not found. -/
def refusal (kind name : String) : CloudError :=
  .invalidConfiguration (kind ++ " '" ++ name ++ "' not found")

/-- What the look-up of a name makes of a reply. -/
def sought (collection kind name : String) (reply : Reply) : Except CloudError Nat :=
  match Client.readCatalogue collection reply with
  | .error e => .error e.toCloud
  | .ok items =>
    match items.find? (·.name == name) with
    | some x => .ok x.id
    | none => .error (refusal kind name)

theorem toOption_sought (collection kind name : String) (reply : Reply) :
    (sought collection kind name reply).toOption = (namedIn collection name reply).map (·.id) := by
  unfold sought namedIn
  cases Client.readCatalogue collection reply with
  | error e => rfl
  | ok items =>
    dsimp only [Except.toOption, Option.bind_some]
    cases items.find? (·.name == name) with
    | none => rfl
    | some x => rfl

/-- A look-up is one request. -/
theorem require_eq (api : Client) (collection kind name : String) :
    require api collection kind name = (send (lookup api collection name)).bind fun reply =>
      .done (sought collection kind name reply) := by
  have asks : require api collection kind name =
      ofApi ApiError.toCloud (api.findByName collection name) >>=
        fun found : Option NamedResource => match found with
        | some x => pure x.id
        | none => throw (refusal kind name) := rfl
  rw [asks, findByName_eq, ofApi, bind_assoc]
  refine (bind_assoc _ _ _).trans (congrArg _ (funext fun reply => ?_))
  unfold sought
  cases Client.readCatalogue collection reply with
  | error e => rfl
  | ok items =>
    dsimp only [Except.map, Except.mapError, Program.bind, ExceptT.bindCont]
    cases items.find? (·.name == name) with
    | none => rfl
    | some x => rfl

/-- A look-up makes one request, unless the secret cannot be sent, and results in the number of the
entry that its reply has. -/
theorem require_outcome {collection kind name : String} {o : Except CloudError Nat}
    (h : Yields (require api collection kind name) t o) :
    (isHeaderValue api.token = false ∧ o.toOption = none) ∨
      isHeaderValue api.token = true ∧ ∃ e, t = [e] ∧ e.1 = lookup api collection name ∧
        o.toOption = (namedIn collection name e.2).map (·.id) := by
  rw [require_eq] at h
  rcases yields_send h with ⟨unsendable, rfl, rfl⟩ | ⟨sendable, reply, rfl, rfl⟩
  · exact .inl ⟨unsendable, rfl⟩
  · exact .inr ⟨sendable, _, rfl, rfl, toOption_sought collection kind name reply⟩

theorem require_ok {collection kind name : String} {id : Nat}
    (h : Yields (require api collection kind name) t (.ok id)) :
    isHeaderValue api.token = true ∧
      ∃ x e, t = [e] ∧ Finds api (collection, x) e ∧ x.name = name ∧ x.id = id := by
  rcases require_outcome h with ⟨_, ⟨⟩⟩ | ⟨sendable, e, only, asked, outcome⟩
  obtain ⟨x, first, same⟩ := Option.map_eq_some_iff.mp outcome.symm
  have named : x.name = name := by
    obtain ⟨items, _, found⟩ := Option.bind_eq_some_iff.mp first
    simpa using List.find?_some found
  subst named
  exact ⟨sendable, x, e, only, ⟨asked, first⟩, rfl, same⟩

/-- With a catalogue that has the entry, a look-up results in it. -/
theorem require_of_offered {collection kind : String} {x : NamedResource}
    {o : Except CloudError Nat} (sendable : isHeaderValue api.token = true)
    (offered : ∀ e ∈ t, e.1 = lookup api collection x.name →
      namedIn collection x.name e.2 = some x)
    (h : Yields (require api collection kind x.name) t o) : o = .ok x.id := by
  rcases require_outcome h with ⟨unsendable, _⟩ | ⟨_, e, rfl, asked, outcome⟩
  · cases sendable.symm.trans unsendable
  rw [offered e List.mem_cons_self asked] at outcome
  cases o with
  | error e => cases outcome
  | ok id =>
    cases outcome
    rfl

theorem requireNetworks_ok {names : List String} {ids : List Nat}
    (h : Yields (requireNetworks api names) t (.ok ids)) :
    ∃ xs : List NamedResource, xs.map (·.name) = names ∧
      List.Forall₂ (Finds api) (xs.map ("networks", ·)) t := by
  induction names generalizing t ids with
  | nil =>
    obtain ⟨rfl, _⟩ := yields_done h
    exact ⟨[], rfl, .nil⟩
  | cons name rest ih =>
    rcases Operation.yields_bind h with ⟨e, _, ⟨⟩⟩ | ⟨id, u, v, rfl, required, h⟩
    rcases Operation.yields_bind h with ⟨e, _, ⟨⟩⟩ | ⟨more, v, w, rfl, others, h⟩
    obtain ⟨rfl, _⟩ := yields_done h
    obtain ⟨_, x, e, rfl, finds, named, _⟩ := require_ok required
    obtain ⟨xs, names, found⟩ := ih others
    refine ⟨x :: xs, by simp [named, names], ?_⟩
    rw [List.append_nil]
    exact .cons finds found

theorem requireNetworks_of_offered {xs : List NamedResource} {o : Except CloudError (List Nat)}
    (sendable : isHeaderValue api.token = true)
    (offered : ∀ x ∈ xs, ∀ e ∈ t, e.1 = lookup api "networks" x.name →
      namedIn "networks" x.name e.2 = some x)
    (h : Yields (requireNetworks api (xs.map (·.name))) t o) : o = .ok (xs.map (·.id)) := by
  induction xs generalizing t o with
  | nil => exact (yields_done h).2
  | cons x rest ih =>
    rcases Operation.yields_bind h with ⟨e, required, rfl⟩ | ⟨id, u, v, rfl, required, h⟩
    · cases require_of_offered sendable (offered x List.mem_cons_self) required
    have first := require_of_offered sendable (fun e member =>
      offered x List.mem_cons_self e (List.mem_append_left _ member)) required
    cases first
    have later : ∀ {w : List Event}, (∀ e ∈ w, e ∈ v) → ∀ y ∈ rest, ∀ e ∈ w,
        e.1 = lookup api "networks" y.name → namedIn "networks" y.name e.2 = some y :=
      fun within y known e member => offered y (List.mem_cons_of_mem x known) e
        (List.mem_append_right _ (within e member))
    rcases Operation.yields_bind h with ⟨e, others, rfl⟩ | ⟨more, v', w, rfl, others, h⟩
    · cases ih (later fun _ => id) others
    · cases ih (later fun e member => List.mem_append_left _ member) others
      exact (yields_done h).2

theorem ok_of_discard {α : Type} {x : Operation α} {u : Unit}
    (h : Yields (discard x : Operation Unit) t (.ok u)) : ∃ a, Yields x t (.ok a) := by
  obtain ⟨o, yields, resulted⟩ := yields_map h
  cases o with
  | error e => cases resulted
  | ok a => exact ⟨a, yields⟩

theorem checked_ok {collection kind name : String} {u : Unit}
    (h : Yields (discard (require api collection kind name) : Operation Unit) t (.ok u)) :
    isHeaderValue api.token = true ∧
      ∃ x e, t = [e] ∧ Finds api (collection, x) e ∧ x.name = name := by
  obtain ⟨id, required⟩ := ok_of_discard h
  obtain ⟨sendable, x, e, only, finds, named, _⟩ := require_ok required
  exact ⟨sendable, x, e, only, finds, named⟩

/-- A place is looked up if it is given. -/
theorem place_ok {collection kind name : String} {next : Unit → Operation Unit}
    (h : Yields (if !name.isEmpty then discard (require api collection kind name) >>= next
      else next () : Operation Unit) t (.ok ())) :
    ∃ (x : Option NamedResource) (u v : List Event), t = u ++ v ∧
      x.map (·.name) = (if name.isEmpty then none else some name) ∧
      List.Forall₂ (Finds api) (x.toList.map (collection, ·)) u ∧ Yields (next ()) v (.ok ()) := by
  cases given : name.isEmpty with
  | true =>
    rw [given] at h
    exact ⟨none, [], t, rfl, rfl, .nil, h⟩
  | false =>
    rw [given] at h
    rcases Operation.yields_bind h with ⟨e, _, ⟨⟩⟩ | ⟨_, u, v, rfl, checked, rest⟩
    obtain ⟨_, x, e, rfl, finds, named⟩ := checked_ok checked
    exact ⟨some x, [e], v, rfl, congrArg some named, .cons finds .nil, rest⟩

/-- A validation that succeeds has found what the configuration names. -/
theorem validate_ok {r : Resolver} {spec : MachineSpec}
    (h : Yields (validate base r spec) t (.ok ())) :
    ∃ (c : Config) (choice : Choice), config r spec = .ok c ∧ isHeaderValue c.token = true ∧
      choice.Fits c ∧ List.Forall₂ (Finds (client base c)) choice.entries t := by
  unfold validate at h
  rcases yields_resolved h with ⟨e, _, _, ⟨⟩⟩ | ⟨c, resolved, h⟩
  rcases yields_resolved h with ⟨e, _, _, ⟨⟩⟩ | ⟨_, _, h⟩
  obtain ⟨location, u, t, rfl, located, atLocation, h⟩ := place_ok h
  obtain ⟨datacenter, v, t, rfl, centred, atDatacenter, h⟩ := place_ok h
  rcases Operation.yields_bind h with ⟨e, _, ⟨⟩⟩ | ⟨_, w, t, rfl, typed, rest⟩
  rcases Operation.yields_bind rest with ⟨e, _, ⟨⟩⟩ | ⟨_, x, t, rfl, pictured, last⟩
  obtain ⟨sendable, serverType, e, rfl, ofType, typeNamed⟩ := checked_ok typed
  obtain ⟨_, image, f, rfl, ofImage, imageNamed⟩ := checked_ok pictured
  obtain ⟨ids, connected⟩ := ok_of_discard last
  obtain ⟨networks, networksNamed, found⟩ := requireNetworks_ok connected
  refine ⟨c, ⟨location, datacenter, serverType, image, networks⟩, resolved, sendable,
    ⟨located, centred, typeNamed, imageNamed, networksNamed⟩, ?_⟩
  exact List.rel_append atLocation
    (List.rel_append atDatacenter (.cons ofType (.cons ofImage found)))

/-- Keys that are taken have numbers. -/
theorem uploadKeys_of_accepted {name : String} {place : Nat} {keys : List String}
    {o : Except CloudError (List Nat)} (sendable : isHeaderValue c.token = true)
    (accepts : ∀ e ∈ t, e.1.method = .post → ¬ (service base).Creates e.1 →
      fault base e.1 e.2 = none)
    (h : Yields (uploadKeys (client base c) name place keys) t o) : ∃ ids, o = .ok ids := by
  induction keys generalizing place t o with
  | nil => exact ⟨[], (yields_done h).2⟩
  | cons key rest ih =>
    rcases Operation.yields_bind h with ⟨e, uploaded, rfl⟩ | ⟨made, u, v, rfl, uploaded, h⟩
    · rcases yields_call uploaded with ⟨unsendable, _, _⟩ | ⟨_, reply, rfl, failed⟩
      · cases sendable.symm.trans unsendable
      have taken := (fault_upload reply).symm.trans
        (accepts _ List.mem_cons_self rfl (not_creates_of_upload rfl))
      rw [failed?, ← failed] at taken
      cases taken
    · rcases Operation.yields_bind h with ⟨e, others, rfl⟩ | ⟨more, v, w, rfl, others, h⟩
      · obtain ⟨_, ⟨⟩⟩ := ih (fun e member => accepts e (List.mem_append_right _ member)) others
      · exact ⟨_, (yields_done h).2⟩

theorem findServer_of_unowned {o : Except CloudError (Option Server)}
    (sendable : isHeaderValue c.token = true)
    (unowned : ∀ e ∈ t, e.1 = (service base).search c uid →
      (service base).found uid e.2 = some [])
    (h : Yields (findServer (client base c) uid) t o) : o = .ok none :=
  Service.none_of_unowned (found_eq uid) sendable unowned h

/-- A look-up is not among the requests of the collection of servers. -/
theorem lookup_looksUp {collection name : String} (other : collection ≠ "servers") :
    (service base).LooksUp (lookup (client base c) collection name) :=
  looksUp_aside other

/-- The catalogue has the entry. -/
def Offered (catalogue : Request → Reply) (c : Client) (wanted : String × NamedResource) : Prop :=
  namedIn wanted.1 wanted.2.name (catalogue (lookup c wanted.1 wanted.2.name)) = some wanted.2

theorem create_posts {catalogue : Request → Reply} {r : Resolver} {m : Machine} {script : String}
    {xs : List NamedResource} {a : Except CloudError Instance} (resolved : config r m.spec = .ok c)
    (sendable : isHeaderValue c.token = true)
    (welcomes : ∀ e ∈ t, (service base).Welcomes catalogue c m.uid e)
    (named : xs.map (·.name) = c.networks)
    (offered : ∀ x ∈ xs, Offered catalogue (client base c) ("networks", x))
    (h : Yields (create base r m script) t a) :
    ∃ e ∈ t, (service base).Creates e.1 ∧
      ∃ keys, e.1.body = some (createBody c m script keys (xs.map (·.id))) := by
  rcases yields_resolved h with ⟨e, failed, _, _⟩ | ⟨c', resolved', h⟩
  · cases failed.symm.trans resolved
  cases resolved'.symm.trans resolved
  have unowned : ∀ e ∈ t, e.1 = (service base).search c m.uid →
      (service base).found m.uid e.2 = some [] := fun e member => (welcomes e member).unowned
  rcases Operation.yields_bind h with ⟨e, searched, rfl⟩ | ⟨o, u, t, rfl, searched, h⟩
  · cases findServer_of_unowned sendable unowned searched
  cases findServer_of_unowned sendable
    (fun e member => unowned e (List.mem_append_left _ member)) searched
  have has : ∀ {w : List Event}, (∀ e ∈ w, e ∈ t) → ∀ x ∈ xs, ∀ e ∈ w,
      e.1 = lookup (client base c) "networks" x.name →
      namedIn "networks" x.name e.2 = some x := by
    intro w within x known e member asked
    have told := (welcomes e (List.mem_append_right _ (within e member))).lookup
      (asked ▸ lookup_looksUp (by decide))
    rw [told, asked]
    exact offered x known
  rw [← named] at h
  rcases Operation.yields_bind h with ⟨e, required, rfl⟩ | ⟨ids, u, t, rfl, required, h⟩
  · cases requireNetworks_of_offered sendable (has fun _ => id) required
  cases requireNetworks_of_offered sendable
    (has fun e member => List.mem_append_left _ member) required
  have accepts : ∀ e ∈ t, e.1.method = .post → ¬ (service base).Creates e.1 →
      fault base e.1 e.2 = none := fun e member =>
    (welcomes e (List.mem_append_right _ (List.mem_append_right _ member))).accepts
  rcases Operation.yields_bind h with ⟨e, uploaded, rfl⟩ | ⟨keys, v, t, rfl, uploaded, h⟩
  · obtain ⟨_, ⟨⟩⟩ := uploadKeys_of_accepted sendable accepts uploaded
  rcases Operation.yields_bind h with ⟨e, observed, rfl⟩ | ⟨made, p, t, rfl, observed, h⟩
  · obtain ⟨_, _, ⟨⟩⟩ := yields_observe observed
  obtain ⟨_, asked, _⟩ := yields_observe observed
  rcases yields_send asked with ⟨unsendable, _, _⟩ | ⟨_, reply, rfl, _⟩
  · cases sendable.symm.trans unsendable
  exact ⟨_, List.mem_append_right _ (List.mem_append_right _ (List.mem_append_right _
    (List.mem_append_left _ List.mem_cons_self))), ⟨rfl, rfl⟩, keys, rfl⟩

theorem members_createBody (c : Config) (m : Machine) (script : String) (keys ids : List Nat) :
    let body := createBody c m script keys ids
    body.member? "server_type" = some (.str c.serverType) ∧
      body.member? "image" = some (.str c.image) ∧
      body.member? "location" = (textMember "location" c.location).map (·.2) ∧
      body.member? "datacenter" = (textMember "datacenter" c.datacenter).map (·.2) ∧
      body.member? "networks" = if ids.isEmpty then none else some (.arr (ids.map .ofNat)) := by
  unfold createBody textMember Json.objOf
  refine ⟨?_, ?_, ?_, ?_, ?_⟩ <;>
    cases ids.isEmpty <;> cases c.location.isEmpty <;> cases c.datacenter.isEmpty <;> rfl

/-- A creation asks for what fits its configuration. -/
theorem Choice.Fits.namedBy {choice : Choice} (fits : choice.Fits c) (m : Machine)
    (script : String) (keys : List Nat) :
    choice.NamedBy (createBody c m script keys (choice.networks.map (·.id))) := by
  obtain ⟨serverType, image, location, datacenter, networks⟩ :=
    members_createBody c m script keys (choice.networks.map (·.id))
  have place : ∀ {x : Option NamedResource} {field name : String},
      x.map (·.name) = (if name.isEmpty then none else some name) →
      (textMember field name).map (·.2) = x.map fun y => Json.str y.name := by
    intro x field name given
    have mapped := congrArg (Option.map Json.str) given
    rw [Option.map_map] at mapped
    refine Eq.trans ?_ mapped.symm
    unfold textMember
    split <;> rfl
  refine ⟨serverType.trans (by rw [fits.serverType]), image.trans (by rw [fits.image]),
    location.trans (place fits.location), datacenter.trans (place fits.datacenter),
    networks.trans ?_⟩
  rw [List.isEmpty_map, List.map_map]
  rfl

theorem Choice.entries_other {choice : Choice} : ∀ w ∈ choice.entries, w.1 ≠ "servers" := by
  intro w member
  simp only [entries, List.mem_append, List.mem_cons, List.mem_map] at member
  rcases member with ⟨_, _, rfl⟩ | ⟨_, _, rfl⟩ | rfl | rfl | ⟨_, _, rfl⟩ <;> simp

/-- What a validation has found is in the catalogue. -/
theorem offered_of_finds {catalogue : Request → Reply} {wanted : List (String × NamedResource)}
    (others : ∀ w ∈ wanted, w.1 ≠ "servers")
    (answered : ∀ e ∈ t, (service base).LooksUp e.1 → e.2 = catalogue e.1)
    (finds : List.Forall₂ (Finds (client base c)) wanted t) :
    ∀ w ∈ wanted, Offered catalogue (client base c) w := by
  induction finds with
  | nil => nofun
  | @cons w e wanted t first _ ih =>
    obtain ⟨asked, found⟩ := first
    refine List.forall_mem_cons.mpr ⟨?_, ih
      (fun w member => others w (List.mem_cons_of_mem _ member))
      fun e member => answered e (List.mem_cons_of_mem _ member)⟩
    rw [answered e List.mem_cons_self
      (asked ▸ lookup_looksUp (others w List.mem_cons_self)), asked] at found
    exact found

theorem anticipates (base : String) : (service base).Anticipates (agreement base) := by
  intro σ τ peer now peer' now' catalogue r m script offers offers' vacant valid
  have validated := yields_run peer ((service base).answer r (.validate m.spec)) now
  rw [valid] at validated
  obtain ⟨c, choice, resolved, sendable, fits, finds⟩ := validate_ok validated
  have offered := offered_of_finds Choice.entries_other
    (fun e member => offers.answered member) finds
  have networks : ∀ x ∈ choice.networks, Offered catalogue (client base c) ("networks", x) :=
    fun x member => offered _ (by simp [Choice.entries, member])
  obtain ⟨e, member, creates, keys, asked⟩ := create_posts resolved sendable
    (fun e member => vacant.welcomes offers' resolved member) fits.networks networks
    (yields_run peer' ((service base).answer r (.create m script)) now')
  exact ⟨c, choice, resolved, ⟨fits, finds⟩, e, member, creates, _, asked,
    fits.namedBy m script keys⟩

end MachineFleet.Hetzner
