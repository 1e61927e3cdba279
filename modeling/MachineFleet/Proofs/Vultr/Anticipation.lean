import MachineFleet.Proofs.Http.Catalogue
import MachineFleet.Proofs.Vultr.Requests

/-!
What a validation on Vultr finds in the catalogue, and that a creation asks for it. The two come
to the operating system alike, and a creation trusts the validation for the region and the plan.
-/

namespace MachineFleet.Vultr

open Program Http Operation

def listing (c : Client) (name : String) : Request where
  method := .get
  path := c.base ++ ("/" ++ name)
  query := [("per_page", "500")]
  token := c.token

/-- The event lists a catalogue. -/
structure Lists {α : Type} (c : Client) (name : String) (r : Json.Reader α) (items : List α)
    (e : Event) : Prop where
  asked : e.1 = listing c name
  told : decodeReply (catalogueReader name r) e.2 = .ok items

/-- The first image of a family for the common architecture. -/
def firstImage (family : String) (images : List Image) : Option Image :=
  images.find? fun i => i.family == family && i.arch == "x64"

/-- The number of an operating system is read where it is given, without a request, and is that
of an image where it is not. -/
inductive FindsOs (api : Client) (c : Config) (os : Nat) : List Event → Prop where
  | parsed (given : c.osId.isEmpty = false) (reads : Text.readNatural 64 c.osId = some os) :
      FindsOs api c os []
  | listed {f : String} {images : List Image} {image : Image} {e : Event}
      (omitted : c.osId.isEmpty = true) (known : family c.operatingSystem = .ok f)
      (lists : Lists api "os" Image.reader images e) (first : firstImage f images = some image)
      (numbered : image.id = os) : FindsOs api c os [e]

/-- What an instance is made of. -/
structure Choice where
  region : String
  plan : Plan
  os : Nat

namespace Choice

/-- The body asks for the choice. -/
structure NamedBy (choice : Choice) (body : Json) : Prop where
  region : body.member? "region" = some (.str choice.region)
  plan : body.member? "plan" = some (.str choice.plan.id)
  os : body.member? "os_id" = some (.ofNat choice.os)

/-- The names in the choice are those of a configuration, and the plan is one for the region. -/
structure Fits (choice : Choice) (c : Config) : Prop where
  region : choice.region = c.region
  plan : choice.plan.id = c.plan
  located : choice.plan.locations = [] ∨ choice.region ∈ choice.plan.locations

end Choice

/-- A validation finds what is configured in the catalogues, one after another. -/
inductive Finds (api : Client) (c : Config) (choice : Choice) : List Event → Prop where
  | intro {regions : List String} {plans : List Plan} {e f : Event} {t : List Event}
      (listsRegions : Lists api "regions" regionReader regions e)
      (listsPlans : Lists api "plans" Plan.reader plans f)
      (region : choice.region ∈ regions) (plan : plans.find? (·.id == c.plan) = some choice.plan)
      (os : FindsOs api c choice.os t) : Finds api c choice (e :: f :: t)

def agreement (base : String) : (service base).Agreement Choice where
  Finds c choice t := choice.Fits c ∧ Finds (client base c) c choice t
  Names choice body := choice.NamedBy body

variable {base uid : String} {c : Config} {api : Client} {t : List Event}

/-- Where the secret can be sent, a listing makes one request and results in what it is told. -/
theorem list_outcome {α : Type} {name : String} {r : Json.Reader α}
    {o : Except CloudError (List α)} (h : Yields (ofApi ApiError.toCloud (api.list name r)) t o) :
    (isHeaderValue api.token = false ∧ o.toOption = none) ∨
      isHeaderValue api.token = true ∧ ∃ reply, t = [⟨listing api name, reply⟩] ∧
        o = (decodeReply (catalogueReader name r) reply).mapError ApiError.toCloud := by
  rcases yields_call h with ⟨unsendable, _, rfl⟩ | ⟨sendable, reply, only, told⟩
  · exact .inl ⟨unsendable, rfl⟩
  · exact .inr ⟨sendable, reply, only, told⟩

theorem list_ok {α : Type} {name : String} {r : Json.Reader α} {items : List α}
    (h : Yields (ofApi ApiError.toCloud (api.list name r)) t (.ok items)) :
    isHeaderValue api.token = true ∧ ∃ e, t = [e] ∧ Lists api name r items e := by
  rcases list_outcome h with ⟨_, ⟨⟩⟩ | ⟨sendable, reply, only, told⟩
  exact ⟨sendable, _, only, rfl, ok_of_mapError told⟩

theorem list_of_offered {α : Type} {name : String} {r : Json.Reader α} {items : List α}
    {o : Except CloudError (List α)} (sendable : isHeaderValue api.token = true)
    (offered : ∀ e ∈ t, e.1 = listing api name →
      decodeReply (catalogueReader name r) e.2 = .ok items)
    (h : Yields (ofApi ApiError.toCloud (api.list name r)) t o) : o = .ok items := by
  rcases list_outcome h with ⟨unsendable, _⟩ | ⟨_, reply, rfl, told⟩
  · cases sendable.symm.trans unsendable
  · rw [told, offered _ List.mem_cons_self rfl]
    rfl

theorem listing_looksUp {name : String} (other : name ≠ "instances") :
    (service base).LooksUp (listing (client base c) name) :=
  looksUp_aside other

theorem resolveOs_ok {os : Nat} (h : Yields (resolveOs api c) t (.ok os)) :
    FindsOs api c os t := by
  unfold resolveOs at h
  cases given : c.osId.isEmpty with
  | false =>
    rw [given] at h
    cases reads : Text.readNatural 64 c.osId with
    | none =>
      rw [reads] at h
      obtain ⟨_, ⟨⟩⟩ := yields_done h
    | some n =>
      rw [reads] at h
      obtain ⟨rfl, ⟨⟩⟩ := yields_done h
      exact .parsed given reads
  | true =>
    rw [given] at h
    rcases yields_resolved h with ⟨_, _, _, ⟨⟩⟩ | ⟨f, known, h⟩
    rcases Operation.yields_bind h with ⟨_, _, ⟨⟩⟩ | ⟨images, u, v, rfl, listed, rest⟩
    obtain ⟨_, e, rfl, lists⟩ := list_ok listed
    cases first : images.find? fun i => i.family == f && i.arch == "x64" with
    | none =>
      rw [first] at rest
      obtain ⟨_, ⟨⟩⟩ := yields_done rest
    | some image =>
      rw [first] at rest
      obtain ⟨rfl, ⟨⟩⟩ := yields_done rest
      exact .listed given known lists first rfl

/-- What was found once is found again, as long as the catalogue stays as it is. -/
theorem resolveOs_of_found {os : Nat} {u : List Event} {o : Except CloudError Nat}
    (sendable : isHeaderValue api.token = true) (found : FindsOs api c os u)
    (same : ∀ e ∈ t, ∀ f ∈ u, e.1 = listing api "os" → f.1 = listing api "os" → e.2 = f.2)
    (h : Yields (resolveOs api c) t o) : o = .ok os := by
  unfold resolveOs at h
  cases found with
  | parsed given reads =>
    rw [given, reads] at h
    exact (yields_done h).2
  | @listed f images image e omitted known lists first numbered =>
    rw [omitted, known] at h
    have told : ∀ {w : List Event}, (∀ e ∈ w, e ∈ t) → ∀ e ∈ w, e.1 = listing api "os" →
        decodeReply (catalogueReader "os" Image.reader) e.2 = .ok images := by
      intro w within e' member asked
      rw [same e' (within e' member) e List.mem_cons_self asked lists.asked]
      exact lists.told
    rcases yields_resolved h with ⟨_, ⟨⟩, _, _⟩ | ⟨_, ⟨⟩, h⟩
    rcases Operation.yields_bind h with ⟨e, listed, rfl⟩ | ⟨others, u, v, rfl, listed, rest⟩
    · cases list_of_offered sendable (told fun _ => id) listed
    cases list_of_offered sendable (told fun e member => List.mem_append_left _ member) listed
    unfold firstImage at first
    rw [first] at rest
    rw [← numbered]
    exact (yields_done rest).2

theorem checkPlan_ok {plans : List Plan} (h : checkPlan c plans = .ok ()) :
    ∃ plan, plans.find? (·.id == c.plan) = some plan ∧ plan.id = c.plan ∧
      (plan.locations = [] ∨ c.region ∈ plan.locations) := by
  unfold checkPlan at h
  cases found : plans.find? (·.id == c.plan) with
  | none =>
    rw [found] at h
    cases h
  | some plan =>
    rw [found] at h
    refine ⟨plan, rfl, by simpa using List.find?_some found, ?_⟩
    by_cases missing : (!plan.locations.isEmpty && !plan.locations.contains c.region) = true
    · dsimp only at h
      rw [if_pos missing] at h
      cases h
    · simpa [Classical.or_iff_not_imp_left] using missing

/-- A validation that succeeds has found what the configuration names. -/
theorem validate_ok {r : Resolver} {spec : MachineSpec}
    (h : Yields (validate base r spec) t (.ok ())) :
    ∃ (c : Config) (choice : Choice), config r spec = .ok c ∧ isHeaderValue c.apiKey = true ∧
      choice.Fits c ∧ Finds (client base c) c choice t := by
  unfold validate at h
  rcases yields_resolved h with ⟨e, _, _, ⟨⟩⟩ | ⟨c, resolved, h⟩
  rcases yields_resolved h with ⟨e, _, _, ⟨⟩⟩ | ⟨_, _, h⟩
  rcases Operation.yields_bind h with ⟨e, _, ⟨⟩⟩ | ⟨regions, u, t, rfl, listedRegions, rest⟩
  obtain ⟨sendable, e, rfl, listsRegions⟩ := list_ok listedRegions
  cases known : regions.contains c.region with
  | false =>
    rw [known] at rest
    rcases Operation.yields_bind rest with ⟨e, _, ⟨⟩⟩ | ⟨_, v, t, rfl, thrown, _⟩
    obtain ⟨_, ⟨⟩⟩ := yields_done thrown
  | true =>
    rw [known] at rest
    rcases Operation.yields_bind rest with ⟨e, _, ⟨⟩⟩ | ⟨plans, v, t, rfl, listedPlans, onPlans⟩
    obtain ⟨_, f, rfl, listsPlans⟩ := list_ok listedPlans
    rcases yields_resolved onPlans with ⟨e, _, _, ⟨⟩⟩ | ⟨_, checked, last⟩
    obtain ⟨plan, first, named, located⟩ := checkPlan_ok checked
    obtain ⟨o, found, resulted⟩ := yields_map last
    cases o with
    | error e => cases resulted
    | ok os =>
      exact ⟨c, ⟨c.region, plan, os⟩, resolved, sendable, ⟨rfl, named, located⟩,
        .intro listsRegions listsPlans (by simpa using known) first (resolveOs_ok found)⟩

theorem Finds.os {choice : Choice} (finds : Finds api c choice t) :
    ∃ u, (∀ e ∈ u, e ∈ t) ∧ FindsOs api c choice.os u := by
  cases finds with
  | intro _ _ _ _ os =>
    exact ⟨_, fun e member => List.mem_cons_of_mem _ (List.mem_cons_of_mem _ member), os⟩

theorem create_posts {r : Resolver} {m : Machine} {script : String} {os : Nat} {u : List Event}
    {catalogue : Request → Reply} {a : Except CloudError Instance}
    (resolved : config r m.spec = .ok c) (sendable : isHeaderValue c.apiKey = true)
    (welcomes : ∀ e ∈ t, (service base).Welcomes catalogue c m.uid e)
    (answered : ∀ e ∈ u, (service base).LooksUp e.1 → e.2 = catalogue e.1)
    (found : FindsOs (client base c) c os u) (h : Yields (create base r m script) t a) :
    ∃ e ∈ t, (service base).Creates e.1 ∧ e.1.body = some (createBody c m script os) := by
  rcases yields_resolved h with ⟨e, failed, _, _⟩ | ⟨c', resolved', h⟩
  · cases failed.symm.trans resolved
  cases resolved'.symm.trans resolved
  have unowned : ∀ e ∈ t, e.1 = (service base).search c m.uid →
      (service base).found m.uid e.2 = some [] := fun e member => (welcomes e member).unowned
  rcases Operation.yields_bind h with ⟨e, searched, rfl⟩ | ⟨o, v, t, rfl, searched, h⟩
  · cases Service.none_of_unowned (found_eq m.uid) sendable unowned searched
  cases Service.none_of_unowned (found_eq m.uid) sendable
    (fun e member => unowned e (List.mem_append_left _ member)) searched
  have same : ∀ {w : List Event}, (∀ e ∈ w, e ∈ t) → ∀ e ∈ w, ∀ f ∈ u,
      e.1 = listing (client base c) "os" → f.1 = listing (client base c) "os" → e.2 = f.2 := by
    intro w within e here f there asked asked'
    have looks : (service base).LooksUp (listing (client base c) "os") :=
      listing_looksUp (by decide)
    rw [(welcomes e (List.mem_append_right _ (within e here))).lookup (asked ▸ looks),
      answered f there (asked' ▸ looks), asked, asked']
  rcases Operation.yields_bind h with ⟨e, chosen, rfl⟩ | ⟨n, v, t, rfl, chosen, h⟩
  · cases resolveOs_of_found sendable found (same fun _ => id) chosen
  cases resolveOs_of_found sendable found (same fun e member => List.mem_append_left _ member)
    chosen
  obtain ⟨_, asked, _⟩ := yields_map h
  rcases yields_call asked with ⟨unsendable, _, _⟩ | ⟨_, reply, rfl, _⟩
  · cases sendable.symm.trans unsendable
  exact ⟨_, List.mem_append_right _ (List.mem_append_right _ List.mem_cons_self), ⟨rfl, rfl⟩, rfl⟩

/-- A creation asks for what fits its configuration. -/
theorem Choice.Fits.namedBy {choice : Choice} (fits : choice.Fits c) (m : Machine)
    (script : String) : choice.NamedBy (createBody c m script choice.os) := by
  unfold createBody Json.objOf
  refine ⟨?_, ?_, ?_⟩
  · rw [fits.region]
    cases c.vpcIds.isEmpty <;> rfl
  · rw [fits.plan]
    cases c.vpcIds.isEmpty <;> rfl
  · cases c.vpcIds.isEmpty <;> rfl

theorem anticipates (base : String) : (service base).Anticipates (agreement base) := by
  intro σ τ peer now peer' now' catalogue r m script offers offers' vacant valid
  have validated := yields_run peer ((service base).answer r (.validate m.spec)) now
  rw [valid] at validated
  obtain ⟨c, choice, resolved, sendable, fits, finds⟩ := validate_ok validated
  obtain ⟨u, within, found⟩ := finds.os
  obtain ⟨e, member, creates, asked⟩ := create_posts resolved sendable
    (fun e member => vacant.welcomes offers' resolved member)
    (fun e member => offers.answered (within e member)) found
    (yields_run peer' ((service base).answer r (.create m script)) now')
  exact ⟨c, choice, resolved, ⟨fits, finds⟩, e, member, creates, _, asked, fits.namedBy m script⟩

end MachineFleet.Vultr
