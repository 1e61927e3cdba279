import MachineFleet.Proofs.Hetzner.Anticipation
import MachineFleet.Proofs.Http.Overload

/-!
What the reply to a look-up on Hetzner Cloud tells of a name: a catalogue with it, one without it,
or no catalogue at all. The failures to find names are told apart from one another and from all
others by their texts.
-/

namespace MachineFleet.Hetzner

open Http

/-- The collections in which names are looked up, and what their entries are called. -/
def kinds : List (String × String) :=
  [("locations", "location"), ("datacenters", "datacenter"), ("server_types", "server type"),
    ("images", "image"), ("networks", "network")]

/-- The reply is a success, and these are the members of its body. -/
def Tells (reply : Reply) (members : Dict Json) : Prop :=
  ∃ body, reply.body? = some body ∧ Json.decodeText (.dict .any) body = .ok members

/-- The reply has the entries under the key of the collection. -/
def Carries (collection : String) (reply : Reply) (items : List NamedResource) : Prop :=
  ∃ members listed, Tells reply members ∧ members.get? collection = some listed ∧
    Json.decode (.list NamedResource.reader) listed = .ok items

/-- The reply has nothing under the key of the collection. -/
def Lacks (collection : String) (reply : Reply) : Prop :=
  ∃ members, Tells reply members ∧ members.get? collection = none

/-- Nothing that the reply has for the collection has the name. -/
def Misses (vacant : String → Reply → Prop) (collection name : String) (reply : Reply) : Prop :=
  vacant collection reply ∨ ∃ items, Carries collection reply items ∧ ∀ x ∈ items, x.name ≠ name

variable {collection kind name : String} {reply : Reply}

theorem decodeReply_of_checked {α : Type} (read : Json.Reader α) {body : String}
    (checked : check reply = .ok body) :
    decodeReply read reply = (Json.decodeText read body).mapError fun _ => .transport := by
  rw [decodeReply, checked]
  rfl

theorem readCatalogue_of_tells (collection : String) {members : Dict Json}
    (tells : Tells reply members) :
    Client.readCatalogue collection reply =
      match members.get? collection with
      | none => .ok []
      | some listed => (Json.decode (.list NamedResource.reader) listed).mapError .decode := by
  obtain ⟨body, success, told⟩ := tells
  have checked : check reply = .ok body :=
    toOption_eq_some_iff.mp ((body?_eq reply).symm.trans success)
  rw [Client.readCatalogue, decodeReply_of_checked _ checked, told]
  rfl

theorem readCatalogue_of_carries {items : List NamedResource}
    (carries : Carries collection reply items) :
    Client.readCatalogue collection reply = .ok items := by
  obtain ⟨members, listed, tells, entry, decoded⟩ := carries
  have read := readCatalogue_of_tells collection tells
  simp only [entry, decoded] at read
  exact read

theorem readCatalogue_of_lacks (lacks : Lacks collection reply) :
    Client.readCatalogue collection reply = .ok [] := by
  obtain ⟨members, tells, missing⟩ := lacks
  rw [readCatalogue_of_tells collection tells, missing]

/-- A success without a catalogue is a failure that may be tried again, unless it has nothing for
the collection at all. -/
theorem readCatalogue_of_uncarried (success : reply.body? ≠ none)
    (listed : ¬ Lacks collection reply)
    (uncarried : ∀ items, ¬ Carries collection reply items) :
    ∃ e, Client.readCatalogue collection reply = .error e ∧ Deferred e.toCloud := by
  obtain ⟨body, bodied⟩ := Option.ne_none_iff_exists'.mp success
  have checked : check reply = .ok body :=
    toOption_eq_some_iff.mp ((body?_eq reply).symm.trans bodied)
  cases told : Json.decodeText (.dict .any) body with
  | error e =>
    refine ⟨.transport, ?_, deferred_of_transient rfl⟩
    rw [Client.readCatalogue, decodeReply_of_checked _ checked, told]
    rfl
  | ok members =>
    have tells : Tells reply members := ⟨body, bodied, told⟩
    have read := readCatalogue_of_tells collection tells
    cases entry : members.get? collection with
    | none => exact absurd ⟨members, tells, entry⟩ listed
    | some value =>
      simp only [entry] at read
      cases decoded : Json.decode (.list NamedResource.reader) value with
      | ok items => exact absurd ⟨members, value, tells, entry, decoded⟩ (uncarried items)
      | error e =>
        rw [decoded] at read
        exact ⟨.decode e, read, deferred_of_transient rfl⟩

theorem body?_of_readCatalogue {items : List NamedResource}
    (read : Client.readCatalogue collection reply = .ok items) : reply.body? ≠ none := by
  obtain ⟨members, answered, _⟩ := ok_of_bind read
  obtain ⟨body, checked, _⟩ := ok_of_bind answered
  rw [body?_eq, checked]
  nofun

/-- A catalogue that is read is carried, or there is nothing for the collection. -/
theorem readCatalogue_ok {items : List NamedResource}
    (read : Client.readCatalogue collection reply = .ok items) :
    Carries collection reply items ∨ Lacks collection reply ∧ items = [] := by
  by_cases lacks : Lacks collection reply
  · have none := readCatalogue_of_lacks lacks
    exact .inr ⟨lacks, Except.ok.inj (read.symm.trans none)⟩
  by_cases carried : ∃ items, Carries collection reply items
  · obtain ⟨items', carries⟩ := carried
    obtain rfl : items = items' :=
      Except.ok.inj (read.symm.trans (readCatalogue_of_carries carries))
    exact .inl carries
  · obtain ⟨e, failed, _⟩ := readCatalogue_of_uncarried (body?_of_readCatalogue read) lacks
      (not_exists.mp carried)
    cases read.symm.trans failed

theorem sought_of_misses (misses : Misses Lacks collection name reply) :
    sought collection kind name reply = .error (refusal kind name) := by
  have read : ∃ items, Client.readCatalogue collection reply = .ok items ∧
      items.find? (·.name == name) = none := by
    rcases misses with lacks | ⟨items, carries, without⟩
    · exact ⟨[], readCatalogue_of_lacks lacks, rfl⟩
    · exact ⟨items, readCatalogue_of_carries carries, by simpa using without⟩
  obtain ⟨items, read, without⟩ := read
  simp only [sought, read, without]

/-- How a refusal begins. -/
def opening (kind : String) : String := kind ++ " '"

theorem opening_begins (kind name : String) :
    (opening kind).toList <+: (kind ++ " '" ++ name ++ "' not found").toList :=
  ⟨(name ++ "' not found").toList, by simp [opening]⟩

theorem refusal_text {kind name text : String}
    (same : CloudError.invalidConfiguration text = refusal kind name) :
    text = kind ++ " '" ++ name ++ "' not found" := by
  injection same with same
  injection same

/-- A refusal says what is not found. -/
theorem refusal_inj {collection' kind' name' : String} (known : (collection, kind) ∈ kinds)
    (known' : (collection', kind') ∈ kinds) (same : refusal kind name = refusal kind' name') :
    collection = collection' ∧ kind = kind' ∧ name = name' := by
  have text := refusal_text same
  have openings : (opening kind).toList <+: (opening kind').toList ∨
      (opening kind').toList <+: (opening kind).toList :=
    List.prefix_or_prefix_of_prefix (opening_begins kind name)
      (text ▸ opening_begins kind' name')
  have apart : ∀ entry ∈ kinds, ∀ entry' ∈ kinds,
      ((opening entry.2).toList <+: (opening entry'.2).toList ∨
        (opening entry'.2).toList <+: (opening entry.2).toList) → entry = entry' := by
    decide
  cases apart _ known _ known' openings
  refine ⟨rfl, rfl, ?_⟩
  rw [String.append_left_inj, String.append_right_inj] at text
  exact text

/-- The failure is not that a name is not found. -/
def IsOther (e : CloudError) : Prop := ∀ entry ∈ kinds, ∀ name, e ≠ refusal entry.2 name

/-- The text begins as no refusal does. -/
def Apart (start : String) : Prop :=
  ∀ entry ∈ kinds, ¬ start.toList <+: (opening entry.2).toList ∧
    ¬ (opening entry.2).toList <+: start.toList

instance (start : String) : Decidable (Apart start) :=
  inferInstanceAs (Decidable (∀ entry ∈ kinds, _))

theorem Apart.isOther {start : String} (apart : Apart start) (m : String) :
    IsOther (.invalidConfiguration (start ++ m)) := by
  intro entry known name same
  have starts : start.toList <+: (start ++ m).toList := ⟨m.toList, String.toList_append.symm⟩
  rw [refusal_text same] at starts
  rcases List.prefix_or_prefix_of_prefix starts (opening_begins entry.2 name) with within | within
  · exact (apart entry known).1 within
  · exact (apart entry known).2 within

theorem Apart.isOther_self {text : String} (apart : Apart text) :
    IsOther (.invalidConfiguration text) := by
  have other := apart.isOther ""
  rwa [String.append_empty] at other

theorem isOther_of_config (e : ConfigError) : IsOther (.config e) := by
  intro entry known name same
  cases same

theorem toCloud_isOther (e : ApiError) : IsOther e.toCloud := by
  cases e with
  | api status code m =>
    simp only [ApiError.toCloud]
    split
    · exact Apart.isOther (by decide) m
    · split <;> exact fun entry known name same => by cases same
  | transport => exact fun entry known name same => by cases same
  | decode e => exact fun entry known name same => by cases same

theorem config_isOther (r : Resolver) (spec : MachineSpec) : FailsAs IsOther (config r spec) :=
  config_failsAs isOther_of_config (Apart.isOther (by decide)) (Apart.isOther (by decide)) r spec

theorem checkSettings_isOther (c : Config) : FailsAs IsOther (checkSettings c) :=
  checkSettings_failsAs (Apart.isOther_self (by decide)) (Apart.isOther_self (by decide))
    (Apart.isOther_self (by decide)) c

/-- A look-up that refuses has looked up what it refuses, and misses it. -/
theorem misses_of_sought {collection' kind' name' : String} (known : (collection, kind) ∈ kinds)
    (known' : (collection', kind') ∈ kinds)
    (refused : sought collection' kind' name' reply = .error (refusal kind name)) :
    collection' = collection ∧ name' = name ∧ Misses Lacks collection name reply := by
  unfold sought at refused
  split at refused
  · rename_i e _
    exact absurd (Except.error.inj refused) (toCloud_isOther e _ known name)
  · rename_i items read
    split at refused
    · cases refused
    · rename_i without
      obtain ⟨rfl, _, rfl⟩ := refusal_inj known' known (Except.error.inj refused)
      have missing : ∀ x ∈ items, x.name ≠ name' := by simpa using without
      refine ⟨rfl, rfl, ?_⟩
      rcases readCatalogue_ok read with carries | ⟨lacks, _⟩
      · exact .inr ⟨items, carries, missing⟩
      · exact .inl lacks

end MachineFleet.Hetzner
