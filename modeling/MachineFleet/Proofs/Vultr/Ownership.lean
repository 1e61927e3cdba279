import MachineFleet.Proofs.Vultr.Search

/-!
Machines that share an account on Vultr. A machine keeps to the instance that was made for it as
long as no tag that a specification asks for is the UID of another machine. The first instance
that is made with such a tag is taken for the instance of the other machine.
-/

namespace MachineFleet.Vultr

open World

variable {base : String} {ι : Type}

variable {words : Option ι → String → Prop} {w : World (cloud base) ι} {i : ι}

def Bare (w : World (cloud base) ι) (i : ι) : Prop :=
  ∀ s ∈ w.records, w.maker s.id ≠ some i

/-- What machines can rely on in a world. -/
structure Isolated [DecidableEq ι] (words : Option ι → String → Prop)
    (w : World (cloud base) ι) : Prop where
  /-- An instance that an operation results in was made for its machine. -/
  results : ∀ i result, (w.agents i).activity.ResultsIn result →
    ∃ s ∈ w.records, w.maker s.id = some i ∧ result.id = s.id
  /-- A step of one machine leaves every instance that was not made for it as it is. -/
  confined : ∀ i w', Step words (some i) w w' → ∀ s ∈ w.records, w.maker s.id ≠ some i →
    s ∈ w'.records ∧ w'.maker s.id = w.maker s.id
  /-- An operation of a machine with an instance takes that one. -/
  takes : ∀ i r m reply, Searches w i r m reply → (w.agents i).target = none →
    ∀ s ∈ w.records, w.maker s.id = some i → Takes base r m reply s
  /-- An operation of a machine without an instance takes none, whatever the others have. -/
  misses : ∀ i r m reply, Searches w i r m reply → Bare w i → Misses base r m reply
  /-- The instance that a creation for such a machine results in has been made by it since. -/
  made : ∀ i m userdata result last, Bare w i → Run words w last →
    (last.agents i).activity = .running (.create m userdata) (.done (.ok result)) →
    ∃ s ∈ last.records, result.id = s.id ∧ last.maker s.id = some i ∧
      MadeBetween words w last i s.id

theorem Sound.isolated [DecidableEq ι] (sound : w.Sound words) : Isolated words w where
  results i result ended := by
    obtain ⟨s, rfl, t, member, same, made⟩ := sound.resultsOwn i result ended
    exact ⟨t, member, made, same.symm⟩
  confined := sound.touchesOwn
  takes i r m reply searches idle s member made := by
    obtain ⟨u, goes, carries⟩ := (sound.consistent.owned i).marked s member made
    have own : u = (w.agents i).uid := by
      rcases goes with same | aimed
      · exact same
      · cases idle.symm.trans aimed
    subst own
    rcases searches.takes_or_misses with ⟨t, present, has, takes⟩ | ⟨absent, -⟩
    · have taken := sound.consistent.maker_of_carries present (.inl rfl) has
      rw [(sound.consistent.owned i).single s member t present made taken]
      exact takes
    · exact absurd carries (absent s member)
  misses i r m reply searches bare := by
    rcases searches.takes_or_misses with ⟨t, present, has, -⟩ | ⟨-, misses⟩
    · have taken := sound.consistent.maker_of_carries present (.inl rfl) has
      exact absurd taken (bare t present)
    · exact misses
  made i m userdata result last bare run ended := by
    have lastSound := run_sound cloud_orderly run sound
    have results : (last.agents i).activity.ResultsIn result := by
      rw [ended]
      exact .create m userdata result
    obtain ⟨s, rfl, t, member, same, made⟩ := lastSound.resultsOwn i result results
    exact ⟨t, member, same.symm, made, made_between run bare member made⟩

def creation (base : String) (c : Config) (m : Machine) (userdata : String) (os : Nat) :
    Option Http.Request :=
  ((client base c).createInstance (createBody c m userdata os)).request?

theorem eq_of_creation {d : Config} {n : Machine} {userdata : String} {os : Nat} {q : Http.Request}
    (asks : creation base d n userdata os = some q) :
    q = { method := .post, path := base ++ "/instances", token := d.apiKey,
          body := some (createBody d n userdata os) } := by
  unfold creation Client.createInstance at asks
  by_cases sent : Http.isHeaderValue (client base d).token = true
  · rw [call_ask sent] at asks
    exact (Option.some.inj asks).symm
  · unfold Client.call Http.send at asks
    rw [if_neg sent] at asks
    cases asks

/-- An instance that one machine makes with the UID of another among its tags is the one that the
other takes for its own. -/
theorem takes_of_created (sound : w.Sound words) (bare : Bare w i) {d : Config} {n : Machine}
    {userdata : String} {os : Nat} (shared : (w.agents i).uid ∈ d.tags) {q : Http.Request}
    (asks : creation base d n userdata os = some q) {told : Http.Reply} {after : List Server}
    (effect : Effect base q w.records told after) :
    ∃ s ∈ after, (w.served j after).maker s.id = some j ∧
      ∀ r m reply, Searches (w.served j after) i r m reply → Takes base r m reply s := by
  rw [eq_of_creation asks] at effect
  obtain ⟨s, rfl, new, tags, -⟩ := effect_create (tagsOf_createBody d n userdata os) effect
  refine ⟨s, List.mem_cons_self, served_maker_of_new j List.mem_cons_self new, ?_⟩
  intro r m reply searches
  rcases searches.takes_or_misses with ⟨t, member, has, takes⟩ | ⟨absent, -⟩
  · rcases List.mem_cons.mp member with rfl | before
    · exact takes
    · have mine := sound.consistent.maker_of_carries before (.inl rfl) has
      exact absurd mine (bare t before)
  · refine absurd ?_ (absent s List.mem_cons_self)
    rw [tags]
    exact List.mem_append_left _ shared

/-- As long as no machine asks for the UID of another as a tag, machines are isolated. As soon as
one makes an instance with such a tag, the other has it, or may have it if it has one already. -/
theorem isolated_while_tags_are_apart [DecidableEq ι] {start : World (cloud base) ι}
    (settled : start.Settled words) (run : Run words start w) :
    Isolated words w ∧
    (∀ i j (d : Config) (n : Machine) userdata os q told after, Bare w i →
      (w.agents i).uid ∈ d.tags → creation base d n userdata os = some q →
      Effect base q w.records told after →
      ∃ s ∈ after, (w.served j after).maker s.id = some j ∧
        ∀ r m reply, Searches (w.served j after) i r m reply → Takes base r m reply s) ∧
    ∀ (v : World (cloud base) ι) i r m reply s rest, Searches v i r m reply →
      decodeReply serversReader reply = .ok (s :: rest) → (v.agents i).uid ∈ s.tags →
      Takes base r m reply s := by
  have sound := run_sound cloud_orderly run settled.sound
  refine ⟨Sound.isolated sound, ?_, ?_⟩
  · intro i j d n userdata os q told after bare shared asks effect
    exact takes_of_created sound bare shared asks effect
  · intro v i r m reply s rest searches told shared
    exact searches.takes_first told shared

namespace Pair

def start (first second : String) : World (cloud "") Bool where
  records := []
  maker _ := none
  agents i := { uid := if i then first else second }

def machine (uid : String) (tags : List String) : Machine where
  metadata := { uid := some uid }
  spec := { provider := some (.obj [("cloudProvider", .str "vultr"),
    ("operatingSystem", .str "ubuntu"),
    ("cloudProviderSpec", .obj [("osId", .str "1743"), ("tags", .ofList tags)])]) }

def none_listed : Http.Reply := .response 200 "\x7b\"instances\":[]\x7d"

def one_listed (first second : String) : Http.Reply :=
  .response 200 ("\x7b\"instances\":[\x7b\"id\":\"one\",\"tags\":[\"" ++ first ++ "\",\"" ++
    second ++ "\"]\x7d]\x7d")

def one_made (first second : String) : Http.Reply :=
  .response 200 ("\x7b\"instance\":\x7b\"id\":\"one\",\"tags\":[\"" ++ first ++ "\",\"" ++
    second ++ "\"]\x7d\x7d")

def other_made (tag : String) : Http.Reply :=
  .response 200 ("\x7b\"instance\":\x7b\"id\":\"two\",\"tags\":[\"" ++ tag ++ "\"]\x7d\x7d")

theorem search_served {uid token : String} {before found : List Server} {reply : Http.Reply}
    (told : decodeReply serversReader reply = .ok found)
    (exact : found = before.filter (listedFor uid)) :
    (cloud "").Serves { method := .get, path := "" ++ "/instances", query := [("tag", uid)], token }
      before reply before :=
  .answered (.listed rfl rfl rfl told (.of_eq exact))

theorem creation_served {α : Type} (x : Http.Exchange α) (before : List Server)
    (reply : Http.Reply) (s : Server)
    (asks : (x.request?.any fun q => decide ((q.method = .post ∧ q.path = "" ++ "/instances") ∧
      q.body.bind tagsOf = some s.tags)) = true)
    (fresh : s.id ∉ before.map Server.id) (told : decodeReply serverReader reply = .ok s) :
    ∃ q, x.request? = some q ∧ (cloud "").Serves q before reply (s :: before) := by
  obtain ⟨q, asked, holds⟩ := (Option.any_eq_true _ _).mp asks
  obtain ⟨⟨post, path⟩, tags⟩ := of_decide_eq_true holds
  exact ⟨q, asked, .answered (.created post path tags fresh told)⟩

def web : Option Bool → String → Prop := fun o t => o = some true ∧ t = "web"

theorem asks_web {tag : String} (asked : (cloud "").asks (machine "uid-10" ["web"]).spec tag) :
    tag = "web" := by
  obtain ⟨envelope, raw, read, member⟩ := asked
  have tags : ((payload (machine "uid-10" ["web"]).spec).toOption.map fun p => p.2.tags) =
      some ["web"] := by decide +kernel
  rw [read] at tags
  have same : raw.tags = ["web"] := Option.some.inj tags
  rw [same] at member
  exact List.mem_singleton.mp member

theorem asks_none {tag : String} : ¬ (cloud "").asks (machine "uid-1" []).spec tag := by
  rintro ⟨envelope, raw, read, member⟩
  have tags : ((payload (machine "uid-1" []).spec).toOption.map fun p => p.2.tags) =
      some [] := by decide +kernel
  rw [read] at tags
  have same : raw.tags = [] := Option.some.inj tags
  rw [same] at member
  cases member

def one (tags : List String) : Server := { id := "one", tags }

def two (tags : List String) : Server := { id := "two", tags }

def creationOf (uid : String) (tags : List String) :
    Http.Exchange (CloudCall.create (machine uid tags) "").Answer :=
  create "" {} (machine uid tags) ""

theorem first_made (words : Option Bool → String → Prop) (first tag second : String)
    (spoken : ∀ t, (cloud "").asks (machine first [tag]).spec t → words (some true) t)
    (told : decodeReply serverReader (one_made tag first) = .ok (one [tag, first]))
    (searches : (creationOf first [tag]).request? = some
      { method := .get, path := "" ++ "/instances", query := [("tag", first)], token := "" })
    (posts : (((creationOf first [tag]).resume none_listed).request?.any fun q =>
      decide ((q.method = .post ∧ q.path = "" ++ "/instances") ∧
        q.body.bind tagsOf = some [tag, first])) = true) :
    ∃ w : World (cloud "") Bool, Run words (start first second) w ∧
      w.records = [one [tag, first]] ∧ w.maker "one" = some true ∧
      w.agents false = { uid := second } := by
  have none : decodeReply serversReader none_listed = .ok [] := by decide +kernel
  obtain ⟨q, asked, served⟩ :=
    creation_served _ [] (one_made tag first) (one [tag, first]) posts nofun told
  have begun := Run.start (.refl : Run words (start first second) _) true
    (.create (machine first [tag]) "") {} rfl ⟨rfl, rfl, spoken⟩
  have searched := begun.request (i := true) rfl searches (search_served none rfl)
  have made := searched.request (i := true) rfl asked served
  exact ⟨_, made, rfl, rfl, rfl⟩

theorem second_searched {words : Option Bool → String → Prop} {v w : World (cloud "") Bool}
    {second : String} {tags : List String} (reply : Http.Reply) (run : Run words v w)
    (records : w.records = [one tags]) (agent : w.agents false = { uid := second })
    (spoken : ∀ t, (cloud "").asks (machine second []).spec t → words (some false) t)
    (searches : (creationOf second []).request? = some
      { method := .get, path := "" ++ "/instances", query := [("tag", second)], token := "" })
    (told : decodeReply serversReader reply = .ok [one tags])
    (listed : [one tags] = [one tags].filter (listedFor second)) :
    ∃ w' : World (cloud "") Bool, Run words v w' ∧ w'.records = [one tags] ∧
      w'.maker = w.maker ∧ (w'.agents false).activity =
        .running (.create (machine second []) "") ((creationOf second []).resume reply) := by
  have idle : (w.agents false).activity = .idle := by rw [agent]
  have uid : second = (w.agents false).uid := by rw [agent]
  have settled : (w.agents false).target = none := by rw [agent]
  have begun := run.start false (.create (machine second []) "") {} idle ⟨uid, settled, spoken⟩
  have served : (cloud "").Serves
      { method := .get, path := "" ++ "/instances", query := [("tag", second)], token := "" }
      w.records reply w.records := by
    rw [records]
    exact search_served told listed
  have searched := begun.request (i := false) (x := creationOf second []) rfl searches served
  have maker : (w.served false w.records).maker = w.maker := by rw [served_self]
  refine ⟨_, searched, records, maker, ?_⟩
  rw [set_agents_self]

end Pair

open Pair

/-- A machine whose UID begins the tag of another has an instance made for it. -/
theorem prefix_is_apart : ∃ w : World (cloud "") Bool, Run web (start "uid-10" "uid-1") w ∧
    w.records = [two ["uid-1"], one ["web", "uid-10"]] ∧
    (w.agents false).activity.ResultsIn (two ["uid-1"]).snapshot ∧ Isolated web w := by
  have unspoken : ∀ i o, web o (if i then "uid-10" else "uid-1") → o = some i := by
    rintro i o ⟨-, same⟩
    cases i with
    | false => exact absurd same (by decide)
    | true => exact absurd same (by decide)
  have settled : (start "uid-10" "uid-1").Settled web := settled_of_empty (by decide) unspoken
  obtain ⟨w, run, records, -, agent⟩ := first_made web "uid-10" "web" "uid-1"
    (fun t asked => ⟨rfl, asks_web asked⟩) (by decide +kernel) rfl (by decide +kernel)
  obtain ⟨w', searched, records', -, activity⟩ := second_searched
    (one_listed "web" "uid-10") run records agent
    (fun t asked => absurd asked asks_none) rfl (by decide +kernel) (by decide +kernel)
  obtain ⟨q, asked, served⟩ := creation_served
    ((creationOf "uid-1" []).resume (one_listed "web" "uid-10")) [one ["web", "uid-10"]]
    (other_made "uid-1") (two ["uid-1"]) (by decide +kernel) (by decide) (by decide +kernel)
  rw [← records'] at served
  have both := searched.request activity asked served
  have ends : ((creationOf "uid-1" []).resume (one_listed "web" "uid-10")).resume
      (other_made "uid-1") = .done (.ok (two ["uid-1"]).snapshot) :=
    Http.Exchange.eq_done_ok (α := Instance) (by decide +kernel)
  refine ⟨_, both, congrArg _ records', ?_, (isolated_while_tags_are_apart settled both).1⟩
  rw [set_agents_self, ends]
  exact .create _ _ _

/-- A machine whose UID is a tag of another is given the instance of the other. -/
theorem tag_hands_over : ∃ w : World (cloud "") Bool,
    Run (fun _ _ => True) (start "uid-a" "uid-b") w ∧ w.records = [one ["uid-b", "uid-a"]] ∧
    w.maker "one" = some true ∧
    (w.agents false).activity.ResultsIn (one ["uid-b", "uid-a"]).snapshot := by
  obtain ⟨w, run, records, made, agent⟩ := first_made (fun _ _ => True) "uid-a" "uid-b"
    "uid-b" (fun _ _ => trivial) (by decide +kernel) rfl (by decide +kernel)
  obtain ⟨w', searched, records', maker, activity⟩ := second_searched
    (one_listed "uid-b" "uid-a") run records agent (fun _ _ => trivial) rfl
    (by decide +kernel) (by decide +kernel)
  have ends : (creationOf "uid-b" []).resume (one_listed "uid-b" "uid-a") =
      .done (.ok (one ["uid-b", "uid-a"]).snapshot) :=
    Http.Exchange.eq_done_ok (α := Instance) (by decide +kernel)
  refine ⟨w', searched, records', ?_, ?_⟩
  · rw [maker]
    exact made
  · rw [activity, ends]
    exact .create _ _ _

end MachineFleet.Vultr
