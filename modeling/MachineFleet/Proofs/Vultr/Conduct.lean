import MachineFleet.Proofs.Vultr.Account

/-!
The operations of a machine on Vultr keep to the protocol of machines that share an account, when
the tags that specifications ask for are words in which no other machine goes.
-/

namespace MachineFleet.Vultr

open World

variable {base token uid : String} {ι : Type} {words : Option ι → String → Prop} {i : ι}
  {target : Option String} {k : Knowledge Server}

/-- The instance that a search for the UID picks from a listing. -/
def picked (uid : String) (found : List Server) : Option Server :=
  (found.filter fun s => s.tags.contains uid).head?

def noticed (uid : String) (k : Knowledge Server) (reply : Http.Reply) : Knowledge Server :=
  match decodeReply serversReader reply with
  | .ok found => .ofSearch (picked uid found)
  | .error _ => k

theorem picked_none {found : List Server} (none_picked : picked uid found = none) :
    ∀ s ∈ found, uid ∉ s.tags := by
  intro s member has
  have absent := List.filter_eq_nil_iff.mp (List.head?_eq_none_iff.mp none_picked) s member
  exact absent (List.contains_iff_mem.mpr has)

theorem picked_some {found : List Server} {s : Server} (some_picked : picked uid found = some s) :
    s ∈ found ∧ uid ∈ s.tags := by
  obtain ⟨member, has⟩ := List.mem_filter.mp (List.mem_of_head? some_picked)
  exact ⟨member, List.contains_iff_mem.mp has⟩

theorem permits_lookup : Permits (cloud base) words i uid target k
    { method := .get, path := base ++ "/instances", query := [("tag", uid)], token }
    (noticed uid k) := by
  apply permits_look
  · intro before reply after effect
    obtain ⟨rfl, found, told, exact⟩ := effect_lookup effect
    have learnt : noticed uid k reply = .ofSearch (picked uid found) := by
      simp only [noticed, told]
    refine ⟨rfl, .inr ⟨picked uid found, learnt, ?_, ?_⟩⟩
    · intro choice s member carries
      have listed := List.mem_filter.mpr ⟨member, listedFor_of_mem carries⟩
      exact picked_none choice s (exact.mem_iff.mpr listed) carries
    · intro s choice
      obtain ⟨listed, carries⟩ := picked_some choice
      exact ⟨(List.mem_filter.mp (exact.mem_iff.mp listed)).1, carries⟩
  · intro reply failed
    obtain ⟨e, undecoded⟩ := decodeReply_of_failed serversReader failed
    have learnt : noticed uid k reply = k := by simp only [noticed, undecoded]
    exact learnt

theorem listByTag_follows :
    Program.Follows (Permits (cloud base) words i uid target)
      (fun k found => k.Searched (found.map List.head?))
      (Operation.ofApi ApiError.toCloud (Client.listByTag { base, token } uid)) k := by
  apply Operation.follows_ofApi
  apply Operation.follows_send permits_lookup
  · intro reply
    unfold noticed
    cases decodeReply serversReader reply with
    | error e => trivial
    | ok found => rfl
  · trivial

theorem findInstance_follows :
    Program.Follows (Permits (cloud base) words i uid target) Knowledge.Searched
      (findInstance { base, token } uid) k := by
  apply Operation.follows_bind listByTag_follows
  · intro k found searched
    exact searched
  · intro k e searched
    exact searched

theorem permits_elsewhere {method : Http.Method} {path : String} {query : List (String × String)}
    {body : Option Json} (differs : path.toList.take 2 ≠ "/instances".toList.take 2) :
    Permits (cloud base) words i uid target k { method, path := base ++ path, query, token, body }
      fun _ => k :=
  permits_aside fun _ _ _ effect => effect_aside (Text.path_outside 2 (by decide) differs) effect

theorem resolveOs_aside (c : Config) :
    Aside (cloud base) words i uid target k (resolveOs { base, token } c) := by
  unfold resolveOs
  split
  · cases Text.readNatural 64 c.osId with
    | none => exact rfl
    | some n => exact aside_pure n
  · apply Operation.follows_resolved
    · intro f _
      have path : ("/" ++ "os").toList.take 2 ≠ "/instances".toList.take 2 := by decide
      refine aside_bind (Operation.follows_ofApi (aside_send (permits_elsewhere path))) ?_
      intro images
      split
      · exact rfl
      · exact rfl
    · intro e _
      exact rfl

theorem createInstance_follows {c : Config} {machine : Machine} {userdata : String} {os : Nat}
    (named : machine.uid = uid) (spoken : ∀ t ∈ c.tags, words (some i) t) :
    Program.Follows (Permits (cloud base) words i uid none)
      (fun k made => ∀ s, made = .ok s → k = .found s)
      (Operation.ofApi ApiError.toCloud (Client.createInstance { base, token }
        (createBody c machine userdata os))) .vacant := by
  have permitted : Permits (cloud base) words i uid none .vacant
      { method := .post, path := base ++ "/instances", token,
        body := some (createBody c machine userdata os) }
      (.ofReply (decodeReply serverReader) .found) := by
    apply permits_make
    · intro before reply after effect
      obtain ⟨made, rfl, fresh, tags, told⟩ :=
        effect_create (tagsOf_createBody c machine userdata os) effect
      rw [named] at tags
      have carried : uid ∈ made.tags := by
        rw [tags]
        exact List.mem_append_right _ (List.mem_singleton.mpr rfl)
      refine ⟨made, rfl, fresh, carried, fun u carries => ?_, .inr (Knowledge.ofReply_ok told)⟩
      have member : u ∈ made.tags := carries
      rw [tags] at member
      rcases List.mem_append.mp member with asked | own
      · exact .inr (spoken u asked)
      · exact .inl (List.mem_singleton.mp own)
    · intro reply failed
      obtain ⟨e, undecoded⟩ := decodeReply_of_failed serverReader failed
      exact Knowledge.ofReply_error undecoded
  apply Operation.follows_ofApi
  apply Operation.follows_send permitted
  · intro reply s made
    cases told : decodeReply serverReader reply with
    | ok t =>
      rw [told] at made
      have same : t = s := Except.ok.inj made
      subst same
      exact Knowledge.ofReply_ok told
    | error e =>
      rw [told] at made
      cases made
  · nofun

theorem setTags_follows {s : Server} {newUid : String} :
    Program.Follows (Permits (cloud base) words i uid (some newUid))
      (fun k retagged => retagged = .ok () → k = .vacant)
      (Operation.ofApi ApiError.toCloud (Client.setTags { base, token } s.id
        (s.tags.filter (· != uid) ++ [newUid]))) (.found s) := by
  have permitted : Permits (cloud base) words i uid (some newUid) (.found s)
      { method := .patch, path := base ++ ("/instances/" ++ s.id), token,
        body := some (.obj [("tags", .ofList (s.tags.filter (· != uid) ++ [newUid]))]) }
      (.ofReply check fun _ => .vacant) := by
    apply permits_rename cloud_renames
    · intro before reply after effect
      refine ⟨⟨retag s.id (s.tags.filter (· != uid) ++ [newUid]), effect_retag effect,
        fun t => ⟨?_, ?_, ?_⟩⟩, ?_⟩
      · exact retag_id s.id _ t
      · exact retag_of_ne _
      · exact retag_tags _
      · cases told : check reply with
        | ok text => exact .inr (Knowledge.ofReply_ok told)
        | error e => exact .inl (Knowledge.ofReply_error told)
    · intro reply failed
      obtain ⟨e, unread⟩ := check_of_failed failed
      exact Knowledge.ofReply_error unread
  apply Operation.follows_ofApi
  apply Operation.follows_send permitted
  · intro reply retagged
    cases told : check reply with
    | ok text => exact Knowledge.ofReply_ok told
    | error e =>
      rw [told] at retagged
      cases retagged
  · nofun

theorem deleteInstance_follows {s : Server} :
    Program.Follows (Permits (cloud base) words i uid none) (fun _ _ => True)
      (Operation.observe (Client.deleteInstance { base, token } s.id)) (.found s) := by
  have permitted : Permits (cloud base) words i uid none (.found s)
      { method := .delete, path := base ++ ("/instances/" ++ s.id), token }
      fun _ => .unknown :=
    permits_remove (c := cloud base) fun _ _ _ effect => effect_delete effect
  exact Operation.follows_observe (Operation.follows_send permitted (fun _ => trivial) trivial)

theorem get_follows (r : Resolver) (machine : Machine) :
    Program.Follows (Permits (cloud base) words i machine.uid target)
      (fun k result => k.Fulfils (cloud base) (.get machine) result) (get base r machine) k := by
  refine Operation.follows_resolved (fun c _ => ?_) fun _ _ => trivial
  refine Operation.follows_bind findInstance_follows ?_ fun _ _ _ => trivial
  intro k found searched
  cases found with
  | none => exact trivial
  | some s => exact ⟨s, searched, rfl⟩

theorem create_follows (r : Resolver) (machine : Machine) (userdata : String)
    (spoken : ∀ t, (cloud base).asks machine.spec t → words (some i) t) :
    Program.Follows (Permits (cloud base) words i machine.uid none)
      (fun k result => k.Fulfils (cloud base) (.create machine userdata) result)
      (create base r machine userdata) k := by
  refine Operation.follows_resolved (fun c resolved => ?_) fun _ _ => trivial
  refine Operation.follows_bind findInstance_follows ?_ fun _ _ _ => trivial
  intro k found searched
  cases found with
  | some s => exact ⟨s, searched, rfl⟩
  | none =>
    have vacant : k = .vacant := searched
    subst vacant
    have asked : ∀ t ∈ c.tags, words (some i) t := by
      intro t member
      exact spoken t (asks_of_config resolved member)
    refine follows_aside (resolveOs_aside c) (fun os => ?_) fun _ => trivial
    refine Operation.follows_bind (createInstance_follows rfl asked) ?_ fun _ _ _ => trivial
    intro k s known
    exact ⟨s, known s rfl, rfl⟩

theorem cleanup_follows (r : Resolver) (machine : Machine) :
    Program.Follows (Permits (cloud base) words i machine.uid none)
      (fun k result => k.Fulfils (cloud base) (.cleanup machine) result)
      (cleanup base r machine) k := by
  refine Operation.follows_resolved (fun c _ => ?_) fun _ _ => trivial
  refine Operation.follows_bind findInstance_follows ?_ fun _ _ _ => trivial
  intro k found searched
  cases found with
  | none => exact trivial
  | some s =>
    have known : k = .found s := searched
    subst known
    refine Operation.follows_bind deleteInstance_follows ?_ fun _ _ _ => trivial
    intro k deleted _
    cases deleted with
    | ok _ => exact trivial
    | error e =>
      dsimp only
      split
      · exact trivial
      · exact trivial

theorem migrateUid_follows (r : Resolver) (machine : Machine) (newUid : String) :
    Program.Follows (Permits (cloud base) words i machine.uid (some newUid))
      (fun k result => k.Fulfils (cloud base) (.migrateUid machine newUid) result)
      (migrateUid base r machine newUid) k := by
  refine Operation.follows_resolved (fun c _ => ?_) fun _ _ => trivial
  refine Operation.follows_bind findInstance_follows ?_ fun _ _ _ => trivial
  intro k found searched
  cases found with
  | none => exact searched
  | some s =>
    have known : k = .found s := searched
    subst known
    apply Program.follows_mono setTags_follows
    intro k retagged holds
    cases retagged with
    | error e => trivial
    | ok done => exact holds rfl

theorem cloud_orderly : (cloud base).Orderly words where
  renames := cloud_renames
  follows i r a call suits asks := by
    cases call with
    | get machine =>
      rw [← suits.1]
      exact get_follows r machine
    | create machine userdata =>
      rw [← suits.1, suits.2]
      exact create_follows r machine userdata (asks machine userdata rfl)
    | cleanup machine =>
      rw [← suits.1, suits.2]
      exact cleanup_follows r machine
    | migrateUid machine newUid =>
      rw [← suits.1, suits.2]
      exact migrateUid_follows r machine newUid
    | _ => exact suits.elim

end MachineFleet.Vultr
