import MachineFleet.Proofs.Hetzner.Account

/-!
The operations of a machine on Hetzner keep to the protocol of machines that share an account:
they look for the label with the UID before anything else, make a server only when there is none,
and relabel or delete no server but the one that was found.
-/

namespace MachineFleet.Hetzner

open World

variable {base token uid : String} {ι : Type} {words : Option ι → String → Prop} {i : ι}
  {target : Option String} {k : Knowledge Server}

def noticed (k : Knowledge Server) (reply : Http.Reply) : Knowledge Server :=
  match decodeReply serversReader reply with
  | .ok found => .ofSearch found.head?
  | .error _ => k

theorem permits_lookup : Permits (cloud base) words i uid target k
    { method := .get, path := base ++ "/servers",
      query := [("label_selector", uidLabel ++ "=" ++ uid)], token } (noticed k) := by
  apply permits_look
  · intro before reply after effect
    obtain ⟨rfl, found, told, exact⟩ := effect_lookup effect
    have learnt : noticed k reply = .ofSearch found.head? := by simp only [noticed, told]
    refine ⟨rfl, .inr ⟨found.head?, learnt, ?_, ?_⟩⟩
    · intro empty s member carries
      rw [List.head?_eq_none_iff.mp empty] at exact
      have absent := List.filter_eq_nil_iff.mp exact.nil_eq.symm s member
      exact absent (beq_iff_eq.mpr carries)
    · intro s first
      have listed := List.mem_filter.mp (exact.subset (List.mem_of_head? first))
      exact ⟨listed.1, beq_iff_eq.mp listed.2⟩
  · intro reply failed
    obtain ⟨e, undecoded⟩ := decodeReply_of_failed serversReader failed
    have learnt : noticed k reply = k := by simp only [noticed, undecoded]
    exact learnt

theorem listServers_follows :
    Program.Follows (Permits (cloud base) words i uid target)
      (fun k found => k.Searched (found.map List.head?))
      (Operation.ofApi ApiError.toCloud
        (Client.listServers { base, token } (uidLabel ++ "=" ++ uid))) k := by
  apply Operation.follows_ofApi
  apply Operation.follows_send permits_lookup
  · intro reply
    unfold noticed
    cases decodeReply serversReader reply with
    | error e => trivial
    | ok found => rfl
  · trivial

theorem findServer_follows :
    Program.Follows (Permits (cloud base) words i uid target) Knowledge.Searched
      (findServer { base, token } uid) k := by
  refine Operation.follows_bind listServers_follows ?_ ?_
  · intro k found searched
    exact searched
  · intro k e searched
    exact searched

theorem permits_elsewhere {method : Http.Method} {path : String} {query : List (String × String)}
    {body : Option Json} (differs : path.toList.take 3 ≠ "/servers".toList.take 3) :
    Permits (cloud base) words i uid target k { method, path := base ++ path, query, token, body }
      fun _ => k :=
  permits_aside fun _ _ _ effect => effect_aside (Text.path_outside 3 (by decide) differs) effect

theorem require_aside {collection kind name : String}
    (differs : ("/" ++ collection).toList.take 3 ≠ "/servers".toList.take 3) :
    Aside (cloud base) words i uid target k (require { base, token } collection kind name) := by
  refine aside_bind (Operation.follows_ofApi (aside_send (permits_elsewhere differs))) ?_
  intro entry
  cases entry with
  | none => exact rfl
  | some r => exact rfl

theorem requireNetworks_aside (names : List String) :
    Aside (cloud base) words i uid target k (requireNetworks { base, token } names) := by
  induction names with
  | nil => exact aside_pure []
  | cons name rest ih =>
    refine aside_bind (require_aside (by decide)) fun id => ?_
    exact aside_bind ih fun ids => aside_pure (id :: ids)

theorem uploadKeys_aside (name : String) (place : Nat) (keys : List String) :
    Aside (cloud base) words i uid target k (uploadKeys { base, token } name place keys) := by
  induction keys generalizing place with
  | nil => exact aside_pure []
  | cons key rest ih =>
    have path : "/ssh_keys".toList.take 3 ≠ "/servers".toList.take 3 := by decide
    refine aside_bind (Operation.follows_ofApi (aside_send (permits_elsewhere path))) fun made => ?_
    exact aside_bind (ih (place + 1)) fun ids => aside_pure (made.id :: ids)

theorem deleteKeys_aside (ids : List Nat) :
    Aside (cloud base) words i uid target k (deleteKeys { base, token } ids) := by
  induction ids with
  | nil => exact aside_pure ()
  | cons id rest ih =>
    have path : ("/ssh_keys/" ++ toString id).toList.take 3 ≠ "/servers".toList.take 3 := by
      rw [String.toList_append, List.take_append_of_le_length (by decide)]
      decide
    have deleted : Aside (cloud base) words i uid target k
        (Operation.observe (Client.deleteKey { base, token } id)) :=
      Operation.follows_observe (aside_send (permits_elsewhere path))
    exact aside_bind (aside_discard deleted) fun _ => ih

theorem createServer_follows {c : Config} {machine : Machine} {userdata : String}
    {keys networks : List Nat} (named : machine.uid = uid) :
    Program.Follows (Permits (cloud base) words i uid none)
      (fun k made => ∀ s, made = .ok (.ok s) → k = .found s)
      (Operation.observe (Client.createServer { base, token }
        (createBody c machine userdata keys networks))) .vacant := by
  have permitted : Permits (cloud base) words i uid none .vacant
      { method := .post, path := base ++ "/servers", token,
        body := some (createBody c machine userdata keys networks) }
      (.ofReply (decodeReply serverReader) .found) := by
    apply permits_make
    · intro before reply after effect
      obtain ⟨made, rfl, fresh, marked, told⟩ :=
        effect_create (labelsOf_createBody c machine userdata keys networks) effect
      rw [named] at marked
      have carried : made.labels.get? uidLabel = some uid := by
        rw [marked]
        exact Dict.get?_insert_self c.labels uidLabel uid
      refine ⟨made, rfl, fresh, carried, fun u carries => ?_, .inr (Knowledge.ofReply_ok told)⟩
      exact .inl (Option.some.inj (carries.symm.trans carried))
    · intro reply failed
      obtain ⟨e, undecoded⟩ := decodeReply_of_failed serverReader failed
      exact Knowledge.ofReply_error undecoded
  apply Operation.follows_observe
  apply Operation.follows_send permitted
  · intro reply s made
    exact Knowledge.ofReply_ok (Except.ok.inj made)
  · nofun

theorem updateLabels_follows {s : Server} {newUid : String} :
    Program.Follows (Permits (cloud base) words i uid (some newUid))
      (fun k updated => ∀ t, updated = .ok t → k = .vacant)
      (Operation.ofApi ApiError.toCloud (Client.updateLabels { base, token } s.id
        (s.labels.insert uidLabel newUid))) (.found s) := by
  have permitted : Permits (cloud base) words i uid (some newUid) (.found s)
      { method := .put, path := base ++ ("/servers/" ++ toString s.id), token,
        body := some (.obj [("labels", .ofDict (s.labels.insert uidLabel newUid))]) }
      (.ofReply (decodeReply serverReader) fun _ => .vacant) := by
    apply permits_rename cloud_renames
    · intro before reply after effect
      refine ⟨⟨relabel s.id (s.labels.insert uidLabel newUid), effect_relabel effect,
        fun t => ⟨?_, ?_, ?_⟩⟩, ?_⟩
      · exact relabel_id s.id _ t
      · exact relabel_of_ne _
      · exact relabel_labels _
      · cases told : decodeReply serverReader reply with
        | ok t => exact .inr (Knowledge.ofReply_ok told)
        | error e => exact .inl (Knowledge.ofReply_error told)
    · intro reply failed
      obtain ⟨e, undecoded⟩ := decodeReply_of_failed serverReader failed
      exact Knowledge.ofReply_error undecoded
  apply Operation.follows_ofApi
  apply Operation.follows_send permitted
  · intro reply t updated
    cases told : decodeReply serverReader reply with
    | ok _ => exact Knowledge.ofReply_ok told
    | error e =>
      rw [told] at updated
      cases updated
  · nofun

theorem deleteServer_follows {s : Server} :
    Program.Follows (Permits (cloud base) words i uid none) (fun _ _ => True)
      (Operation.observe (Client.deleteServer { base, token } s.id)) (.found s) := by
  have permitted : Permits (cloud base) words i uid none (.found s)
      { method := .delete, path := base ++ ("/servers/" ++ toString s.id), token }
      fun _ => .unknown :=
    permits_remove (c := cloud base) fun _ _ _ effect => effect_delete effect
  exact Operation.follows_observe (Operation.follows_send permitted (fun _ => trivial) trivial)

theorem get_follows (r : Resolver) (machine : Machine) :
    Program.Follows (Permits (cloud base) words i machine.uid target)
      (fun k result => k.Fulfils (cloud base) (.get machine) result) (get base r machine) k := by
  refine Operation.follows_resolved (fun c _ => ?_) fun _ _ => trivial
  refine Operation.follows_bind findServer_follows ?_ fun _ _ _ => trivial
  intro k found searched
  cases found with
  | none => exact trivial
  | some s => exact ⟨s, searched, rfl⟩

theorem create_follows (r : Resolver) (machine : Machine) (userdata : String) :
    Program.Follows (Permits (cloud base) words i machine.uid none)
      (fun k result => k.Fulfils (cloud base) (.create machine userdata) result)
      (create base r machine userdata) k := by
  refine Operation.follows_resolved (fun c _ => ?_) fun _ _ => trivial
  refine Operation.follows_bind findServer_follows ?_ fun _ _ _ => trivial
  intro k found searched
  cases found with
  | some s => exact ⟨s, searched, rfl⟩
  | none =>
    have vacant : k = .vacant := searched
    subst vacant
    refine follows_aside (requireNetworks_aside c.networks) (fun networks => ?_) fun _ => trivial
    refine follows_aside (uploadKeys_aside machine.uid 0 c.sshPublicKeys) (fun keys => ?_)
      fun _ => trivial
    refine Operation.follows_bind (createServer_follows rfl) ?_ fun _ _ _ => trivial
    intro k made known
    refine follows_aside (deleteKeys_aside keys) (fun _ => ?_) fun _ => trivial
    cases made with
    | ok s => exact ⟨s, known s rfl, rfl⟩
    | error e => exact trivial

theorem cleanup_follows (r : Resolver) (machine : Machine) :
    Program.Follows (Permits (cloud base) words i machine.uid none)
      (fun k result => k.Fulfils (cloud base) (.cleanup machine) result)
      (cleanup base r machine) k := by
  refine Operation.follows_resolved (fun c _ => ?_) fun _ _ => trivial
  refine Operation.follows_bind findServer_follows ?_ fun _ _ _ => trivial
  intro k found searched
  cases found with
  | none => exact trivial
  | some s =>
    have known : k = .found s := searched
    subst known
    dsimp only
    split
    · exact trivial
    · refine Operation.follows_bind deleteServer_follows ?_ fun _ _ _ => trivial
      intro k deleted _
      cases deleted with
      | ok _ => exact trivial
      | error e =>
        dsimp only
        split
        · exact trivial
        · exact trivial

theorem migrateUid_follows (r : Resolver) (machine : Machine) (newUid : String) :
    Program.Follows (Permits (cloud base) words i machine.uid (some newUid))
      (fun k result => k.Fulfils (cloud base) (.migrateUid machine newUid) result)
      (migrateUid base r machine newUid) k := by
  refine Operation.follows_resolved (fun c _ => ?_) fun _ _ => trivial
  refine Operation.follows_bind findServer_follows ?_ fun _ _ _ => trivial
  intro k found searched
  cases found with
  | none => exact searched
  | some s =>
    have known : k = .found s := searched
    subst known
    refine Operation.follows_map updateLabels_follows ?_ fun _ _ _ => trivial
    intro k t updated
    exact updated t rfl

/-- A specification has no say in the label with the UID. -/
def noWords : Option ι → String → Prop := fun _ _ => False

theorem cloud_orderly : (cloud base).Orderly (noWords : Option ι → String → Prop) where
  renames := cloud_renames
  follows i r a call suits _ := by
    cases call with
    | get machine =>
      rw [← suits.1]
      exact get_follows r machine
    | create machine userdata =>
      rw [← suits.1, suits.2]
      exact create_follows r machine userdata
    | cleanup machine =>
      rw [← suits.1, suits.2]
      exact cleanup_follows r machine
    | migrateUid machine newUid =>
      rw [← suits.1, suits.2]
      exact migrateUid_follows r machine newUid
    | _ => exact suits.elim

end MachineFleet.Hetzner
