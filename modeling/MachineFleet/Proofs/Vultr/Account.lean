import MachineFleet.Proofs.Fleet.Conduct
import MachineFleet.Proofs.Json.Built
import MachineFleet.Proofs.Outcome
import MachineFleet.Proofs.Text.Path
import MachineFleet.Vultr.Machines

/-!
The account that the Vultr API keeps: instances with tags. A search for a tag lists every instance
with a tag that begins like it. Tags that a specification asks for stand in one list with the UID.
-/

namespace MachineFleet.Vultr

def tagsOf (body : Json) : Option (List String) :=
  (body.member? "tags").bind fun l => (Json.decode (.list .string) l).toOption

/-- A search for the tag lists the instance. -/
def listedFor (tag : String) (s : Server) : Bool :=
  s.tags.any fun t => tag.toList.isPrefixOf t.toList

def retag (id : String) (tags : List String) (s : Server) : Server :=
  if s.id = id then { s with tags } else s

/-- What a request does to the instances, with the reply that tells the truth about it. -/
inductive Effect (base : String) : Http.Request → List Server → Http.Reply → List Server → Prop
    where
  | listed {request : Http.Request} {before found : List Server} {reply : Http.Reply} {tag : String}
      (method : request.method = .get) (path : request.path = base ++ "/instances")
      (query : request.query = [("tag", tag)]) (told : decodeReply serversReader reply = .ok found)
      (exact : found.Perm (before.filter (listedFor tag))) :
      Effect base request before reply before
  | created {request : Http.Request} {before : List Server} {reply : Http.Reply} {made : Server}
      (method : request.method = .post) (path : request.path = base ++ "/instances")
      (tags : request.body.bind tagsOf = some made.tags) (fresh : made.id ∉ before.map Server.id)
      (told : decodeReply serverReader reply = .ok made) :
      Effect base request before reply (made :: before)
  | retagged {request : Http.Request} {before : List Server} {reply : Http.Reply}
      {tags : List String} {s : Server} (method : request.method = .patch)
      (path : request.path = base ++ ("/instances/" ++ s.id))
      (body : request.body.bind tagsOf = some tags) (present : s ∈ before)
      (told : ∃ text, check reply = .ok text) :
      Effect base request before reply (before.map (retag s.id tags))
  | deleted {request : Http.Request} {before : List Server} {reply : Http.Reply} {s : Server}
      (method : request.method = .delete) (path : request.path = base ++ ("/instances/" ++ s.id))
      (present : s ∈ before) (told : ∃ text, check reply = .ok text) :
      Effect base request before reply (before.filter fun t => t.id ≠ s.id)
  | elsewhere {request : Http.Request} {before : List Server} {reply : Http.Reply}
      (path : ∀ rest, request.path ≠ base ++ ("/instances" ++ rest)) :
      Effect base request before reply before

/-- Machines find their instances by the tag that is the UID. -/
def cloud (base : String) : Cloud where
  Record := Server
  Id := String
  Marks := List String
  id := Server.id
  marks := Server.tags
  carries tags uid := uid ∈ tags
  renamed tags uid newUid := tags.filter (· != uid) ++ [newUid]
  snapshot := Server.snapshot
  effect := Effect base
  asks spec tag := ∃ envelope raw, payload spec = .ok (envelope, raw) ∧ tag ∈ raw.tags
  answer := answer base

variable {base token uid : String} {before after : List Server} {reply : Http.Reply}

theorem cloud_renames : (cloud base).Renames where
  carries tags u v := List.mem_append_right _ (List.mem_singleton.mpr rfl)
  only tags u v x _ carries := by
    rcases List.mem_append.mp carries with kept | new
    · obtain ⟨member, differs⟩ := List.mem_filter.mp kept
      exact .inr ⟨bne_iff_ne.mp differs, member⟩
    · exact .inl (List.mem_singleton.mp new)

theorem listedFor_of_mem {tag : String} {s : Server} (member : tag ∈ s.tags) :
    listedFor tag s = true := by
  unfold listedFor
  rw [List.any_eq_true]
  exact ⟨tag, member, List.isPrefixOf_iff_prefix.mpr (List.prefix_refl _)⟩

theorem retag_id (id : String) (tags : List String) (s : Server) : (retag id tags s).id = s.id := by
  unfold retag
  split
  · rfl
  · rfl

theorem retag_of_ne {id : String} (tags : List String) {s : Server} (differs : s.id ≠ id) :
    retag id tags s = s :=
  if_neg differs

theorem retag_tags {id : String} (tags : List String) {s : Server} (same : s.id = id) :
    (retag id tags s).tags = tags := by
  unfold retag
  rw [if_pos same]

theorem check_of_failed (failed : reply.Failed) : ∃ e, check reply = .error e := by
  cases reply with
  | dropped => exact ⟨_, rfl⟩
  | response status body =>
    have noSuccess : Http.isSuccess status = false := failed
    simp only [check, noSuccess, Bool.false_eq_true, if_false]
    split
    · exact ⟨_, rfl⟩
    · exact ⟨_, rfl⟩

theorem decodeReply_of_failed {α : Type} (r : Json.Reader α) (failed : reply.Failed) :
    ∃ e, decodeReply r reply = .error e := by
  obtain ⟨e, checked⟩ := check_of_failed failed
  unfold decodeReply
  rw [checked]
  exact ⟨e, rfl⟩

theorem tagsOf_createBody (c : Config) (machine : Machine) (userdata : String) (os : Nat) :
    tagsOf (createBody c machine userdata os) = some (c.tags ++ [machine.uid]) := by
  have member : (createBody c machine userdata os).member? "tags" =
      some (.ofList (c.tags ++ [machine.uid])) := by
    unfold createBody Json.objOf
    cases c.vpcIds.isEmpty <;> rfl
  unfold tagsOf
  rw [member, Option.bind_some, Json.decode_ofList]
  rfl

theorem tagsOf_tags (tags : List String) :
    tagsOf (.obj [("tags", .ofList tags)]) = some tags := by
  have member : Json.member? "tags" (.obj [("tags", .ofList tags)]) = some (.ofList tags) := rfl
  unfold tagsOf
  rw [member, Option.bind_some, Json.decode_ofList]
  rfl

theorem asks_of_config {r : Resolver} {spec : MachineSpec} {c : Config}
    (resolved : config r spec = .ok c) {tag : String} (member : tag ∈ c.tags) :
    (cloud base).asks spec tag := by
  obtain ⟨⟨envelope, raw⟩, read, resolved⟩ := ok_of_bind resolved
  obtain ⟨vpcIds, -, resolved⟩ := ok_of_bind resolved
  obtain ⟨apiKey, -, resolved⟩ := ok_of_bind resolved
  obtain ⟨region, -, resolved⟩ := ok_of_bind resolved
  obtain ⟨plan, -, resolved⟩ := ok_of_bind resolved
  obtain ⟨osId, -, resolved⟩ := ok_of_bind resolved
  obtain ⟨ipv6, -, resolved⟩ := ok_of_bind resolved
  cases resolved
  exact ⟨envelope, raw, read, member⟩

theorem effect_lookup
    (effect : Effect base
      { method := .get, path := base ++ "/instances", query := [("tag", uid)], token }
      before reply after) :
    after = before ∧ ∃ found, decodeReply serversReader reply = .ok found ∧
      found.Perm (before.filter (listedFor uid)) := by
  cases effect with
  | listed _ _ query told exact =>
    have tags := congrArg Prod.snd (List.cons.inj query).1
    have same : uid = _ := tags
    subst same
    exact ⟨rfl, _, told, exact⟩
  | created method => cases method
  | retagged method => cases method
  | deleted method => cases method
  | elsewhere path => exact absurd rfl (path "")

theorem effect_create {body : Json} {tags : List String} (asked : tagsOf body = some tags)
    (effect : Effect base
      { method := .post, path := base ++ "/instances", token, body := some body }
      before reply after) :
    ∃ made, after = made :: before ∧ made.id ∉ before.map Server.id ∧ made.tags = tags ∧
      decodeReply serverReader reply = .ok made := by
  cases effect with
  | listed method => cases method
  | created _ _ given fresh told =>
    have same : some tags = some _ := asked.symm.trans given
    exact ⟨_, rfl, fresh, (Option.some.inj same).symm, told⟩
  | retagged method => cases method
  | deleted method => cases method
  | elsewhere path => exact absurd rfl (path "")

theorem effect_retag {id : String} {tags : List String}
    (effect : Effect base
      { method := .patch, path := base ++ ("/instances/" ++ id), token,
        body := some (.obj [("tags", .ofList tags)]) } before reply after) :
    after = before.map (retag id tags) := by
  cases effect with
  | listed method => cases method
  | created method => cases method
  | retagged _ path body =>
    have given := (tagsOf_tags tags).symm.trans body
    rw [Text.last_of_path path, Option.some.inj given]
  | deleted method => cases method
  | elsewhere path => exact absurd rfl (path ("/" ++ id))

theorem effect_delete {id : String}
    (effect : Effect base { method := .delete, path := base ++ ("/instances/" ++ id), token }
      before reply after) :
    after = before.filter fun t => t.id ≠ id := by
  cases effect with
  | listed method => cases method
  | created method => cases method
  | retagged method => cases method
  | deleted _ path => rw [Text.last_of_path path]
  | elsewhere path => exact absurd rfl (path ("/" ++ id))

theorem effect_aside {request : Http.Request}
    (path : ∀ rest, request.path ≠ base ++ ("/instances" ++ rest))
    (effect : Effect base request before reply after) : after = before := by
  cases effect with
  | listed => rfl
  | created _ at_instances => exact absurd at_instances (path "")
  | retagged _ at_instances => exact absurd at_instances (path ("/" ++ _))
  | deleted _ at_instances => exact absurd at_instances (path ("/" ++ _))
  | elsewhere => rfl

end MachineFleet.Vultr
