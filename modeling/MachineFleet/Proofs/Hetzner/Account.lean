import MachineFleet.Hetzner.Machines
import MachineFleet.Proofs.Fleet.Conduct
import MachineFleet.Proofs.Json.Built
import MachineFleet.Proofs.Text.Path
import Std.Data.String.ToNat

/-!
The account that the Hetzner API keeps: servers with labels. A request is one for the servers when
its path begins with theirs; any other leaves them alone, whatever its reply says.
-/

namespace MachineFleet.Hetzner

def labelsOf (body : Json) : Option (Dict String) :=
  (body.member? "labels").bind fun l => (Json.decode (.dict .string) l).toOption

def relabel (id : Nat) (labels : Dict String) (s : Server) : Server :=
  if s.id = id then { s with labels } else s

/-- What a request does to the servers, with the reply that tells the truth about it. -/
inductive Effect (base : String) : Http.Request → List Server → Http.Reply → List Server → Prop
    where
  | listed {request : Http.Request} {before found : List Server} {reply : Http.Reply}
      {key value : String}
      (method : request.method = .get) (path : request.path = base ++ "/servers")
      (query : request.query = [("label_selector", key ++ "=" ++ value)])
      (plain : '=' ∉ key.toList) (told : decodeReply serversReader reply = .ok found)
      (exact : found.Perm (before.filter fun s => s.labels.get? key == some value)) :
      Effect base request before reply before
  | created {request : Http.Request} {before : List Server} {reply : Http.Reply} {made : Server}
      (method : request.method = .post) (path : request.path = base ++ "/servers")
      (labels : request.body.bind labelsOf = some made.labels)
      (fresh : made.id ∉ before.map Server.id)
      (told : decodeReply serverReader reply = .ok made) :
      Effect base request before reply (made :: before)
  | relabelled {request : Http.Request} {before : List Server} {reply : Http.Reply}
      {labels : Dict String} {s : Server}
      (method : request.method = .put)
      (path : request.path = base ++ ("/servers/" ++ toString s.id))
      (body : request.body.bind labelsOf = some labels) (present : s ∈ before)
      (told : decodeReply serverReader reply = .ok { s with labels }) :
      Effect base request before reply (before.map (relabel s.id labels))
  | deleted {request : Http.Request} {before : List Server} {reply : Http.Reply} {s : Server}
      (method : request.method = .delete)
      (path : request.path = base ++ ("/servers/" ++ toString s.id)) (present : s ∈ before)
      (told : ∃ body, check reply = .ok body) :
      Effect base request before reply (before.filter fun t => t.id ≠ s.id)
  | elsewhere {request : Http.Request} {before : List Server} {reply : Http.Reply}
      (path : ∀ rest, request.path ≠ base ++ ("/servers" ++ rest)) :
      Effect base request before reply before

/-- Machines find their servers by the label with the UID, and no specification can ask for
another mark. -/
def cloud (base : String) : Cloud where
  Record := Server
  Id := Nat
  Marks := Dict String
  id := Server.id
  marks := Server.labels
  carries labels uid := labels.get? uidLabel = some uid
  renamed labels _ newUid := labels.insert uidLabel newUid
  snapshot := Server.snapshot
  effect := Effect base
  asks _ _ := False
  answer := answer base

variable {base token uid : String} {before after : List Server} {reply : Http.Reply}

theorem cloud_renames : (cloud base).Renames where
  carries labels _ v := Dict.get?_insert_self labels uidLabel v
  only labels _ v x _ carries := by
    refine .inl ?_
    have same : some v = some x := (Dict.get?_insert_self labels uidLabel v).symm.trans carries
    exact (Option.some.inj same).symm

theorem relabel_id (id : Nat) (labels : Dict String) (s : Server) :
    (relabel id labels s).id = s.id := by
  unfold relabel
  split
  · rfl
  · rfl

theorem relabel_of_ne {id : Nat} (labels : Dict String) {s : Server} (differs : s.id ≠ id) :
    relabel id labels s = s :=
  if_neg differs

theorem relabel_labels {id : Nat} (labels : Dict String) {s : Server} (same : s.id = id) :
    (relabel id labels s).labels = labels := by
  unfold relabel
  rw [if_pos same]

theorem check_of_failed (failed : reply.Failed) : ∃ e, check reply = .error e := by
  cases reply with
  | dropped => exact ⟨_, rfl⟩
  | response status body =>
    have noSuccess : Http.isSuccess status = false := failed
    simp only [check, noSuccess, Bool.false_eq_true, if_false]
    split
    · exact ⟨_, rfl⟩
    · exact ⟨_, rfl⟩

theorem decodeReply_of_failed {α : Type} (r : Json.Reader α) (failed : reply.Failed) :
    ∃ e, decodeReply r reply = .error e := by
  obtain ⟨e, checked⟩ := check_of_failed failed
  unfold decodeReply
  rw [checked]
  exact ⟨e, rfl⟩

theorem labelsOf_createBody (c : Config) (machine : Machine) (userdata : String)
    (keys networks : List Nat) :
    labelsOf (createBody c machine userdata keys networks) =
      some (c.labels.insert uidLabel machine.uid) := by
  have member : (createBody c machine userdata keys networks).member? "labels" =
      some (.ofDict (c.labels.insert uidLabel machine.uid)) := by
    unfold createBody textMember Json.objOf
    cases networks.isEmpty <;> cases c.location.isEmpty <;> cases c.datacenter.isEmpty <;> rfl
  unfold labelsOf
  rw [member, Option.bind_some, Json.decode_ofDict]
  rfl

theorem labelsOf_labels (labels : Dict String) :
    labelsOf (.obj [("labels", .ofDict labels)]) = some labels := by
  have member : Json.member? "labels" (.obj [("labels", .ofDict labels)]) =
      some (.ofDict labels) := rfl
  unfold labelsOf
  rw [member, Option.bind_some, Json.decode_ofDict]
  rfl

theorem id_of_path {a b : Nat}
    (same : base ++ ("/servers/" ++ toString a) = base ++ ("/servers/" ++ toString b)) : a = b :=
  Nat.repr_injective (Text.last_of_path same)

/-- Lists are divided in one way at the first place of an element. -/
theorem divided_at {α : Type} {x : α} {k k' v v' : List α} (plain : x ∉ k) (plain' : x ∉ k')
    (same : k ++ x :: v = k' ++ x :: v') : k = k' ∧ v = v' := by
  rcases List.append_eq_append_iff.mp same with ⟨m, rfl, rest⟩ | ⟨m, rfl, rest⟩
  · cases m with
    | nil => exact ⟨(List.append_nil k).symm, (List.cons.inj rest).2⟩
    | cons y m =>
      rw [(List.cons.inj rest).1] at plain'
      exact absurd (List.mem_append_right k List.mem_cons_self) plain'
  · cases m with
    | nil => exact ⟨List.append_nil k', (List.cons.inj rest).2.symm⟩
    | cons y m =>
      rw [(List.cons.inj rest).1] at plain
      exact absurd (List.mem_append_right k' List.mem_cons_self) plain

theorem selector_eq {k k' v v' : String} (plain : '=' ∉ k.toList) (plain' : '=' ∉ k'.toList)
    (same : k ++ "=" ++ v = k' ++ "=" ++ v') : k = k' ∧ v = v' := by
  have lists := congrArg String.toList same
  simp only [String.toList_append, List.append_assoc] at lists
  obtain ⟨keys, values⟩ := divided_at plain plain' lists
  exact ⟨String.toList_inj.mp keys, String.toList_inj.mp values⟩

theorem effect_lookup
    (effect : Effect base
      { method := .get, path := base ++ "/servers",
        query := [("label_selector", uidLabel ++ "=" ++ uid)], token } before reply after) :
    after = before ∧ ∃ found, decodeReply serversReader reply = .ok found ∧
      found.Perm (before.filter fun s => s.labels.get? uidLabel == some uid) := by
  cases effect with
  | listed _ _ query plain told exact =>
    have selectors := congrArg Prod.snd (List.cons.inj query).1
    obtain ⟨rfl, rfl⟩ := selector_eq (by decide) plain selectors
    exact ⟨rfl, _, told, exact⟩
  | created method => cases method
  | relabelled method => cases method
  | deleted method => cases method
  | elsewhere path => exact absurd rfl (path "")

theorem effect_create {body : Json} {labels : Dict String} (asked : labelsOf body = some labels)
    (effect : Effect base
      { method := .post, path := base ++ "/servers", token, body := some body }
      before reply after) :
    ∃ made, after = made :: before ∧ made.id ∉ before.map Server.id ∧ made.labels = labels ∧
      decodeReply serverReader reply = .ok made := by
  cases effect with
  | listed method => cases method
  | created _ _ given fresh told =>
    have same : some labels = some _ := asked.symm.trans given
    exact ⟨_, rfl, fresh, (Option.some.inj same).symm, told⟩
  | relabelled method => cases method
  | deleted method => cases method
  | elsewhere path => exact absurd rfl (path "")

theorem effect_relabel {id : Nat} {labels : Dict String}
    (effect : Effect base
      { method := .put, path := base ++ ("/servers/" ++ toString id), token,
        body := some (.obj [("labels", .ofDict labels)]) } before reply after) :
    after = before.map (relabel id labels) := by
  cases effect with
  | listed method => cases method
  | created method => cases method
  | relabelled _ path body =>
    have given := (labelsOf_labels labels).symm.trans body
    rw [id_of_path path, Option.some.inj given]
  | deleted method => cases method
  | elsewhere path => exact absurd rfl (path ("/" ++ toString id))

theorem effect_delete {id : Nat}
    (effect : Effect base
      { method := .delete, path := base ++ ("/servers/" ++ toString id), token }
      before reply after) :
    after = before.filter fun t => t.id ≠ id := by
  cases effect with
  | listed method => cases method
  | created method => cases method
  | relabelled method => cases method
  | deleted _ path => rw [id_of_path path]
  | elsewhere path => exact absurd rfl (path ("/" ++ toString id))

theorem effect_aside {request : Http.Request}
    (path : ∀ rest, request.path ≠ base ++ ("/servers" ++ rest))
    (effect : Effect base request before reply after) : after = before := by
  cases effect with
  | listed => rfl
  | created _ at_servers => exact absurd at_servers (path "")
  | relabelled _ at_servers => exact absurd at_servers (path ("/" ++ toString _))
  | deleted _ at_servers => exact absurd at_servers (path ("/" ++ toString _))
  | elsewhere => rfl

end MachineFleet.Hetzner
