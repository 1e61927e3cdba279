import MachineFleet.Proofs.Fleet.Play
import MachineFleet.Proofs.Fleet.Safety
import MachineFleet.Proofs.Hetzner.Conduct

/-!
Machines that share an account on Hetzner. In whatever order their requests are served, and
whichever replies are lost, a machine keeps to the one server that was made for it.
-/

namespace MachineFleet.Hetzner

open World

variable {base : String} {ι : Type}

def carrying (servers : List Server) (uid : String) : List Server :=
  servers.filter fun s => s.labels.get? uidLabel == some uid

/-- What machines with UIDs of their own can rely on in a world. -/
structure Safe [DecidableEq ι] (w : World (cloud base) ι) : Prop where
  /-- A UID stands on one server at most. -/
  single : ∀ uid, (carrying w.records uid).length ≤ 1
  /-- One server at most was made for a machine. -/
  made : ∀ i, ∀ s ∈ w.records, ∀ t ∈ w.records,
    w.maker s.id = some i → w.maker t.id = some i → s = t
  /-- An instance that an operation results in is the server of its machine. -/
  results : ∀ i result, (w.agents i).activity.ResultsIn result →
    ∃ s ∈ w.records, w.maker s.id = some i ∧ result.id = toString s.id
  /-- A step of one machine leaves every server that was not made for it as it is. -/
  confined : ∀ i w', Step noWords (some i) w w' → ∀ s ∈ w.records, w.maker s.id ≠ some i →
    s ∈ w'.records ∧ w'.maker s.id = w.maker s.id
  /-- When a migration that is asked for now has succeeded, the server of the machine is the one
  that is found under the new UID, with its other labels, and none is found under the old. -/
  migrated : ∀ i v m first last result, (w.agents i).target = none →
    Step noWords (some i) w first → (first.agents i).target = some v → Run noWords first last →
    (last.agents i).activity = .running (.migrateUid m v) (.done (.ok result)) →
    carrying last.records (w.agents i).uid = [] ∧
    ∀ s ∈ w.records, w.maker s.id = some i → ∃ t, carrying last.records v = [t] ∧
      t.id = s.id ∧ t.labels = s.labels.insert uidLabel v

variable {w : World (cloud base) ι}

theorem mem_carrying {servers : List Server} {uid : String} {s : Server} :
    s ∈ carrying servers uid ↔ s ∈ servers ∧ s.labels.get? uidLabel = some uid := by
  unfold carrying
  rw [List.mem_filter, beq_iff_eq]

theorem length_carrying_le (consistent : w.Consistent noWords) (uid : String) :
    (carrying w.records uid).length ≤ 1 := by
  have distinct : w.records.Nodup := List.Nodup.of_map Server.id consistent.unique
  have only : ∀ s ∈ carrying w.records uid, ∀ t ∈ carrying w.records uid, s = t := by
    intro s hs t ht
    obtain ⟨sMember, sCarries⟩ := mem_carrying.mp hs
    obtain ⟨tMember, tCarries⟩ := mem_carrying.mp ht
    exact eq_of_carries consistent (fun _ => id) sMember tMember sCarries tCarries
  have nodup : (carrying w.records uid).Nodup := distinct.filter _
  generalize carrying w.records uid = servers at only nodup
  match servers with
  | [] => exact Nat.zero_le 1
  | [_] => exact Nat.le_refl 1
  | s :: t :: _ =>
    have same := only s List.mem_cons_self t (List.mem_cons_of_mem s List.mem_cons_self)
    rw [same] at nodup
    exact absurd List.mem_cons_self (List.nodup_cons.mp nodup).1

theorem Sound.safe [DecidableEq ι] (sound : w.Sound noWords) : Safe w where
  single := length_carrying_le sound.consistent
  made i := (sound.consistent.owned i).single
  results i result ended := by
    obtain ⟨s, rfl, t, member, same, made⟩ := sound.resultsOwn i result ended
    refine ⟨t, member, made, ?_⟩
    exact congrArg toString same.symm
  confined := sound.touchesOwn
  migrated i v m first last result settled asked aimed run ended := by
    obtain ⟨absent, renamed⟩ :=
      handed_over cloud_orderly sound rfl settled asked aimed run ended
    have lastSound := run_sound cloud_orderly run (step_sound cloud_orderly asked sound)
    refine ⟨?_, fun s member made => ?_⟩
    · refine List.eq_nil_iff_forall_not_mem.mpr fun t listed => ?_
      obtain ⟨present, carries⟩ := mem_carrying.mp listed
      exact absent t present carries
    · obtain ⟨t, present, sameId, labels, carries⟩ := renamed s member made
      have listed : t ∈ carrying last.records v := mem_carrying.mpr ⟨present, carries⟩
      have one := length_carrying_le lastSound.consistent v
      obtain ⟨t', only⟩ := List.length_eq_one_iff.mp
        (Nat.le_antisymm one (List.length_pos_of_mem listed))
      rw [only] at listed
      have same : t = t' := List.mem_singleton.mp listed
      subst same
      exact ⟨t, only, sameId, labels⟩

/-- Every world that machines reach from a settled start is safe. -/
theorem servers_keep_to_their_machines [DecidableEq ι] {start : World (cloud base) ι}
    (settled : start.Settled noWords) (run : Run noWords start w) : Safe w :=
  Sound.safe (run_sound cloud_orderly run settled.sound)

namespace Lost

deriving instance DecidableEq for Server

def uids (i : Bool) : String := if i then "uid-a" else "uid-b"

def start : World (cloud "") Bool where
  records := []
  maker _ := none
  agents i := { uid := uids i }

def machine : Machine where
  metadata := { uid := some "uid-a" }
  spec := { provider := some (.obj [("cloudProvider", .str "hetzner"),
    ("operatingSystem", .str "ubuntu")]) }

def server : Server where
  id := 7
  name := ""
  labels := Dict.empty.insert uidLabel "uid-a"

def none_listed : Http.Reply := .response 200 "\x7b\"servers\":[]\x7d"

def one_listed : Http.Reply := .response 200 "\x7b\"servers\":[\x7b\"id\":7,\"name\":\"\",
  \"labels\":\x7b\"machine-uid\":\"uid-a\"\x7d\x7d]\x7d"

def one_made : Http.Reply := .response 200 "\x7b\"server\":\x7b\"id\":7,\"name\":\"\",
  \"labels\":\x7b\"machine-uid\":\"uid-a\"\x7d\x7d\x7d"

def search : Http.Request :=
  { method := .get, path := "" ++ "/servers",
    query := [("label_selector", uidLabel ++ "=" ++ "uid-a")], token := "" }

def creation : Http.Exchange (CloudCall.create machine "").Answer := create "" {} machine ""

theorem search_before : (cloud "").Serves search [] none_listed [] :=
  .answered (.listed rfl rfl rfl (by decide)
    (by decide +kernel : decodeReply serversReader none_listed = .ok []) (.refl []))

theorem search_after : (cloud "").Serves search [server] one_listed [server] :=
  .answered (.listed rfl rfl rfl (by decide)
    (by decide +kernel : decodeReply serversReader one_listed = .ok [server]) (by decide +kernel))

/-- The request for the server is carried out, but its reply never arrives. -/
theorem creation_lost : ∃ q, (creation.resume none_listed).request? = some q ∧
    (cloud "").Serves q [] .dropped [server] := by
  have checked : ((creation.resume none_listed).request?.any fun q =>
      decide ((q.method = .post ∧ q.path = "" ++ "/servers") ∧
        q.body.bind labelsOf = some server.labels)) = true := by decide +kernel
  obtain ⟨q, asks, holds⟩ := (Option.any_eq_true _ _).mp checked
  obtain ⟨⟨post, path⟩, labels⟩ := of_decide_eq_true holds
  have told : decodeReply serverReader one_made = .ok server := by decide +kernel
  have failed : Http.Reply.dropped.Failed := trivial
  exact ⟨q, asks, .lost (.created post path labels nofun told) failed⟩

theorem creation_failed :
    ∃ a, ((creation.resume none_listed).resume .dropped).result? = some a :=
  Option.isSome_iff_exists.mp (by decide +kernel)

theorem creation_repeated : creation.resume one_listed = .done (.ok server.snapshot) :=
  Http.Exchange.eq_done_ok (α := Instance) (by decide +kernel)

end Lost

open Lost

/-- The repetition finds the server of the first attempt and makes no second one. -/
theorem lost_creation_keeps_to_its_machine : ∃ w : World (cloud "") Bool, Run noWords start w ∧
    w.records = [server] ∧ (w.agents true).activity.ResultsIn server.snapshot ∧ Safe w := by
  have settled : start.Settled noWords := settled_of_empty (by decide) fun _ _ => False.elim
  obtain ⟨q, asks, lost⟩ := creation_lost
  obtain ⟨a, ends⟩ := creation_failed
  have begun := Run.start (.refl : Run noWords start start) true (.create machine "") {} rfl
    ⟨rfl, rfl, nofun⟩
  have searched := begun.request (i := true) (x := creation) rfl rfl search_before
  have made := searched.request (i := true) (x := creation.resume none_listed) rfl asks lost
  have ended := made.finish (i := true)
    (x := (creation.resume none_listed).resume .dropped) rfl ends
  have again := ended.start true (.create machine "") {} rfl ⟨rfl, rfl, nofun⟩
  have found := again.request (i := true) (x := creation) rfl rfl search_after
  refine ⟨_, found, rfl, ?_, servers_keep_to_their_machines settled found⟩
  rw [set_agents_self, creation_repeated]
  exact .create machine "" server.snapshot

end MachineFleet.Hetzner
