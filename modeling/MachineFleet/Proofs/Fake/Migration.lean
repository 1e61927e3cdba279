import MachineFleet.Proofs.Fake.State

/-!
What becomes of the instances in memory when that of a machine is moved to another UID. It is found
under the new UID from then on, and nothing changes for the UIDs that are not concerned. But another
instance that stood under the new UID is displaced: it is gone without having been cleaned up.
-/

namespace MachineFleet.Fake

open scoped List

variable {s : State} {m m' : Machine} {newUid : String} {a : Server}

def State.ids (s : State) : List String := s.servers.values.map Server.id

/-- The instance that loses its place when that of the first UID is moved to the second one. -/
def State.displaced? (s : State) (uid newUid : String) : Option Server :=
  if s.servers.contains uid = true ∧ newUid ≠ uid then s.servers.get? newUid else none

/-- What a migration does to the instances. -/
structure Rehoused (s : State) (m : Machine) (newUid : String) : Prop where
  /-- No identifier is lost but that of the displaced instance, and none comes up twice. -/
  ids : s.ids ~ (s.displaced? m.uid newUid).toList.map Server.id ++ (migrateUid m newUid s).ids
  apart : (migrateUid m newUid s).ids.Nodup
  lossless : (migrateUid m newUid s).ids ~ s.ids ↔ s.displaced? m.uid newUid = none
  moved : s.servers.contains m.uid = true → ∀ m', m'.uid = newUid →
    (get m' (migrateUid m newUid s)).1 = (get m s).1
  vacated : newUid ≠ m.uid → ∀ m', m'.uid = m.uid →
    (get m' (migrateUid m newUid s)).1 = .error .instanceNotFound
  others : ∀ m', m'.uid ≠ m.uid → m'.uid ≠ newUid →
    (get m' (migrateUid m newUid s)).1 = (get m' s).1
  idle : s.servers.contains m.uid = false → migrateUid m newUid s = s

def idsOf (d : Dict Server) : List String := d.entries.map fun e => e.2.id

theorem ids_eq (s : State) : s.ids = idsOf s.servers := by
  simp [State.ids, idsOf, Dict.values]

theorem idsOf_insert (d : Dict Server) (uid : String) (a : Server) :
    idsOf (d.insert uid a) ~ a.id :: idsOf (d.erase uid) :=
  (d.perm_insert uid a).map fun e : String × Server => e.2.id

theorem idsOf_erase (d : Dict Server) (uid : String) :
    idsOf d ~ (d.get? uid).toList.map Server.id ++ idsOf (d.erase uid) := by
  have entries := (d.perm_erase uid).map fun e : String × Server => e.2.id
  rw [List.map_append, List.map_map] at entries
  exact entries

theorem Numbered.nodup_ids (numbered : Numbered s) : s.ids.Nodup := by
  rw [ids_eq]
  refine List.pairwise_map.mpr (s.servers.ordered.imp_of_mem ?_)
  rintro ⟨uid, a⟩ ⟨uid', b⟩ memberA memberB below same
  have held := Dict.mem_entries_iff.mp memberA
  have held' := Dict.mem_entries_iff.mp memberB
  rw [numbered.uid_of_id held held' same] at below
  exact String.lt_irrefl uid' below

theorem migrateUid_of_none (absent : s.servers.get? m.uid = none) : migrateUid m newUid s = s := by
  rw [migrateUid, absent]

theorem servers_migrateUid (held : s.servers.get? m.uid = some a) :
    (migrateUid m newUid s).servers = (s.servers.erase m.uid).insert newUid a := by
  rw [migrateUid, held]

theorem get?_migrateUid (held : s.servers.get? m.uid = some a) (uid : String) :
    (migrateUid m newUid s).servers.get? uid =
      if uid = newUid then some a else if uid = m.uid then none else s.servers.get? uid := by
  rw [servers_migrateUid held, Dict.get?_insert, Dict.get?_erase]

theorem displaced?_of_none (absent : s.servers.get? m.uid = none) :
    s.displaced? m.uid newUid = none := by
  simp [State.displaced?, Dict.contains, absent]

/-- What is displaced stands under the new UID when the moved instance has left its own. -/
theorem displaced?_of_some (held : s.servers.get? m.uid = some a) :
    s.displaced? m.uid newUid = (s.servers.erase m.uid).get? newUid := by
  rw [Dict.get?_erase]
  by_cases own : newUid = m.uid
  · simp [State.displaced?, own]
  · simp [State.displaced?, Dict.contains, held, own]

theorem ids_migrateUid (m : Machine) (newUid : String) (s : State) :
    s.ids ~ (s.displaced? m.uid newUid).toList.map Server.id ++ (migrateUid m newUid s).ids := by
  cases held : s.servers.get? m.uid with
  | none =>
    rw [migrateUid_of_none held, displaced?_of_none held]
    exact .refl _
  | some a =>
    have after := idsOf_insert (s.servers.erase m.uid) newUid a
    have left := idsOf_erase s.servers m.uid
    have freed := idsOf_erase (s.servers.erase m.uid) newUid
    rw [held] at left
    rw [displaced?_of_some held, ids_eq, ids_eq, servers_migrateUid held]
    generalize s.servers.erase m.uid = rest at after left freed ⊢
    calc
      idsOf s.servers ~ a.id :: idsOf rest := left
      _ ~ a.id :: ((rest.get? newUid).toList.map Server.id ++ idsOf (rest.erase newUid)) :=
        freed.cons a.id
      _ ~ (rest.get? newUid).toList.map Server.id ++ a.id :: idsOf (rest.erase newUid) :=
        List.perm_middle.symm
      _ ~ (rest.get? newUid).toList.map Server.id ++ idsOf (rest.insert newUid a) :=
        after.symm.append_left _

/-- What a look-up answers depends on the instance under the UID and on nothing else. -/
theorem get_congr {s' : State} (same : s'.servers.get? m'.uid = s.servers.get? m.uid) :
    (get m' s').1 = (get m s).1 := by
  unfold get
  rw [same]
  cases s.servers.get? m.uid <;> rfl

theorem get_of_none (absent : s.servers.get? m.uid = none) :
    (get m s).1 = .error .instanceNotFound := by
  rw [get, absent]

/-- Moving the instance of a machine to another UID keeps all other instances but the one that
stands there already, and every look-up finds what it has to find. -/
theorem instances_are_rehoused (reached : Reached s) (m : Machine) (newUid : String) :
    Rehoused s m newUid := by
  have ids := ids_migrateUid m newUid s
  constructor
  case ids => exact ids
  case apart =>
    have distinct := ids.nodup_iff.mp reached.numbered.nodup_ids
    exact (List.nodup_append.mp distinct).2.1
  case lossless =>
    constructor
    · intro kept
      have count := ids.length_eq
      rw [List.length_append, kept.length_eq] at count
      cases lost : s.displaced? m.uid newUid with
      | none => rfl
      | some b => simp [lost] at count
    · intro none
      rw [none] at ids
      exact ids.symm
  case moved =>
    intro present m' renamed
    obtain ⟨a, held⟩ := Option.isSome_iff_exists.mp present
    refine get_congr ?_
    rw [get?_migrateUid held, if_pos renamed, held]
  case vacated =>
    intro away m' same
    refine get_of_none ?_
    rw [same]
    cases held : s.servers.get? m.uid with
    | none => rw [migrateUid_of_none held, held]
    | some a => rw [get?_migrateUid held, if_neg away.symm, if_pos rfl]
  case others =>
    intro m' old new
    refine get_congr ?_
    cases held : s.servers.get? m.uid with
    | none => rw [migrateUid_of_none held]
    | some a => rw [get?_migrateUid held, if_neg new, if_neg old]
  case idle =>
    intro absent
    cases held : s.servers.get? m.uid with
    | none => exact migrateUid_of_none held
    | some a => simp [Dict.contains, held] at absent

/-- A machine of this cloud. -/
def lodger (uid : String) : Machine where
  metadata := { name := some uid, uid := some uid }
  spec :=
    { provider := some (.obj
        [("cloudProvider", .str "fake"), ("operatingSystem", .str "ubuntu")]) }

/-- Two machines have been given their instances. -/
def housed : State :=
  let create (uid : String) (s : State) : State :=
    ((answer {} (.create (lodger uid) "") s).run (fun m (_ : Unit) => (.ok m, ())) ()).1.2
  create "uid-b" (create "uid-a" {})

theorem reached_housed : Reached housed := .called {} _ _ () (.called {} _ _ () .empty)

theorem free_move_keeps_instances : Reached housed ∧
    (migrateUid (lodger "uid-a") "uid-c" housed).ids = ["fake-2", "fake-1"] ∧
    Rehoused housed (lodger "uid-a") "uid-c" :=
  ⟨reached_housed, by decide +kernel,
    instances_are_rehoused reached_housed (lodger "uid-a") "uid-c"⟩

/-- An instance that is moved to the UID of another machine takes the place of that machine's
instance, which is lost. -/
theorem taken_move_loses_instance : Reached housed ∧ housed.ids = ["fake-1", "fake-2"] ∧
    (migrateUid (lodger "uid-a") "uid-b" housed).ids = ["fake-1"] :=
  ⟨reached_housed, by decide +kernel, by decide +kernel⟩

end MachineFleet.Fake
