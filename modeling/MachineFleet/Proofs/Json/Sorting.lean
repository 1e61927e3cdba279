import MachineFleet.Proofs.Json.Order
import MachineFleet.Proofs.Json.Records

/-!
Sorting a document takes nothing from its readers: what is read from a document is read from it with
its members in order, too.
-/

namespace MachineFleet.Json

/-- What is read from a document is read from it when it has been sorted. -/
def Steady {α : Type} (r : Reader α) : Prop := ∀ j a, decode r j = .ok a → decode r j.sorted = .ok a

variable {α β : Type} {r : Reader α}

theorem sortedItems_eq (items : List Json) : sortedItems items = items.map sorted := by
  induction items with
  | nil => rfl
  | cons j rest ih => rw [sortedItems, ih, List.map_cons]

theorem mem_sortedMembers {members done : List (String × Json)} {e : String × Json}
    (member : e ∈ sortedMembers members done) :
    e ∈ done ∨ ∃ e' ∈ members, e = (e'.1, e'.2.sorted) := by
  induction members generalizing done with
  | nil => exact .inl member
  | cons e' rest ih =>
    rcases ih member with before | ⟨e'', later, same⟩
    · rcases Dict.mem_insertEntry before with first | before
      · exact .inr ⟨e', List.mem_cons_self, first⟩
      · exact .inl before
    · exact .inr ⟨e'', List.mem_cons_of_mem _ later, same⟩

theorem lookup_sortedMembers (k : String) (members done : List (String × Json)) :
    (sortedMembers members done).lookup k =
      ((members.reverse.lookup k).map sorted).or (done.lookup k) := by
  induction members generalizing done with
  | nil => rfl
  | cons e rest ih =>
    rw [sortedMembers, ih, List.reverse_cons, List.lookup_append]
    by_cases same : k = e.1
    · rw [same, Dict.lookup_insertEntry_self, List.lookup_cons, beq_self_eq_true]
      cases rest.reverse.lookup e.1 <;> rfl
    · rw [Dict.lookup_insertEntry_of_ne _ _ same, Dict.lookup_cons_of_ne _ _ same, List.lookup_nil,
        Option.or_none]

theorem nodup_sortedMembers (members : List (String × Json)) :
    ((sortedMembers members []).map (·.1)).Nodup := by
  have ordered := (membersInOrder_sorted members [] List.Pairwise.nil trivial).1
  refine List.pairwise_map.mpr (ordered.imp fun {a b} before same => ?_)
  rw [same] at before
  exact String.lt_irrefl _ before

theorem steady_string : Steady .string := by
  intro j a read
  cases j with
  | str s => exact read
  | _ => cases read

theorem steady_bool : Steady .bool := by
  intro j a read
  cases j with
  | bool b => exact read
  | _ => cases read

theorem steady_integer (low high : Int) (wanted : String) : Steady (.integer low high wanted) := by
  intro j a read
  cases j with
  | num n => exact read
  | _ => cases read

theorem Steady.map {g : α → β} (steady : Steady r) : Steady fun d => (r d).map g := by
  intro j b read
  obtain ⟨a, value, rfl⟩ := ok_of_map read
  exact congrArg (Except.map g) (steady j a value)

theorem steady_natural (bits : Nat) (wanted : String) : Steady (.natural bits wanted) :=
  (steady_integer _ _ wanted).map

theorem Steady.option (steady : Steady r) : Steady (.option r) := by
  intro j o read
  cases j with
  | null => exact read
  | _ => exact steady.map _ o read

theorem Steady.items (steady : Steady r) {items : List Json} {as : List α}
    (read : Reader.items r (Document.ofItems items) = .ok as) :
    Reader.items r (Document.ofItems (sortedItems items)) = .ok as := by
  induction items generalizing as with
  | nil => exact read
  | cons j rest ih =>
    obtain ⟨a, first, read⟩ := ok_of_bind read
    obtain ⟨as', later, read⟩ := ok_of_bind read
    cases read
    have first' : r (.ofJson j.sorted) = .ok a := steady j a first
    rw [sortedItems, Document.ofItems, Reader.items, first', ih later]
    rfl

theorem Steady.list (steady : Steady r) : Steady (.list r) := by
  intro j as read
  cases j with
  | arr items =>
    obtain ⟨as', read, same⟩ := ok_of_bind read
    show (Reader.items r (Document.ofItems (sortedItems items)) >>= _) = _
    rw [steady.items read]
    exact same
  | _ => cases read

theorem members_insertEntry {k : String} {j : Json} {a : α} {done : List (String × Json)}
    {es : List (String × α)} (value : decode r j = .ok a)
    (read : Reader.members r (Document.ofMembers done) = .ok es) :
    Reader.members r (Document.ofMembers (Dict.insertEntry k j done)) =
      .ok (Dict.insertEntry k a es) := by
  have first : r (.ofJson j) = .ok a := value
  induction done generalizing es with
  | nil =>
    cases read
    rw [Dict.insertEntry, Document.ofMembers, Reader.members, first]
    rfl
  | cons e rest ih =>
    obtain ⟨b, second, read⟩ := ok_of_bind read
    obtain ⟨es', later, read⟩ := ok_of_bind read
    cases read
    simp only [Dict.insertEntry]
    split
    · rw [Document.ofMembers, Reader.members, first, Document.ofMembers, Reader.members, second,
        later]
      rfl
    split
    · rw [Document.ofMembers, Reader.members, first, later]
      rfl
    · rw [Document.ofMembers, Reader.members, second, ih later]
      rfl

theorem Steady.members (steady : Steady r) {members done : List (String × Json)}
    {es : List (String × α)} {d : Dict α}
    (read : Reader.members r (Document.ofMembers members) = .ok es)
    (before : Reader.members r (Document.ofMembers done) = .ok d.entries) :
    Reader.members r (Document.ofMembers (sortedMembers members done)) =
      .ok (es.foldl (fun d e => d.insert e.1 e.2) d).entries := by
  induction members generalizing done es d with
  | nil =>
    cases read
    exact before
  | cons e rest ih =>
    obtain ⟨a, first, read⟩ := ok_of_bind read
    obtain ⟨es', later, read⟩ := ok_of_bind read
    cases read
    exact ih (d := d.insert e.1 a) later (members_insertEntry (steady e.2 a first) before)

theorem Steady.dict (steady : Steady r) : Steady (.dict r) := by
  intro j d read
  cases j with
  | obj members =>
    obtain ⟨es, listed, same⟩ := ok_of_bind read
    cases same
    show (Reader.members r (Document.ofMembers (sortedMembers members [])) >>= _) = _
    rw [steady.members (d := .empty) listed rfl]
    exact congrArg Except.ok (Dict.ofList_entries _)
  | _ => cases read

theorem steady_oneOf (names : List (String × α)) : Steady (.oneOf names) := by
  intro j a read
  cases j with
  | str s => exact read
  | obj members =>
    match members with
    | [(s, value)] =>
      obtain ⟨b, found, read⟩ := ok_of_bind read
      cases value with
      | null => exact (congrArg (· >>= _) found).trans read
      | _ => cases read
    | [] => cases read
    | _ :: _ :: _ => cases read
  | _ => cases read

mutual

/-- A document is read as one of any shape by sorting it. -/
theorem any_ofJson : ∀ j : Json, Reader.any (.ofJson j) = .ok j.sorted
  | .null => rfl
  | .bool _ => rfl
  | .num _ => rfl
  | .str _ => rfl
  | .arr items => by
    rw [Document.ofJson, Reader.any, anyItems_ofItems items]
    rfl
  | .obj members => by
    rw [Document.ofJson, Reader.any, anyMembers_ofMembers members]
    rfl

theorem anyItems_ofItems : ∀ items : List Json,
    Reader.anyItems (Document.ofItems items) = .ok (sortedItems items)
  | [] => rfl
  | j :: rest => by
    rw [Document.ofItems, Reader.anyItems, any_ofJson j, anyItems_ofItems rest]
    rfl

theorem anyMembers_ofMembers : ∀ members done : List (String × Json),
    Reader.anyMembers (Document.ofMembers members) done = .ok (sortedMembers members done)
  | [], _ => rfl
  | (k, j) :: rest, done => by
    rw [Document.ofMembers, Reader.anyMembers, any_ofJson j]
    exact anyMembers_ofMembers rest _

end

theorem decode_any {j : Json} (order : j.InOrder) : decode .any j = .ok j :=
  (any_ofJson j).trans (congrArg Except.ok (sorted_of_inOrder j order))

theorem steady_any : Steady .any := by
  intro j a read
  rw [decode, any_ofJson] at read
  cases read
  exact decode_any (inOrder_sorted j)

/-- The same is found in both, but that it has been sorted in the second. -/
def Lookup.Sorts (l l' : Lookup) : Prop :=
  ∀ name index, ∃ found : Except Absence Json, l.find name index = found.map .ofJson ∧
    l'.find name index = found.map fun j => .ofJson j.sorted

theorem Lookup.sorts_named (members : List (String × Json)) :
    Sorts (.named (Document.ofMembers members))
      (.named (Document.ofMembers (sortedMembers members []))) := by
  intro name index
  simp only [Lookup.find, Document.ofMembers_eq, ← List.map_reverse, Dict.lookup_mapValues,
    lookup_reverse (nodup_sortedMembers members), lookup_sortedMembers, List.lookup_nil,
    Option.or_none]
  cases members.reverse.lookup name with
  | none => exact ⟨.error .name, rfl, rfl⟩
  | some j => exact ⟨.ok j, rfl, rfl⟩

theorem Lookup.sorts_placed (items : List Json) (count : Nat) :
    Sorts (.placed ((Document.ofItems items).take count))
      (.placed ((Document.ofItems (sortedItems items)).take count)) := by
  intro name index
  simp only [Lookup.find, Document.ofItems_eq, sortedItems_eq, ← List.map_take,
    List.getElem?_map]
  cases (items.take count)[index]? with
  | none => exact ⟨.error (.place index), rfl, rfl⟩
  | some j => exact ⟨.ok j, rfl, rfl⟩

namespace RecordReader

structure Steady (r : RecordReader α) : Prop where
  checks : ∀ m ∈ r.members, ∀ j, m.2 (.ofJson j) = .ok () → m.2 (.ofJson j.sorted) = .ok ()
  builds : ∀ wanted l l' a, Lookup.Sorts l l' → r.build wanted l = .ok a →
    r.build wanted l' = .ok a

theorem Steady.of (a : α) : RecordReader.Steady (of a) where
  checks := fun _ member => absurd member List.not_mem_nil
  builds := fun _ _ _ _ _ built => built

theorem Steady.member {r : RecordReader (α → β)} {read : Reader α} {absent : Option α}
    (record : r.Steady) (value : Json.Steady read) (name : String) :
    (r.member name read absent).Steady where
  checks := by
    intro m member j readable
    rcases List.mem_append.mp member with before | last
    · exact record.checks m before j readable
    · obtain rfl := List.mem_singleton.mp last
      exact value.map j () readable
  builds := by
    intro wanted l l' b sorts built
    obtain ⟨g, first, built⟩ := ok_of_bind built
    obtain ⟨found, before, after⟩ := sorts name r.members.length
    show (r.build wanted l' >>= _) = _
    rw [record.builds wanted l l' g sorts first]
    dsimp only [bind, Except.bind]
    rw [before] at built
    rw [after]
    cases found with
    | ok j =>
      obtain ⟨a, later, built⟩ := ok_of_bind built
      have later' : read (.ofJson j.sorted) = .ok a := value j a later
      dsimp only [Except.map]
      rw [later']
      exact built
    | error missing => exact built

theorem Steady.read {r : RecordReader α} (record : r.Steady) (name : String) :
    Json.Steady (r.read name) := by
  intro j a read
  cases j with
  | obj members =>
    obtain ⟨visited, built⟩ := decode_obj_iff.mp read
    refine decode_obj_iff.mpr ⟨?_, record.builds _ _ _ a (Lookup.sorts_named members) built⟩
    refine visit_of_passes (fun e member check known => ?_) (nodup_sortedMembers members)
      fun _ _ => List.not_mem_nil
    rcases mem_sortedMembers member with none | ⟨e', before, rfl⟩
    · cases none
    · exact record.checks (e'.1, check) (Dict.mem_of_lookup known) e'.2
        (passes_of_visit visited e' before check known)
  | arr items =>
    obtain ⟨b, built, read⟩ := ok_of_bind read
    have sorts := Lookup.sorts_placed items r.members.length
    have count : (Document.ofItems (sortedItems items)).length =
        (Document.ofItems items).length := by
      simp [Document.ofItems_eq, sortedItems_eq]
    show (r.build _ (.placed ((Document.ofItems (sortedItems items)).take _)) >>= _) = _
    rw [record.builds _ _ _ b sorts built, count]
    exact read
  | _ => cases read

end RecordReader

end MachineFleet.Json
