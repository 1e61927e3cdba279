import MachineFleet.Json.Decode
import MachineFleet.Proofs.Dict
import MachineFleet.Proofs.Outcome

/-!
Documents whose members are in key order at every depth, one for each key. Sorting makes a document
so and changes none that is so already, and every document that is read is one.
-/

namespace MachineFleet.Json

mutual

/-- The members of every object are in key order, one for each key. -/
def InOrder : Json → Prop
  | .arr items => ItemsInOrder items
  | .obj members => Dict.Ordered members ∧ MembersInOrder members
  | _ => True

def ItemsInOrder : List Json → Prop
  | [] => True
  | j :: rest => j.InOrder ∧ ItemsInOrder rest

def MembersInOrder : List (String × Json) → Prop
  | [] => True
  | (_, j) :: rest => j.InOrder ∧ MembersInOrder rest

end

theorem membersInOrder_iff {members : List (String × Json)} :
    MembersInOrder members ↔ ∀ e ∈ members, e.2.InOrder := by
  induction members with
  | nil => simp [MembersInOrder]
  | cons e rest ih => simp [MembersInOrder, ih]

theorem membersInOrder_insertEntry {k : String} {j : Json} {members : List (String × Json)}
    (first : j.InOrder) (rest : MembersInOrder members) :
    MembersInOrder (Dict.insertEntry k j members) := by
  rw [membersInOrder_iff] at rest ⊢
  intro e member
  rcases Dict.mem_insertEntry member with rfl | before
  · exact first
  · exact rest e before

mutual

theorem inOrder_sorted : ∀ j : Json, j.sorted.InOrder
  | .null => trivial
  | .bool _ => trivial
  | .num _ => trivial
  | .str _ => trivial
  | .arr items => itemsInOrder_sorted items
  | .obj members => membersInOrder_sorted members [] List.Pairwise.nil trivial

theorem itemsInOrder_sorted : ∀ items : List Json, ItemsInOrder (sortedItems items)
  | [] => trivial
  | j :: rest => ⟨inOrder_sorted j, itemsInOrder_sorted rest⟩

theorem membersInOrder_sorted : ∀ members done : List (String × Json), Dict.Ordered done →
    MembersInOrder done →
    Dict.Ordered (sortedMembers members done) ∧ MembersInOrder (sortedMembers members done)
  | [], _, ordered, values => ⟨ordered, values⟩
  | (k, j) :: rest, _, ordered, values =>
    membersInOrder_sorted rest _ (Dict.ordered_insertEntry k j.sorted ordered)
      (membersInOrder_insertEntry (inOrder_sorted j) values)

end

mutual

theorem sorted_of_inOrder : ∀ j : Json, j.InOrder → j.sorted = j
  | .null, _ => rfl
  | .bool _, _ => rfl
  | .num _, _ => rfl
  | .str _, _ => rfl
  | .arr items, h => congrArg Json.arr (sortedItems_of_inOrder items h)
  | .obj members, h => congrArg Json.obj (sortedMembers_of_inOrder members [] h.1 h.2)

theorem sortedItems_of_inOrder : ∀ items : List Json, ItemsInOrder items → sortedItems items = items
  | [], _ => rfl
  | j :: rest, h => by
    rw [sortedItems, sorted_of_inOrder j h.1, sortedItems_of_inOrder rest h.2]

/-- Members in order are put behind those before them, one by one. -/
theorem sortedMembers_of_inOrder : ∀ members done : List (String × Json),
    Dict.Ordered (done ++ members) → MembersInOrder members →
    sortedMembers members done = done ++ members
  | [], done, _, _ => by rw [sortedMembers, List.append_nil]
  | (k, j) :: rest, done, ordered, values => by
    have beyond : ∀ e ∈ done, e.1 < k := fun e member =>
      (List.pairwise_append.mp ordered).2.2 e member (k, j) List.mem_cons_self
    rw [List.append_cons] at ordered ⊢
    rw [sortedMembers, sorted_of_inOrder j values.1, Dict.insertEntry_last k j beyond]
    exact sortedMembers_of_inOrder rest (done ++ [(k, j)]) ordered values.2

end

mutual

/-- A document of any shape that has been read is in order. -/
theorem inOrder_any : ∀ (d : Document) {j : Json}, Reader.any d = .ok j → j.InOrder
  | .null, _, read => by cases read; trivial
  | .bool _, _, read => by cases read; trivial
  | .num _, _, read => by cases read; trivial
  | .str _, _, read => by cases read; trivial
  | .refused, _, read => by cases read
  | .broken, _, read => by cases read
  | .blank, _, read => by cases read; trivial
  | .special _, _, read => by cases read; trivial
  | .arr ds ending, _, read => by
    obtain ⟨js, items, read⟩ := ok_of_bind read
    obtain ⟨_, -, read⟩ := ok_of_bind read
    cases read
    exact itemsInOrder_any ds items
  | .sequence ds, _, read => by
    obtain ⟨js, items, read⟩ := ok_of_bind read
    cases read
    exact itemsInOrder_any ds items
  | .obj ms ending, _, read => by
    obtain ⟨js, members, read⟩ := ok_of_bind read
    obtain ⟨_, -, read⟩ := ok_of_bind read
    cases read
    exact membersInOrder_any ms [] List.Pairwise.nil trivial members

theorem itemsInOrder_any : ∀ (ds : List Document) {js : List Json},
    Reader.anyItems ds = .ok js → ItemsInOrder js
  | [], _, read => by cases read; trivial
  | d :: rest, _, read => by
    obtain ⟨j, first, read⟩ := ok_of_bind read
    obtain ⟨js, later, read⟩ := ok_of_bind read
    cases read
    exact ⟨inOrder_any d first, itemsInOrder_any rest later⟩

theorem membersInOrder_any : ∀ (ms : List (String × Document)) (done : List (String × Json))
    {js : List (String × Json)}, Dict.Ordered done → MembersInOrder done →
    Reader.anyMembers ms done = .ok js → Dict.Ordered js ∧ MembersInOrder js
  | [], _, _, ordered, values, read => by
    cases read
    exact ⟨ordered, values⟩
  | (k, d) :: rest, _, _, ordered, values, read => by
    obtain ⟨j, first, read⟩ := ok_of_bind read
    exact membersInOrder_any rest _ (Dict.ordered_insertEntry k j ordered)
      (membersInOrder_insertEntry (inOrder_any d first) values) read

end

/-- Every value that is read has a property. -/
def Gives {α : Type} (P : α → Prop) (r : Reader α) : Prop := ∀ d a, r d = .ok a → P a

variable {α β : Type} {P : α → Prop} {Q : β → Prop}

theorem gives_true (r : Reader α) : Gives (fun _ => True) r := fun _ _ _ => trivial

theorem gives_integer (low high : Int) (wanted : String) :
    Gives (fun n => low ≤ n ∧ n ≤ high) (.integer low high wanted) := by
  intro d n read
  unfold Reader.integer at read
  split at read
  · split at read
    · rename_i range
      cases read
      exact range
    · cases read
  · cases read

theorem gives_natural (bits : Nat) (wanted : String) :
    Gives (fun n => n < Nat.pow 2 bits) (.natural bits wanted) := by
  intro d n read
  obtain ⟨i, value, rfl⟩ := ok_of_map read
  have range := gives_integer _ _ _ d i value
  omega

theorem Gives.option {S : Option α → Prop} {r : Reader α} (absent : S none)
    (present : Gives (fun a => S (some a)) r) : Gives S (.option r) := by
  intro d o read
  have within : (r d).map some = .ok o → S o := by
    intro found
    obtain ⟨a, value, rfl⟩ := ok_of_map found
    exact present d a value
  cases d with
  | null => cases read; exact absent
  | blank => cases read; exact absent
  | _ => exact within read

namespace RecordReader

/-- Every record that is built has a property. -/
def Gives (P : α → Prop) (r : RecordReader α) : Prop :=
  ∀ wanted l a, r.build wanted l = .ok a → P a

theorem gives_of {a : α} (holds : P a) : Gives P (of a) := by
  intro _ _ _ built
  cases built
  exact holds

theorem Gives.member {r : RecordReader (α → β)} {read : Reader α} {absent : Option α}
    (record : Gives (fun g => ∀ a, P a → Q (g a)) r) (value : Json.Gives P read)
    (default : ∀ a, absent = some a → P a) (name : String) :
    Gives Q (r.member name read absent) := by
  intro wanted l b built
  obtain ⟨g, first, built⟩ := ok_of_bind built
  have holds := record wanted l g first
  cases found : l.find name r.members.length with
  | ok d =>
    rw [found] at built
    obtain ⟨a, later, built⟩ := ok_of_bind built
    cases built
    exact holds a (value d a later)
  | error missing =>
    rw [found] at built
    cases absent with
    | some a =>
      cases built
      exact holds a (default a rfl)
    | none => cases missing <;> cases built

theorem Gives.required {r : RecordReader (α → β)} {read : Reader α}
    (record : Gives (fun g => ∀ a, P a → Q (g a)) r) (value : Json.Gives P read) (name : String) :
    Gives Q (r.required name read) :=
  record.member value (fun _ same => by cases same) name

theorem Gives.orElse {r : RecordReader (α → β)} {read : Reader α} {absent : α}
    (record : Gives (fun g => ∀ a, P a → Q (g a)) r) (value : Json.Gives P read)
    (default : P absent) (name : String) : Gives Q (r.orElse name read absent) :=
  record.member value (fun _ same => Option.some.inj same ▸ default) name

theorem Gives.read {r : RecordReader α} (record : Gives P r) (name : String) :
    Json.Gives P (r.read name) := by
  intro d a read
  cases d with
  | obj ms ending =>
    obtain ⟨_, -, read⟩ := ok_of_bind read
    obtain ⟨_, -, read⟩ := ok_of_bind read
    exact record _ _ a read
  | arr ds ending =>
    obtain ⟨b, built, read⟩ := ok_of_bind read
    split at read
    · cases read
    split at read
    · cases read
    · cases read
      exact record _ _ a built
  | blank => exact record _ _ a read
  | _ => cases read

end RecordReader

end MachineFleet.Json
