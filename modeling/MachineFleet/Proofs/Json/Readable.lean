import MachineFleet.Proofs.Json.Integers

/-!
Documents that a reader of texts takes: they do not nest too deep for it and have no numbers but
integers of 64 bits.
-/

namespace MachineFleet.Json

mutual

/-- The numbers are integers of 64 bits, and at most so many arrays and objects stand inside one
another. -/
def Readable : Nat → Json → Prop
  | _, .num n => n.IsWord
  | levels, .arr items => 0 < levels ∧ ItemsReadable (levels - 1) items
  | levels, .obj members => 0 < levels ∧ MembersReadable (levels - 1) members
  | _, _ => True

def ItemsReadable : Nat → List Json → Prop
  | _, [] => True
  | levels, j :: rest => Readable levels j ∧ ItemsReadable levels rest

def MembersReadable : Nat → List (String × Json) → Prop
  | _, [] => True
  | levels, (_, j) :: rest => Readable levels j ∧ MembersReadable levels rest

end

theorem readable_bool (levels : Nat) (b : Bool) : Readable levels (.bool b) := trivial

theorem readable_str (levels : Nat) (s : String) : Readable levels (.str s) := trivial

theorem itemsReadable_iff {levels : Nat} {items : List Json} :
    ItemsReadable levels items ↔ ∀ j ∈ items, Readable levels j := by
  induction items with
  | nil => simp [ItemsReadable]
  | cons j rest ih => simp [ItemsReadable, ih]

theorem membersReadable_iff {levels : Nat} {members : List (String × Json)} :
    MembersReadable levels members ↔ ∀ e ∈ members, Readable levels e.2 := by
  induction members with
  | nil => simp [MembersReadable]
  | cons e rest ih => simp [MembersReadable, ih]

theorem readable_map {α : Type} {levels : Nat} {write : α → Json}
    (readable : ∀ a, Readable levels (write a)) (as : List α) :
    Readable (levels + 1) (.arr (as.map write)) := by
  refine ⟨Nat.succ_pos levels, itemsReadable_iff.mpr fun j member => ?_⟩
  obtain ⟨a, -, rfl⟩ := List.mem_map.mp member
  exact readable a

theorem readable_ofDict (levels : Nat) (d : Dict String) : Readable (levels + 1) (.ofDict d) := by
  refine ⟨Nat.succ_pos levels, membersReadable_iff.mpr fun e member => ?_⟩
  obtain ⟨_, -, rfl⟩ := List.mem_map.mp member
  exact trivial

theorem membersReadable_insertEntry {levels : Nat} {k : String} {j : Json}
    {members : List (String × Json)} (first : Readable levels j)
    (rest : MembersReadable levels members) :
    MembersReadable levels (Dict.insertEntry k j members) := by
  rw [membersReadable_iff] at rest ⊢
  intro e member
  rcases Dict.mem_insertEntry member with rfl | before
  · exact first
  · exact rest e before

mutual

theorem readable_sorted : ∀ (j : Json) {levels : Nat}, Readable levels j → Readable levels j.sorted
  | .null, _, _ => trivial
  | .bool _, _, _ => trivial
  | .num _, _, word => word
  | .str _, _, _ => trivial
  | .arr items, _, ⟨deep, readable⟩ => ⟨deep, itemsReadable_sorted items readable⟩
  | .obj members, _, ⟨deep, readable⟩ => ⟨deep, membersReadable_sorted members [] readable trivial⟩

theorem itemsReadable_sorted : ∀ (items : List Json) {levels : Nat}, ItemsReadable levels items →
    ItemsReadable levels (sortedItems items)
  | [], _, _ => trivial
  | j :: rest, _, ⟨first, later⟩ => ⟨readable_sorted j first, itemsReadable_sorted rest later⟩

theorem membersReadable_sorted : ∀ (members done : List (String × Json)) {levels : Nat},
    MembersReadable levels members → MembersReadable levels done →
    MembersReadable levels (sortedMembers members done)
  | [], _, _, _, before => before
  | (_, j) :: rest, _, _, ⟨first, later⟩, before =>
    membersReadable_sorted rest _ later
      (membersReadable_insertEntry (readable_sorted j first) before)

end

/-- What a field holds is readable, if it is not left out. -/
def FieldReadable (levels : Nat) (field : Option (String × Json)) : Prop :=
  ∀ e, field = some e → Readable levels e.2

section Fields

variable {levels : Nat} {name : String} {j : Json}

theorem readable_objOf {fields : List (Option (String × Json))}
    (each : ∀ field ∈ fields, FieldReadable levels field) :
    Readable (levels + 1) (.objOf fields) := by
  refine ⟨Nat.succ_pos levels, membersReadable_iff.mpr fun e member => ?_⟩
  obtain ⟨field, listed, present⟩ := List.mem_filterMap.mp member
  exact each field listed e present

theorem FieldReadable.present (readable : Readable levels j) :
    FieldReadable levels (some (name, j)) :=
  fun _ same => Option.some.inj same ▸ readable

theorem FieldReadable.unless {left : Bool} (readable : Readable levels j) :
    FieldReadable levels (if left then none else some (name, j)) := by
  cases left with
  | true => exact nofun
  | false => exact .present readable

theorem FieldReadable.optional {α : Type} {write : α → Json}
    (readable : ∀ a, Readable levels (write a)) (o : Option α) :
    FieldReadable levels (Json.optional name (o.map write)) := by
  cases o with
  | none => exact nofun
  | some a => exact .present (readable a)

end Fields

end MachineFleet.Json
