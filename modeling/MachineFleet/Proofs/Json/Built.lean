import MachineFleet.Json.Decode
import MachineFleet.Proofs.Dict

/-!
Values that were built out of texts or other values are read back as they were.
-/

namespace MachineFleet.Json

variable {α : Type} {r : Reader α} {write : α → Json}

theorem decode_str (s : String) : decode .string (.str s) = .ok s := rfl

theorem items_map (reads : ∀ x, decode r (write x) = .ok x) (xs : List α) :
    Reader.items r (Document.ofItems (xs.map write)) = .ok xs := by
  induction xs with
  | nil => rfl
  | cons x rest ih =>
    have first : r (.ofJson (write x)) = .ok x := reads x
    rw [List.map_cons, Document.ofItems, Reader.items, first, ih]
    rfl

theorem decode_list (reads : ∀ x, decode r (write x) = .ok x) (xs : List α) :
    decode (.list r) (.arr (xs.map write)) = .ok xs := by
  simp only [decode, Document.ofJson, Reader.list, items_map reads]
  rfl

theorem decode_ofList (xs : List String) :
    decode (.list .string) (.ofList xs) = .ok xs :=
  decode_list decode_str xs

theorem members_map (reads : ∀ x, decode r (write x) = .ok x) (es : List (String × α)) :
    Reader.members r (Document.ofMembers (es.map fun e => (e.1, write e.2))) = .ok es := by
  induction es with
  | nil => rfl
  | cons e rest ih =>
    have first : r (.ofJson (write e.2)) = .ok e.2 := reads e.2
    rw [List.map_cons, Document.ofMembers, Reader.members, first, ih]
    rfl

theorem decode_dict (reads : ∀ x, decode r (write x) = .ok x) (d : Dict α) :
    decode (.dict r) (.obj (d.entries.map fun e => (e.1, write e.2))) = .ok d := by
  simp only [decode, Document.ofJson, Reader.dict, members_map reads]
  exact congrArg Except.ok (Dict.ofList_entries d)

theorem decode_ofDict (d : Dict String) : decode (.dict .string) (.ofDict d) = .ok d :=
  decode_dict decode_str d

theorem decode_option {j : Json} {a : α} (value : decode r j = .ok a) (present : j ≠ .null) :
    decode (.option r) j = .ok (some a) := by
  have read : (r (.ofJson j)).map some = .ok (some a) := congrArg (Except.map some) value
  cases j with
  | null => exact absurd rfl present
  | _ => exact read

end MachineFleet.Json
