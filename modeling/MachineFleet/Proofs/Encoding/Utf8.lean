import Mathlib.Data.List.Basic

/-!
Texts and their bytes in UTF-8.
-/

namespace MachineFleet

theorem fromUTF8?_eq_some_iff {bytes : ByteArray} {s : String} :
    String.fromUTF8? bytes = some s ↔ bytes = s.toUTF8 := by
  unfold String.fromUTF8?
  constructor
  · intro read
    split at read
    · cases read
      rfl
    · cases read
  · rintro rfl
    rw [String.toUTF8_eq_toByteArray, dif_pos s.isValidUTF8]
    rfl

theorem toList_loop (bytes : ByteArray) (i : Nat) (before : List UInt8) :
    ByteArray.toList.loop bytes i before = before.reverse ++ bytes.data.toList.drop i := by
  fun_induction ByteArray.toList.loop bytes i before with
  | case1 i before below ih =>
    have inside : i < bytes.data.toList.length := below
    have here : bytes.get! i = bytes.data.toList[i] := getElem!_pos bytes.data i below
    rw [ih, List.reverse_cons, List.append_assoc, List.singleton_append,
      List.drop_eq_getElem_cons inside, here]
  | case2 i before beyond =>
    rw [List.drop_eq_nil_of_le (by simpa using beyond), List.append_nil]

theorem toList_eq (bytes : ByteArray) : bytes.toList = bytes.data.toList :=
  toList_loop bytes 0 []

end MachineFleet
