/-!
Paths below the address of a service.
-/

namespace MachineFleet.Text

theorem path_outside {base area path : String} (n : Nat) (within : n ≤ area.toList.length)
    (differs : path.toList.take n ≠ area.toList.take n) :
    ∀ rest, base ++ path ≠ base ++ (area ++ rest) := by
  intro rest same
  have tails := (String.append_right_inj base).mp same
  apply differs
  rw [tails, String.toList_append, List.take_append_of_le_length within]

/-- The last part of a path tells which one it is. -/
theorem last_of_path {base area a b : String} (same : base ++ (area ++ a) = base ++ (area ++ b)) :
    a = b := by
  have tails := (String.append_right_inj base).mp same
  exact (String.append_right_inj area).mp tails

/-- What comes after the address of a service and a slash. -/
def below (base path : String) : String :=
  String.ofList (path.toList.drop (base.toList.length + 1))

theorem below_append (base path : String) :
    below base (base ++ path) = String.ofList (path.toList.drop 1) := by
  unfold below
  rw [String.toList_append, List.drop_append, List.drop_of_length_le (by omega), List.nil_append]
  congr 2
  omega

theorem below_slash (base area : String) : below base (base ++ ("/" ++ area)) = area := by
  rw [below_append, String.toList_append]
  exact String.ofList_toList

end MachineFleet.Text
