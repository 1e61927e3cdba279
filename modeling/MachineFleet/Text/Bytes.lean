/-!
Bytes that should be a text in UTF-8, and need not be one.
-/

namespace MachineFleet.Text

/-- The characters from a place on. For each byte that belongs to no character, none stands. -/
def charsFrom (bytes : ByteArray) (i : Nat) : List (Option Char) :=
  if i < bytes.size then
    match bytes.utf8DecodeChar? i with
    | some c => some c :: charsFrom bytes (i + c.utf8Size)
    | none => none :: charsFrom bytes (i + 1)
  else []
  termination_by bytes.size - i
  decreasing_by
    · have := c.utf8Size_pos
      omega
    · omega

end MachineFleet.Text
