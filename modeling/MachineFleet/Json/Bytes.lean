import MachineFleet.Json.Decode
import MachineFleet.Text.Bytes

/-!
JSON documents in bytes. Where the bytes are no text, they can still be read, if those at fault
stand in strings that nobody reads: such a string only has to end.
-/

namespace MachineFleet.Json

/-- The text with what stands for the bytes that belong to no character. An unpaired surrogate is
as good: a string with one can be passed over but not read, and it can stand nowhere else. Behind
a backslash, where it would be taken apart, stands a character that cannot be escaped. -/
def spellBytes (escaping : Bool) : List (Option Char) → List Char
  | [] => []
  | some c :: rest => c :: spellBytes (c == '\\' && !escaping) rest
  | none :: rest =>
    (if escaping then ['\x00'] else ['\\', 'u', 'd', '8', '0', '0', ' ']) ++ spellBytes false rest

def bytesText (bytes : ByteArray) : String :=
  match String.fromUTF8? bytes with
  | some s => s
  | none => String.ofList (spellBytes false (Text.charsFrom bytes 0))

def decodeBytes {α : Type} (r : Reader α) (bytes : ByteArray) : Except DecodeError α :=
  decodeText r (bytesText bytes)

end MachineFleet.Json
