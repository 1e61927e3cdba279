/-!
Natural numbers of bounded size in decimal digits.
-/

namespace MachineFleet.Text

def isDigit (c : Char) : Bool := '0' ≤ c && c ≤ '9'

def digitsValue (cs : List Char) : Nat := cs.foldl (fun n c => n * 10 + (c.toNat - 48)) 0

def readDigits (bits : Nat) (cs : List Char) : Option Nat :=
  if cs.isEmpty || !cs.all isDigit then none
  else if digitsValue cs < Nat.pow 2 bits then some (digitsValue cs) else none

def readNatural (bits : Nat) (s : String) : Option Nat :=
  match s.toList with
  | '+' :: rest => readDigits bits rest
  | cs => readDigits bits cs

/-- Reads a number of at most `bits` bits, which may have a plus sign; zero may also have a minus
sign. -/
def readSignedNatural (bits : Nat) (s : String) : Option Nat :=
  match s.toList with
  | '-' :: rest => if readDigits bits rest = some 0 then some 0 else none
  | _ => readNatural bits s

end MachineFleet.Text
