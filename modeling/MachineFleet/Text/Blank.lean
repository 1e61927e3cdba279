/-!
White space and trimming. The blank characters are those with the Unicode property
`White_Space`; trimming removes every blank at an end and nothing else.
-/

namespace MachineFleet.Text

def isBlank (c : Char) : Bool :=
  let n := c.toNat
  (0x09 ≤ n && n ≤ 0x0d) || n == 0x20 || n == 0x85 || n == 0xa0 || n == 0x1680 ||
    (0x2000 ≤ n && n ≤ 0x200a) || n == 0x2028 || n == 0x2029 || n == 0x202f ||
    n == 0x205f || n == 0x3000

def dropBlanks (cs : List Char) : List Char := cs.dropWhile isBlank

def dropTrailingBlanks (cs : List Char) : List Char := (dropBlanks cs.reverse).reverse

def trimChars (cs : List Char) : List Char := dropTrailingBlanks (dropBlanks cs)

def trim (s : String) : String := String.ofList (trimChars s.toList)

def trimEnd (s : String) : String := String.ofList (dropTrailingBlanks s.toList)

def isAllBlank (s : String) : Bool := s.toList.all isBlank

end MachineFleet.Text
