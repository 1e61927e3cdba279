import MachineFleet.Text.Printable

/-!
Texts and characters between quotation marks, as messages show them: tab, carriage return, line
feed, backslash and the mark itself are escaped with a backslash, NUL is `\0`, and a character
that is not shown is written as its code point.
-/

namespace MachineFleet.Text

def quotedChar (mark c : Char) : List Char :=
  if c = '\x00' then ['\\', '0']
  else if c = '\t' then ['\\', 't']
  else if c = '\r' then ['\\', 'r']
  else if c = '\n' then ['\\', 'n']
  else if c = '\\' then ['\\', '\\']
  else if c = mark then ['\\', mark]
  else if isShown c then [c]
  else ['\\', 'u', '\x7b'] ++ Nat.toDigits 16 c.toNat ++ ['\x7d']

def quote (s : String) : String :=
  String.ofList ('"' :: s.toList.flatMap (quotedChar '"') ++ ['"'])

def quoteChar (c : Char) : String :=
  String.ofList ('\'' :: quotedChar '\'' c ++ ['\''])

end MachineFleet.Text
