import MachineFleet.Json.Basic

/-!
The text of JSON values: one without any white space, and one with a line for every item and
member. Inside strings the quotation mark, the backslash and the characters below the space are
escaped and everything else stands for itself.
-/

namespace MachineFleet.Json

def Number.text : Number → List Char
  | .int n => if n < 0 then '-' :: Nat.toDigits 10 n.natAbs else Nat.toDigits 10 n.natAbs
  | .float x => Decimal.format x

def escapeChar (c : Char) : List Char :=
  if c = '"' then ['\\', '"']
  else if c = '\\' then ['\\', '\\']
  else if c = '\x08' then ['\\', 'b']
  else if c = '\x0c' then ['\\', 'f']
  else if c = '\n' then ['\\', 'n']
  else if c = '\r' then ['\\', 'r']
  else if c = '\t' then ['\\', 't']
  else if c.toNat < 0x20 then
    ['\\', 'u', '0', '0', Nat.digitChar (c.toNat / 16), Nat.digitChar (c.toNat % 16)]
  else [c]

def stringText (s : String) : List Char := '"' :: s.toList.flatMap escapeChar ++ ['"']

mutual

def compactText : Json → List Char
  | .null => "null".toList
  | .bool b => (if b then "true" else "false").toList
  | .num n => n.text
  | .str s => stringText s
  | .arr items => '[' :: compactItems items ++ [']']
  | .obj members => '\x7b' :: compactMembers members ++ ['\x7d']

def compactItems : List Json → List Char
  | [] => []
  | [j] => compactText j
  | j :: rest => compactText j ++ ',' :: compactItems rest

def compactMembers : List (String × Json) → List Char
  | [] => []
  | [(k, j)] => stringText k ++ ':' :: compactText j
  | (k, j) :: rest => stringText k ++ ':' :: compactText j ++ ',' :: compactMembers rest

end

def compact (j : Json) : String := String.ofList (compactText j)

def newline (depth : Nat) : List Char := '\n' :: List.replicate (2 * depth) ' '

mutual

/-- The text with one line for each item and member; empty arrays and objects stay on one line. -/
def prettyText (depth : Nat) : Json → List Char
  | .arr [] => ['[', ']']
  | .arr (j :: rest) => '[' :: prettyItems depth (j :: rest) ++ newline depth ++ [']']
  | .obj [] => ['\x7b', '\x7d']
  | .obj (m :: rest) => '\x7b' :: prettyMembers depth (m :: rest) ++ newline depth ++ ['\x7d']
  | .null => "null".toList
  | .bool b => (if b then "true" else "false").toList
  | .num n => n.text
  | .str s => stringText s

def prettyItems (depth : Nat) : List Json → List Char
  | [] => []
  | [j] => newline (depth + 1) ++ prettyText (depth + 1) j
  | j :: rest => newline (depth + 1) ++ prettyText (depth + 1) j ++ ',' :: prettyItems depth rest

def prettyMembers (depth : Nat) : List (String × Json) → List Char
  | [] => []
  | [(k, j)] => newline (depth + 1) ++ stringText k ++ ':' :: ' ' :: prettyText (depth + 1) j
  | (k, j) :: rest =>
    newline (depth + 1) ++ stringText k ++ ':' :: ' ' :: prettyText (depth + 1) j ++
      ',' :: prettyMembers depth rest

end

def pretty (j : Json) : String := String.ofList (prettyText 0 j)

/-- Encoding fails on keys that are not texts, and the members of a value have none. -/
def encodePretty (j : Json) : Except String String := .ok j.pretty

end MachineFleet.Json
