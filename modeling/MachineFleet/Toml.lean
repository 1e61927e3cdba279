/-!
TOML documents of nested tables and their text. Every table with values of its own, or with
nothing in it, has a header; a table that only holds tables has none. Of the notations for a
string the first that can hold it without an escape is used, in the order basic, literal,
multi-line basic and multi-line literal.
-/

namespace MachineFleet

inductive Toml where
  | str (s : String)
  | int (n : Nat)
  | bool (b : Bool)
  | strings (items : List String)
  | table (entries : List (String × Toml))
  deriving Repr, Inhabited

namespace Toml

def isControl (c : Char) : Bool := (c.toNat < 0x20 && c != '\t' && c != '\n') || c.toNat == 0x7f

def isBareChar (c : Char) : Bool :=
  ('a' ≤ c && c ≤ 'z') || ('A' ≤ c && c ≤ 'Z') || ('0' ≤ c && c ≤ '9') || c == '_' || c == '-'

def hasRun (x : Char) : List Char → Bool
  | a :: b :: c :: rest => (a == x && b == x && c == x) || hasRun x (b :: c :: rest)
  | _ => false

def hexDigit (n : Nat) : Char := if n < 10 then Char.ofNat (48 + n) else Char.ofNat (55 + n)

def escapeChar (c : Char) : List Char :=
  if c = '\x08' then ['\\', 'b']
  else if c = '\t' then ['\\', 't']
  else if c = '\x0c' then ['\\', 'f']
  else if c = '\r' then ['\\', 'r']
  else if c = '\\' then ['\\', '\\']
  else if isControl c then
    ['\\', 'u', '0', '0', hexDigit (c.toNat / 16), hexDigit (c.toNat % 16)]
  else [c]

def escapeLine : List Char → List Char
  | [] => []
  | c :: rest =>
    (if c = '"' then ['\\', '"'] else if c = '\n' then ['\\', 'n'] else escapeChar c) ++
      escapeLine rest

/-- The characters of a string of several lines, after `marks` quotation marks in a row; a third
one is escaped. -/
def escapeLines (marks : Nat) : List Char → List Char
  | [] => []
  | c :: rest =>
    if c = '"' then
      if marks = 2 then '\\' :: '"' :: escapeLines 0 rest else '"' :: escapeLines (marks + 1) rest
    else if c = '\n' then '\n' :: escapeLines 0 rest
    else escapeChar c ++ escapeLines 0 rest

def basic (cs : List Char) : List Char := '"' :: escapeLine cs ++ ['"']

def literal (cs : List Char) : List Char := '\'' :: cs ++ ['\'']

def opening (cs : List Char) : List Char := if cs.contains '\n' then ['\n'] else []

def multiBasic (cs : List Char) : List Char :=
  ['"', '"', '"'] ++ opening cs ++ escapeLines 0 cs ++ ['"', '"', '"']

def multiLiteral (cs : List Char) : List Char :=
  ['\'', '\'', '\''] ++ opening cs ++ cs ++ ['\'', '\'', '\'']

def stringText (s : String) : List Char :=
  let cs := s.toList
  let control := cs.any isControl
  let backslash := cs.contains '\\'
  let lines := cs.contains '\n'
  if !control && !backslash && !lines && !cs.contains '"' then basic cs
  else if !control && !lines && !cs.contains '\'' then literal cs
  else if !control && !backslash && !hasRun '"' cs then multiBasic cs
  else if !control && !hasRun '\'' cs then multiLiteral cs
  else if lines then multiBasic cs
  else basic cs

def keyText (s : String) : List Char :=
  let cs := s.toList
  let control := cs.any fun c => isControl c || c == '\n'
  if !cs.isEmpty && cs.all isBareChar then cs
  else if !control && !cs.contains '\\' && !cs.contains '"' then basic cs
  else if !control && !cs.contains '\'' then literal cs
  else basic cs

def joinWith (sep : List Char) : List (List Char) → List Char
  | [] => []
  | [t] => t
  | t :: rest => t ++ sep ++ joinWith sep rest

def valueText : Toml → List Char
  | .str s => stringText s
  | .int n => Nat.toDigits 10 n
  | .bool b => (if b then "true" else "false").toList
  | .strings items => '[' :: joinWith [',', ' '] (items.map stringText) ++ [']']
  | .table _ => []

def isTable : Toml → Bool
  | .table _ => true
  | _ => false

def ownLines : List (String × Toml) → List Char
  | [] => []
  | (k, v) :: rest =>
    (if v.isTable then [] else keyText k ++ [' ', '=', ' '] ++ valueText v ++ ['\n']) ++
      ownLines rest

def header (path : List String) : List Char :=
  '[' :: joinWith ['.'] (path.map keyText) ++ [']', '\n']

def hasHeader (entries : List (String × Toml)) : Bool :=
  entries.isEmpty || entries.any fun e => !e.2.isTable

mutual

def sections (path : List String) : Toml → List (List Char)
  | .table entries =>
    (if hasHeader entries then [header path ++ ownLines entries] else []) ++
      subsections path entries
  | _ => []

def subsections (path : List String) : List (String × Toml) → List (List Char)
  | [] => []
  | (k, v) :: rest => sections (path ++ [k]) v ++ subsections path rest

end

/-- The text of a document: the values that belong to no table, and then the sections, with an
empty line before each but the first part. -/
def documentText (entries : List (String × Toml)) : List Char :=
  let own := ownLines entries
  joinWith ['\n'] ((if own.isEmpty then [] else [own]) ++ subsections [] entries)

mutual

/-- Every integer is one of 64 bits with a sign. -/
def fits : Toml → Bool
  | .int n => n < Nat.pow 2 63
  | .table entries => fitsAll entries
  | _ => true

def fitsAll : List (String × Toml) → Bool
  | [] => true
  | (_, v) :: rest => fits v && fitsAll rest

end

def encode (entries : List (String × Toml)) : Except String (List Char) :=
  if fitsAll entries then .ok (documentText entries)
  else .error "out-of-range value for u64 type"

end Toml

end MachineFleet
