/-!
Absolute URLs, read as far as a registry mirror needs it: the scheme, the host, and that every
other byte is one that may stand in its place.
-/

namespace MachineFleet.Url

inductive Fault where
  | uriTooLong
  | schemeTooLong
  | empty
  | invalidFormat
  | invalidCharacter
  | invalidAuthority
  deriving DecidableEq, Repr

def Fault.message : Fault → String
  | .uriTooLong => "uri too long"
  | .schemeTooLong => "scheme too long"
  | .empty => "empty string"
  | .invalidFormat => "invalid format"
  | .invalidCharacter => "invalid uri character"
  | .invalidAuthority => "invalid authority"

/-- A URL without a scheme is a path only. -/
structure Parts where
  scheme : Option String
  host : List Char
  deriving DecidableEq, Repr

def isAlphanumeric (c : Char) : Bool :=
  ('a' ≤ c && c ≤ 'z') || ('A' ≤ c && c ≤ 'Z') || ('0' ≤ c && c ≤ '9')

def isSchemeChar (c : Char) : Bool := isAlphanumeric c || c == '+' || c == '-' || c == '.'

def isAuthorityChar (c : Char) : Bool := isAlphanumeric c || "!$&'()*+,-.:;=@[]_~".toList.contains c

def isAuthorityEnd (c : Char) : Bool := c == '/' || c == '?' || c == '#'

structure Seen where
  colons : Nat := 0
  opened : Bool := false
  closed : Bool := false
  percent : Bool := false
  /-- The last character was the one before the host. -/
  atSign : Bool := false

/-- Takes in one character of an authority. Colons and percent signs count anew after the user
information and after the brackets. -/
def Seen.step (s : Seen) (c : Char) : Except Fault Seen :=
  if c = ':' then
    if 8 ≤ s.colons then .error .invalidAuthority
    else .ok { s with colons := s.colons + 1, atSign := false }
  else if c = '[' then
    if s.percent || s.opened then .error .invalidAuthority
    else .ok { s with opened := true, atSign := false }
  else if c = ']' then
    if !s.opened || s.closed then .error .invalidAuthority
    else .ok { s with closed := true, colons := 0, percent := false, atSign := false }
  else if c = '@' then .ok { s with colons := 0, percent := false, atSign := true }
  else if c = '%' then .ok { s with percent := true, atSign := false }
  else if isAuthorityChar c then .ok { s with atSign := false }
  else .error .invalidCharacter

def Seen.run (s : Seen) : List Char → Except Fault Seen
  | [] => .ok s
  | c :: rest => do (← s.step c).run rest

/-- The brackets are balanced, there is one colon for a port at most, something follows the user
information, and no percent sign is left over. -/
def Seen.isComplete (s : Seen) : Bool :=
  s.opened == s.closed && s.colons ≤ 1 && !s.atSign && !s.percent

def checkAuthority (cs : List Char) : Except Fault Unit := do
  if (← ({} : Seen).run cs).isComplete then return () else throw .invalidAuthority

def afterUser (cs : List Char) : List Char := (cs.reverse.takeWhile (· != '@')).reverse

def host (authority : List Char) : List Char :=
  match afterUser authority with
  | '[' :: rest => '[' :: rest.takeWhile (· != ']') ++ [']']
  | cs => cs.takeWhile (· != ':')

def isPathChar (c : Char) : Bool :=
  let n := c.toNat
  n == 0x21 || n == 0x22 || (0x24 ≤ n && n ≤ 0x3b) || n == 0x3d || (0x40 ≤ n && n ≤ 0x5f) ||
    (0x61 ≤ n && n ≤ 0x7e) || 0x80 ≤ n

def isQueryChar (c : Char) : Bool :=
  let n := c.toNat
  n == 0x21 || (0x24 ≤ n && n ≤ 0x3b) || n == 0x3d || (0x3f ≤ n && n ≤ 0x7e) || 0x80 ≤ n

def checkQuery : List Char → Except Fault Unit
  | [] => .ok ()
  | c :: rest =>
    if c = '#' then .ok ()
    else if isQueryChar c then checkQuery rest
    else .error .invalidCharacter

/-- Checks a path, which a question mark ends for a query and a number sign for good. -/
def checkPath : List Char → Except Fault Unit
  | [] => .ok ()
  | c :: rest =>
    if c = '#' then .ok ()
    else if c = '?' then checkQuery rest
    else if isPathChar c then checkPath rest
    else .error .invalidCharacter

def dropCaseless? : List Char → List Char → Option (List Char)
  | [], cs => some cs
  | _ :: _, [] => none
  | w :: ws, c :: cs => if c.toLower = w then dropCaseless? ws cs else none

def maxScheme : Nat := 64

def maxLength : Nat := 65534

def scheme (cs : List Char) : Except Fault (Option (String × List Char)) :=
  match dropCaseless? "http://".toList cs, dropCaseless? "https://".toList cs with
  | some rest, _ => .ok (some ("http", rest))
  | none, some rest => .ok (some ("https", rest))
  | none, none =>
    let name := cs.takeWhile isSchemeChar
    if cs.length ≤ 3 then .ok none
    else match cs.drop name.length with
    | ':' :: '/' :: '/' :: rest =>
      if maxScheme < name.length then .error .schemeTooLong
      else .ok (some (String.ofList name, rest))
    | _ => .ok none

def read (s : String) : Except Fault Parts := do
  let cs := s.toList
  if maxLength < s.utf8ByteSize then throw .uriTooLong
  if cs.head? = some '/' then
    checkPath cs
    return ⟨none, []⟩
  match ← scheme cs with
  | none =>
    checkAuthority (cs.takeWhile fun c => !isAuthorityEnd c)
    throw .invalidFormat
  | some (name, rest) =>
    if rest.isEmpty then throw .empty
    let authority := rest.takeWhile fun c => !isAuthorityEnd c
    checkAuthority authority
    if authority.isEmpty then throw .invalidFormat
    checkPath (rest.drop authority.length)
    return ⟨some name, host authority⟩

end MachineFleet.Url
