import MachineFleet.Json.Numeral

/-!
Texts as trees of what has been written, up to the first place where the text is malformed.
A reader that walks such a tree in order meets a value of the wrong type and a malformed place in
the order in which they stand in the text, so the first fault in the text is the one it reports.
Members keep the order of the text, repeated keys included.
-/

namespace MachineFleet.Json

/-- How an array or object ends: with its bracket, at a key that cannot be read in a text that is
otherwise sound, or at a malformed place. -/
inductive Ending where
  | closed
  | refused
  | broken
  deriving DecidableEq, Repr

/-- A text as written. `refused` is sound but cannot be read: a number that is too large, a string
with an unpaired surrogate, or too many levels of nesting. `broken` is malformed. The last three
do not occur in JSON: `blank` is a null that also stands for an empty list or record, `sequence` a
list that does not stand for a record, and `special` a number that is not finite. -/
inductive Document where
  | null
  | bool (b : Bool)
  | num (n : Number)
  | str (s : String)
  | arr (items : List Document) (ending : Ending)
  | obj (members : List (String × Document)) (ending : Ending)
  | refused
  | broken
  | blank
  | sequence (items : List Document)
  | special (name : String)
  deriving Repr, Inhabited

namespace Document

mutual

def isSound : Document → Bool
  | .arr items ending => ending != .broken && allSound items
  | .obj members ending => ending != .broken && allMembersSound members
  | .sequence items => allSound items
  | .broken => false
  | _ => true

def allSound : List Document → Bool
  | [] => true
  | d :: rest => d.isSound && allSound rest

def allMembersSound : List (String × Document) → Bool
  | [] => true
  | (_, d) :: rest => d.isSound && allMembersSound rest

end

mutual

def ofJson : Json → Document
  | .null => .null
  | .bool b => .bool b
  | .num n => .num n
  | .str s => .str s
  | .arr items => .arr (ofItems items) .closed
  | .obj members => .obj (ofMembers members) .closed

def ofItems : List Json → List Document
  | [] => []
  | j :: rest => ofJson j :: ofItems rest

def ofMembers : List (String × Json) → List (String × Document)
  | [] => []
  | (k, j) :: rest => (k, ofJson j) :: ofMembers rest

end

def skipSpace (cs : List Char) : List Char :=
  cs.dropWhile fun c => c == ' ' || c == '\n' || c == '\t' || c == '\r'

def hexValue? (c : Char) : Option Nat :=
  if '0' ≤ c ∧ c ≤ '9' then some (c.toNat - 48)
  else if 'a' ≤ c ∧ c ≤ 'f' then some (c.toNat - 87)
  else if 'A' ≤ c ∧ c ≤ 'F' then some (c.toNat - 55)
  else none

def codeUnit? (a b c d : Char) : Option Nat := do
  return (((← hexValue? a) * 16 + (← hexValue? b)) * 16 + (← hexValue? c)) * 16 + (← hexValue? d)

def isHighSurrogate (n : Nat) : Bool := 0xD800 ≤ n && n ≤ 0xDBFF

def isLowSurrogate (n : Nat) : Bool := 0xDC00 ≤ n && n ≤ 0xDFFF

def escaped? (c : Char) : Option Char :=
  if c = '"' ∨ c = '\\' ∨ c = '/' then some c
  else if c = 'b' then some '\x08'
  else if c = 'f' then some '\x0c'
  else if c = 'n' then some '\n'
  else if c = 'r' then some '\r'
  else if c = 't' then some '\t'
  else none

inductive Piece where
  | char (c : Char)
  | unit (n : Nat)

def readPieces : List Char → Option (List Piece × List Char)
  | [] => none
  | '"' :: rest => some ([], rest)
  | '\\' :: 'u' :: a :: b :: c :: d :: rest =>
    match codeUnit? a b c d with
    | none => none
    | some n => (readPieces rest).map fun r => (.unit n :: r.1, r.2)
  | '\\' :: c :: rest =>
    match escaped? c with
    | none => none
    | some e => (readPieces rest).map fun r => (.char e :: r.1, r.2)
  | c :: rest =>
    if c = '\\' ∨ c.toNat < 0x20 then none
    else (readPieces rest).map fun r => (.char c :: r.1, r.2)

def pairChar (high low : Nat) : Char :=
  Char.ofNat (0x10000 + (high - 0xD800) * 0x400 + (low - 0xDC00))

def joinPieces : List Piece → Option (List Char)
  | [] => some []
  | .char c :: rest => (joinPieces rest).map (c :: ·)
  | .unit n :: .unit m :: rest =>
    if isHighSurrogate n then
      if isLowSurrogate m then (joinPieces rest).map (pairChar n m :: ·) else none
    else if isLowSurrogate n then none
    else (joinPieces (.unit m :: rest)).map (Char.ofNat n :: ·)
  | .unit n :: rest =>
    if isHighSurrogate n || isLowSurrogate n then none
    else (joinPieces rest).map (Char.ofNat n :: ·)

/-- Reads a string after its opening quotation mark; the text is missing where a surrogate is
unpaired. -/
def readString (cs : List Char) : Option (Option String × List Char) :=
  (readPieces cs).map fun r => ((joinPieces r.1).map String.ofList, r.2)

def dropWord? : List Char → List Char → Option (List Char)
  | [], cs => some cs
  | w :: ws, c :: cs => if w = c then dropWord? ws cs else none
  | _ :: _, [] => none

def readWord (word : List Char) (d : Document) (cs : List Char) : Document × Option (List Char) :=
  match dropWord? word cs with
  | some rest => (d, some rest)
  | none => (.broken, none)

def maxDepth : Nat := 127

def atDepth (depth : Nat) (d : Document) : Document :=
  if depth ≤ maxDepth then d else if d.isSound then .refused else .broken

mutual

/-- Reads one value inside `depth` arrays and objects. The rest of the text is given where the
value is sound. -/
def readValue : Nat → Nat → List Char → Document × Option (List Char)
  | 0, _, _ => (.broken, none)
  | fuel + 1, depth, cs =>
    match skipSpace cs with
    | [] => (.broken, none)
    | '"' :: rest =>
      match readString rest with
      | none => (.broken, none)
      | some (some s, rest) => (.str s, some rest)
      | some (none, rest) => (.refused, some rest)
    | '[' :: rest =>
      let (items, ending, rest) := readItems fuel (depth + 1) true rest
      (atDepth (depth + 1) (.arr items ending), rest)
    | '\x7b' :: rest =>
      let (members, ending, rest) := readMembers fuel (depth + 1) true rest
      (atDepth (depth + 1) (.obj members ending), rest)
    | 'n' :: rest => readWord ['u', 'l', 'l'] .null rest
    | 't' :: rest => readWord ['r', 'u', 'e'] (.bool true) rest
    | 'f' :: rest => readWord ['a', 'l', 's', 'e'] (.bool false) rest
    | cs =>
      match Numeral.read cs with
      | none => (.broken, none)
      | some (.number n, rest) => (.num n, some rest)
      | some (.huge, rest) => (.refused, some rest)

/-- Reads the items of an array up to its bracket; `first` before any item was read. -/
def readItems : Nat → Nat → Bool → List Char → List Document × Ending × Option (List Char)
  | 0, _, _, _ => ([], .broken, none)
  | fuel + 1, depth, first, cs =>
    match skipSpace cs, first with
    | ']' :: rest, _ => ([], .closed, some rest)
    | ',' :: rest, false =>
      match skipSpace rest with
      | ']' :: _ => ([], .broken, none)
      | rest => readItem fuel depth rest
    | cs, true => readItem fuel depth cs
    | _, false => ([], .broken, none)

def readItem : Nat → Nat → List Char → List Document × Ending × Option (List Char)
  | 0, _, _ => ([], .broken, none)
  | fuel + 1, depth, cs =>
    match readValue fuel depth cs with
    | (d, none) => ([d], .broken, none)
    | (d, some rest) =>
      let (items, ending, rest) := readItems fuel depth false rest
      (d :: items, ending, rest)

def readMembers : Nat → Nat → Bool → List Char →
    List (String × Document) × Ending × Option (List Char)
  | 0, _, _, _ => ([], .broken, none)
  | fuel + 1, depth, first, cs =>
    match skipSpace cs, first with
    | '\x7d' :: rest, _ => ([], .closed, some rest)
    | ',' :: rest, false => readMember fuel depth (skipSpace rest)
    | cs, true => readMember fuel depth cs
    | _, false => ([], .broken, none)

def readMember : Nat → Nat → List Char → List (String × Document) × Ending × Option (List Char)
  | 0, _, _ => ([], .broken, none)
  | fuel + 1, depth, cs =>
    match cs with
    | '"' :: rest =>
      match readString rest with
      | none => ([], .broken, none)
      | some (key, rest) =>
        let (d, rest) := match skipSpace rest with
          | ':' :: rest => readValue fuel depth rest
          | _ => (.broken, none)
        let (members, ending, rest) := match rest with
          | none => ([], Ending.broken, none)
          | some rest => readMembers fuel depth false rest
        match key with
        | some k => ((k, d) :: members, ending, rest)
        | none => ([], if ending = .broken then .broken else .refused, rest)
    | _ => ([], .broken, none)

end

end Document

structure Text where
  root : Document
  ends : Bool

/-- Reads a whole text. Each call for a character makes at most three more before the next. -/
def Text.read (s : String) : Text :=
  let cs := s.toList
  match Document.readValue (4 * cs.length + 4) 0 cs with
  | (d, some rest) => ⟨d, (Document.skipSpace rest).isEmpty⟩
  | (d, none) => ⟨d, false⟩

end MachineFleet.Json
