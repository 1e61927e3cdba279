import MachineFleet.Text.Blank
import MachineFleet.Text.Quoted
import MachineFleet.Text.Split

/-!
Semantic versions, and the kubelet versions that are read as such. A version has three numbers
without leading zeros, then optionally a pre-release after a hyphen and build metadata after a
plus sign, each a list of segments joined by dots.
-/

namespace MachineFleet

structure Version where
  major : Nat
  minor : Nat
  patch : Nat
  pre : String := ""
  build : String := ""
  deriving DecidableEq, Repr, Inhabited

namespace Version

inductive Part where
  | major
  | minor
  | patch
  | pre
  | build
  deriving DecidableEq, Repr

def Part.name : Part → String
  | .major => "major version number"
  | .minor => "minor version number"
  | .patch => "patch version number"
  | .pre => "pre-release identifier"
  | .build => "build metadata"

inductive Fault where
  | empty
  | unexpectedEnd (part : Part)
  | unexpectedChar (part : Part) (c : Char)
  | unexpectedAfter (part : Part) (c : Char)
  | leadingZero (part : Part)
  | overflow (part : Part)
  | emptySegment (part : Part)
  deriving DecidableEq, Repr

def Fault.message : Fault → String
  | .empty => "empty string, expected a semver version"
  | .unexpectedEnd p => "unexpected end of input while parsing " ++ p.name
  | .unexpectedChar p c =>
    "unexpected character " ++ Text.quoteChar c ++ " while parsing " ++ p.name
  | .unexpectedAfter p c => "unexpected character " ++ Text.quoteChar c ++ " after " ++ p.name
  | .leadingZero p => "invalid leading zero in " ++ p.name
  | .overflow p => "value of " ++ p.name ++ " exceeds u64::MAX"
  | .emptySegment p => "empty identifier segment in " ++ p.name

def isDigit (c : Char) : Bool := '0' ≤ c && c ≤ '9'

def isNameChar (c : Char) : Bool := ('a' ≤ c && c ≤ 'z') || ('A' ≤ c && c ≤ 'Z') || c == '-'

def maxNumber : Nat := Nat.pow 2 64 - 1

/-- Reads the digits of a number; `started` after the first one. -/
def digits (part : Part) (value : Nat) (started : Bool) :
    List Char → Except Fault (Nat × List Char)
  | [] => if started then .ok (value, []) else .error (.unexpectedEnd part)
  | c :: rest =>
    if isDigit c then
      if started && value == 0 then .error (.leadingZero part)
      else
        let next := value * 10 + (c.toNat - 48)
        if maxNumber < next then .error (.overflow part) else digits part next true rest
    else if started then .ok (value, c :: rest)
    else .error (.unexpectedChar part c)

def number (part : Part) (cs : List Char) : Except Fault (Nat × List Char) :=
  digits part 0 false cs

def dot (part : Part) : List Char → Except Fault (List Char)
  | [] => .error (.unexpectedEnd part)
  | c :: rest => if c = '.' then .ok rest else .error (.unexpectedAfter part c)

/-- A segment is not empty, and a number in a pre-release has no leading zero. -/
def checkSegment (part : Part) (s : List Char) : Except Fault Unit :=
  if s.isEmpty then .error (.emptySegment part)
  else if part = .pre ∧ s.all isDigit ∧ s.head? = some '0' ∧ 1 < s.length then
    .error (.leadingZero part)
  else .ok ()

def checkSegments (part : Part) : List (List Char) → Except Fault Unit
  | [] => .ok ()
  | s :: rest => do
    checkSegment part s
    checkSegments part rest

def identifier (part : Part) (cs : List Char) : Except Fault (String × List Char) := do
  let own := cs.takeWhile fun c => isDigit c || isNameChar c || c == '.'
  checkSegments part (Text.splitOn '.' own)
  return (String.ofList own, cs.drop own.length)

def tagged (sign : Char) (part : Part) : List Char → Except Fault (String × List Char)
  | [] => .ok ("", [])
  | c :: rest => if c = sign then identifier part rest else .ok ("", c :: rest)

def readChars (cs : List Char) : Except Fault Version := do
  if cs.isEmpty then throw .empty
  let (major, cs) ← number .major cs
  let cs ← dot .major cs
  let (minor, cs) ← number .minor cs
  let cs ← dot .minor cs
  let (patch, cs) ← number .patch cs
  let (pre, cs) ← tagged '-' .pre cs
  let last := if pre.isEmpty then Part.patch else .pre
  let (build, cs) ← tagged '+' .build cs
  let last := if build.isEmpty then last else .build
  match cs with
  | [] => return { major, minor, patch, pre, build }
  | c :: _ => throw (.unexpectedAfter last c)

def read (s : String) : Except Fault Version := readChars s.toList

def toText (v : Version) : String :=
  toString v.major ++ "." ++ toString v.minor ++ "." ++ toString v.patch ++
    (if v.pre.isEmpty then "" else "-" ++ v.pre) ++
    (if v.build.isEmpty then "" else "+" ++ v.build)

def release (v : Version) : Nat × Nat × Nat := (v.major, v.minor, v.patch)

def releaseBefore (v : Version) (major minor patch : Nat) : Bool :=
  v.major < major || (v.major == major &&
    (v.minor < minor || (v.minor == minor && v.patch < patch)))

def isSign (c : Char) : Bool := c == '-' || c == '+'

def padPatch (cs : List Char) : List Char :=
  let core := cs.takeWhile fun c => !isSign c
  if core.count '.' = 1 then core ++ ['.', '0'] ++ cs.dropWhile fun c => !isSign c else cs

/-- Reads the version of a kubelet: blanks around it and letters `v` before it do not count, and
the patch number may be missing. -/
def readKubelet (s : String) : Except Fault Version :=
  readChars (padPatch ((Text.trimChars s.toList).dropWhile (· == 'v')))

end Version

end MachineFleet
