import MachineFleet.Json.Decode

/-!
Points in time as cluster objects hold them. A text is read as a date, a `T`, `t` or space, a
time of day with an optional fraction, and an offset; it is written in UTC to the second.
-/

namespace MachineFleet

/-- Seconds since 1970-01-01T00:00:00Z. `leap` marks the second that follows a last one. -/
structure Timestamp where
  seconds : Int
  leap : Bool := false
  deriving DecidableEq, Repr, Inhabited

namespace Timestamp

inductive Fault where
  | outOfRange
  | invalid
  | tooShort
  | tooLong
  deriving DecidableEq, Repr

def Fault.message : Fault → String
  | .outOfRange => "input is out of range"
  | .invalid => "input contains invalid characters"
  | .tooShort => "premature end of input"
  | .tooLong => "trailing input"

/-- Days from 1970-01-01 to a date of the Gregorian calendar, the year beginning in March. -/
def daysFromDate (year : Int) (month day : Nat) : Int :=
  let y := if month ≤ 2 then year - 1 else year
  let era := y.fdiv 400
  let yoe := y - era * 400
  let mp : Int := ((month + 9) % 12 : Nat)
  let doy := (153 * mp + 2).fdiv 5 + day - 1
  let doe := yoe * 365 + yoe.fdiv 4 - yoe.fdiv 100 + doy
  era * 146097 + doe - 719468

def dateFromDays (days : Int) : Int × Nat × Nat :=
  let z := days + 719468
  let era := z.fdiv 146097
  let doe := z - era * 146097
  let yoe := (doe - doe.fdiv 1460 + doe.fdiv 36524 - doe.fdiv 146096).fdiv 365
  let doy := doe - (365 * yoe + yoe.fdiv 4 - yoe.fdiv 100)
  let mp := (5 * doy + 2).fdiv 153
  let day := (doy - (153 * mp + 2).fdiv 5 + 1).toNat
  let month := (if mp < 10 then mp + 3 else mp - 9).toNat
  let year := yoe + era * 400
  (if month ≤ 2 then year + 1 else year, month, day)

def isLeapYear (y : Int) : Bool := (y % 4 == 0 && y % 100 != 0) || y % 400 == 0

def daysInMonth (year : Int) (month : Nat) : Nat :=
  if month = 2 then (if isLeapYear year then 29 else 28)
  else if month = 4 ∨ month = 6 ∨ month = 9 ∨ month = 11 then 30 else 31

/-- Reads `count` digits, or at least one and at most `count` when `loose`. -/
def number (loose : Bool) (count : Nat) (cs : List Char) : Except Fault (Nat × List Char) :=
  let ds := (cs.take count).takeWhile Json.Numeral.isDigit
  if ds.length = count ∨ (loose ∧ ds ≠ []) then
    .ok (ds.foldl (fun n c => n * 10 + Json.Numeral.digitValue c) 0, cs.drop ds.length)
  else if cs.length = ds.length then .error .tooShort
  else .error .invalid

def literal (c : Char) : List Char → Except Fault (List Char)
  | [] => .error .tooShort
  | d :: rest => if c = d then .ok rest else .error .invalid

def fraction : List Char → Except Fault (List Char)
  | '.' :: rest =>
    match Json.Numeral.digits rest with
    | ([], []) => .error .tooShort
    | ([], _) => .error .invalid
    | (_, rest) => .ok rest
  | cs => .ok cs

def offset : List Char → Except Fault (Int × List Char)
  | [] => .error .tooShort
  | c :: rest =>
    if c = 'Z' ∨ c = 'z' then .ok (0, rest)
    else if c = '+' ∨ c = '-' then do
      let (h, cs) ← number false 2 rest
      let cs := match cs with
        | ':' :: cs => cs
        | cs => cs
      let (m, cs) ← number false 2 cs
      if 60 ≤ m then throw .outOfRange
      let s : Int := h * 3600 + m * 60
      return (if c = '-' then -s else s, cs)
    else .error .invalid

def read (s : String) : Except Fault Timestamp := do
  let (year, cs) ← number true 4 s.toList
  let cs ← literal '-' cs
  let (month, cs) ← number true 2 cs
  let cs ← literal '-' cs
  let (day, cs) ← number true 2 cs
  let cs ← match cs with
    | [] => .error Fault.tooShort
    | c :: rest =>
      if c = 'T' ∨ c = 't' ∨ c = ' ' then .ok rest else .error Fault.invalid
  let (hour, cs) ← number true 2 cs
  let cs ← literal ':' cs
  let (minute, cs) ← number true 2 cs
  let cs ← literal ':' cs
  let (second, cs) ← number true 2 cs
  let cs ← fraction cs
  let (off, cs) ← offset cs
  if cs ≠ [] then throw .tooLong
  if month < 1 ∨ 12 < month ∨ day < 1 ∨ daysInMonth year month < day ∨ 24 ≤ hour ∨ 60 ≤ minute ∨
      60 < second then throw .outOfRange
  let leap := second = 60
  let seconds : Int := daysFromDate year month day * 86400 + hour * 3600 + minute * 60 +
    (if leap then 59 else second) - off
  return ⟨seconds, leap⟩

def padded (width : Nat) (n : Nat) : String :=
  let ds := Nat.toDigits 10 n
  String.ofList (List.replicate (width - ds.length) '0' ++ ds)

def toText (t : Timestamp) : String :=
  let (year, month, day) := dateFromDays (t.seconds.fdiv 86400)
  let time := (t.seconds.fmod 86400).toNat
  padded 4 year.toNat ++ "-" ++ padded 2 month ++ "-" ++ padded 2 day ++ "T" ++
    padded 2 (time / 3600) ++ ":" ++ padded 2 (time / 60 % 60) ++ ":" ++
    padded 2 (time % 60 + (if t.leap then 1 else 0)) ++ "Z"

def reader : Json.Reader Timestamp
  | .str s => match read s with
    | .ok t => .ok t
    | .error e => .error (.refused e.message)
  | d => .error (d.mismatch "an RFC 3339 formatted date and time string")

def toJson (t : Timestamp) : Json := .str t.toText

end Timestamp

end MachineFleet
