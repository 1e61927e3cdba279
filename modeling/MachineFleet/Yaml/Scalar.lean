import MachineFleet.Json.Numeral

/-!
What a plain scalar of YAML stands for: nothing, a truth value, a number, or its own text. Digits
behind a superfluous zero are a text, and so is a number that is too large to be finite.
-/

namespace MachineFleet.Yaml

/-- The meaning of a plain scalar. `large` is an integer of more than 64 bits and at most 128. -/
inductive Scalar where
  | null
  | bool (b : Bool)
  | int (n : Int)
  | large
  | float (x : Binary64)
  | special (name : String)
  | text
  deriving DecidableEq, Repr

namespace Scalar

def unsign : List Char → Bool × List Char
  | '-' :: rest => (true, rest)
  | '+' :: rest => (false, rest)
  | cs => (false, cs)

def digit? (base : Nat) (c : Char) : Option Nat :=
  let n := c.toNat
  let d := if '0' ≤ c ∧ c ≤ '9' then n - 48
    else if 'a' ≤ c ∧ c ≤ 'f' then n - 87
    else if 'A' ≤ c ∧ c ≤ 'F' then n - 55
    else base
  if d < base then some d else none

def natural? (base : Nat) : List Char → Option Nat
  | [] => none
  | c :: rest => (c :: rest).foldlM (fun n c => (digit? base c).map (n * base + ·)) 0

def isPadded (cs : List Char) : Bool :=
  match (unsign cs).2 with
  | '0' :: c :: rest => (c :: rest).all Json.Numeral.isDigit
  | _ => false

def integer? (cs : List Char) : Option Int :=
  let (negative, body) := unsign cs
  let magnitude := match body with
    | '0' :: 'x' :: ds => natural? 16 ds
    | '0' :: 'o' :: ds => natural? 8 ds
    | '0' :: 'b' :: ds => natural? 2 ds
    | ds => if isPadded ds then none else natural? 10 ds
  magnitude.map fun n => if negative then -(n : Int) else n

def exponent? : List Char → Option Int
  | [] => some 0
  | c :: rest =>
    if c = 'e' ∨ c = 'E' then
      let (negative, ds) := unsign rest
      (natural? 10 ds).map fun n => if negative then -(n : Int) else n
    else none

/-- The number nearest to `± digits · 10 ^ exponent`; nothing when it is not finite. Beyond 400
places on either side no digit makes a difference. -/
def decimal? (negative : Bool) (digits : List Char) (exponent : Int) : Option Binary64 :=
  let digits := digits.dropWhile (· == '0')
  let places := (digits.length : Int) + exponent
  if digits.isEmpty || places < -400 then some (Binary64.zero negative)
  else if 400 < places then none
  else (natural? 10 digits).bind fun n => Binary64.ofDecimal negative n exponent

def float? (cs : List Char) : Option Binary64 :=
  let (negative, body) := unsign cs
  let (whole, rest) := Json.Numeral.digits body
  let (fraction, rest) := match rest with
    | '.' :: rest => Json.Numeral.digits rest
    | rest => ([], rest)
  if whole.isEmpty && fraction.isEmpty then none
  else (exponent? rest).bind fun e => decimal? negative (whole ++ fraction) (e - fraction.length)

def special? (s : String) : Option String :=
  if [".inf", ".Inf", ".INF", "+.inf", "+.Inf", "+.INF"].contains s then some "inf"
  else if ["-.inf", "-.Inf", "-.INF"].contains s then some "-inf"
  else if [".nan", ".NaN", ".NAN"].contains s then some "NaN"
  else none

def ofInteger? (n : Int) : Option Scalar :=
  if -(Nat.pow 2 63) ≤ n ∧ n < Nat.pow 2 64 then some (.int n)
  else if -(Nat.pow 2 127) ≤ n ∧ n < Nat.pow 2 128 then some .large
  else none

def ofNumber? (s : String) : Option Scalar :=
  let cs := s.toList
  ((integer? cs).bind ofInteger?).or <|
    if isPadded cs then none
    else ((special? s).map special).or ((float? cs).map float)

def ofPlain (s : String) : Scalar :=
  if ["", "~", "null", "Null", "NULL"].contains s then .null
  else if ["true", "True", "TRUE"].contains s then .bool true
  else if ["false", "False", "FALSE"].contains s then .bool false
  else (ofNumber? s).getD .text

end Scalar

end MachineFleet.Yaml
