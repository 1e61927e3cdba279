import MachineFleet.Decimal.Binary64

/-!
The shortest decimal text of a binary floating point number: the fewest digits that read back as
the same number, and of those the digits nearest to it. Positional notation is used for decimal
exponents from -5 to 15 and always has a fraction; other numbers are written with an exponent.
-/

namespace MachineFleet.Decimal

structure Digits where
  value : Nat
  scale : Int
  deriving DecidableEq, Repr

/-- Both fractions over one denominator: `digits · 10 ^ scale` compared with `num / den`. -/
def Digits.over (d : Digits) (num den : Nat) : Nat × Nat :=
  if 0 ≤ d.scale then (d.value * Nat.pow 10 d.scale.toNat * den, num)
  else (d.value * den, num * Nat.pow 10 (-d.scale).toNat)

/-- The digits lie among the reals that round to the number, ends included when its significand
is even. The lower half of the gap is narrower where the significand is the least of its
exponent. -/
def Digits.readsAs (d : Digits) (x : Binary64) : Bool :=
  let num := x.ratio.1
  let den := x.ratio.2
  let unit := (({ x with significand := 1 } : Binary64).ratio).1
  let wide := x.significand != Nat.pow 2 52 || x.exponent == Binary64.minExponent
  let even := x.significand % 2 == 0
  let low := d.over (4 * num - (if wide then 2 * unit else unit)) (4 * den)
  let high := d.over (4 * num + 2 * unit) (4 * den)
  (low.2 < low.1 || (even && low.1 == low.2)) && (high.1 < high.2 || (even && high.1 == high.2))

/-- The distance of digits from `num / den`, to be compared on one grid only. -/
def Digits.distance (d : Digits) (num den : Nat) : Nat :=
  let (a, b) := d.over num den
  if a ≤ b then b - a else a - b

def magnitude (num den : Nat) : Int :=
  let guess : Int := (((Nat.log2 num : Int) - (Nat.log2 den : Int)) * 30103).fdiv 100000
  let reaches (k : Int) : Bool :=
    if 0 ≤ k then den * Nat.pow 10 k.toNat ≤ num else den ≤ num * Nat.pow 10 (-k).toNat
  if reaches (guess + 1) then guess + 1 else if reaches guess then guess else guess - 1

def neighbours (num den : Nat) (scale : Int) : Digits × Digits :=
  let q := if 0 ≤ scale then num / (den * Nat.pow 10 scale.toNat)
    else num * Nat.pow 10 (-scale).toNat / den
  (⟨q, scale⟩, ⟨q + 1, scale⟩)

/-- The nearer of two neighbours that reads back as the number, a tie going to the even one. -/
def pick (x : Binary64) (below above : Digits) : Option Digits :=
  let num := x.ratio.1
  let den := x.ratio.2
  match below.readsAs x, above.readsAs x with
  | false, false => none
  | true, false => some below
  | false, true => some above
  | true, true =>
    let b := below.distance num den
    let a := above.distance num den
    if b < a then some below
    else if a < b then some above
    else if below.value % 2 = 0 then some below else some above

def search (x : Binary64) (top : Int) : Nat → Nat → Digits
  | 0, digits => (neighbours x.ratio.1 x.ratio.2 (top - digits + 1)).1
  | fuel + 1, digits =>
    let (below, above) := neighbours x.ratio.1 x.ratio.2 (top - digits + 1)
    match pick x below above with
    | some d => d
    | none => search x top fuel (digits + 1)

def Digits.trimmed : Nat → Digits → Digits
  | 0, d => d
  | fuel + 1, d =>
    if d.value % 10 = 0 ∧ d.value ≠ 0 then Digits.trimmed fuel ⟨d.value / 10, d.scale + 1⟩ else d

/-- The digits of the magnitude of a number other than zero. Seventeen always suffice. -/
def shortest (x : Binary64) : Digits :=
  let d := search x (magnitude x.ratio.1 x.ratio.2) 17 1
  d.trimmed 20

def positional (digits : List Char) (point : Int) : List Char :=
  if point ≤ 0 then ['0', '.'] ++ List.replicate (-point).toNat '0' ++ digits
  else if digits.length ≤ point.toNat then
    digits ++ List.replicate (point.toNat - digits.length) '0' ++ ['.', '0']
  else digits.take point.toNat ++ ['.'] ++ digits.drop point.toNat

def scientific (digits : List Char) (exponent : Int) : List Char :=
  let mantissa := match digits with
    | d :: e :: rest => d :: '.' :: e :: rest
    | ds => ds
  mantissa ++ 'e' :: (if exponent < 0 then '-' else '+') :: (Nat.toDigits 10 exponent.natAbs)

def format (x : Binary64) : List Char :=
  let sign := if x.negative then ['-'] else []
  if x.isZero then sign ++ ['0', '.', '0']
  else
    let d := shortest x
    let digits := Nat.toDigits 10 d.value
    let exponent := d.scale + (digits.length : Int) - 1
    if -5 ≤ exponent ∧ exponent ≤ 15 then sign ++ positional digits (exponent + 1)
    else sign ++ scientific digits exponent

end MachineFleet.Decimal
