import MachineFleet.Json.Basic

/-!
Number literals. An integer literal that fits 64 bits is that integer. Any other literal is a
floating point number: its leading digits, as many as fit an unsigned word of 64 bits, are
converted and then multiplied or divided by a power of ten, with one rounding in each step.
-/

namespace MachineFleet.Json

/-- What a literal stands for. `huge` is well formed, but no number is that large. -/
inductive Numeral where
  | number (n : Number)
  | huge
  deriving DecidableEq, Repr

namespace Numeral

def maxWord : Nat := Nat.pow 2 64 - 1

def isDigit (c : Char) : Bool := '0' ≤ c && c ≤ '9'

def digitValue (c : Char) : Nat := c.toNat - 48

def digits (cs : List Char) : List Char × List Char := (cs.takeWhile isDigit, cs.dropWhile isDigit)

/-- Appends digits to a word for as long as the result is a word; also how many did not fit. -/
def accumulate (word : Nat) : List Char → Nat × Nat
  | [] => (word, 0)
  | c :: rest =>
    let next := word * 10 + digitValue c
    if next ≤ maxWord then accumulate next rest else (word, (c :: rest).length)

def powerOfTen (k : Nat) : Binary64 := (Binary64.ofDecimal false 1 k).getD (Binary64.zero false)

def scale (x : Binary64) (exponent : Int) : Nat → Option Binary64
  | 0 => some (Binary64.zero false)
  | fuel + 1 =>
    if exponent.natAbs ≤ 308 then
      if 0 ≤ exponent then x.mul? (powerOfTen exponent.natAbs)
      else x.div? (powerOfTen exponent.natAbs)
    else if x.isZero then some x
    else if 0 ≤ exponent then none
    else match x.div? (powerOfTen 308) with
      | some y => scale y (exponent + 308) fuel
      | none => none

/-- The number of a sign, a word and a power of ten. Three divisions by the greatest power bring
every word to zero. -/
def assemble (negative : Bool) (word : Nat) (exponent : Int) : Numeral :=
  match (Binary64.ofNat word).bind fun x => scale x exponent 8 with
  | some x => .number (.float (if negative then x.negate else x))
  | none => .huge

def ofInteger (negative : Bool) (whole : List Char) : Numeral :=
  let (word, left) := accumulate 0 whole
  if left ≠ 0 then assemble negative word left
  else if !negative then .number (.int word)
  else if word = 0 then .number (.float (Binary64.zero true))
  else if word ≤ Nat.pow 2 63 then .number (.int (-(word : Int)))
  else assemble true word 0

def maxExponent : Nat := Nat.pow 2 31 - 1

def withExponent (negative : Bool) (word : Nat) (start : Int) (down : Bool)
    (power : List Char) : Numeral :=
  let e := power.foldl (fun n c => if maxExponent < n then n else n * 10 + digitValue c) 0
  if maxExponent < e then
    if word ≠ 0 ∧ !down then .huge else .number (.float (Binary64.zero negative))
  else assemble negative word (if down then start - e else start + e)

def readExponent (negative : Bool) (word : Nat) (start : Int) (cs : List Char) :
    Option (Numeral × List Char) :=
  let (down, cs) := match cs with
    | '+' :: rest => (false, rest)
    | '-' :: rest => (true, rest)
    | rest => (false, rest)
  match digits cs with
  | ([], _) => none
  | (power, rest) => some (withExponent negative word start down power, rest)

def readTail (negative : Bool) (word : Nat) (start : Int) (plain : Numeral) (cs : List Char) :
    Option (Numeral × List Char) :=
  match cs with
  | c :: rest =>
    if c = 'e' ∨ c = 'E' then readExponent negative word start rest else some (plain, c :: rest)
  | [] => some (plain, [])

def readUnsigned (negative : Bool) (cs : List Char) : Option (Numeral × List Char) :=
  match digits cs with
  | ([], _) => none
  | (whole, rest) =>
    if whole.head? = some '0' ∧ 1 < whole.length then none
    else
      let (word, left) := accumulate 0 whole
      match rest with
      | '.' :: rest =>
        match digits rest with
        | ([], _) => none
        | (fraction, rest) =>
          let (word, unread) := accumulate word fraction
          let start := (left : Int) - ((fraction.length - unread : Nat) : Int)
          readTail negative word start (assemble negative word start) rest
      | rest => readTail negative word left (ofInteger negative whole) rest

def read (cs : List Char) : Option (Numeral × List Char) :=
  match cs with
  | '-' :: rest => readUnsigned true rest
  | rest => readUnsigned false rest

end Numeral

end MachineFleet.Json
