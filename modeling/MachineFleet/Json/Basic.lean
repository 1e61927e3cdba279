import MachineFleet.Decimal.Shortest
import MachineFleet.Dict

/-!
JSON values. The members of an object stand in the order in which they were written or built;
`Json.sorted` puts them in key order at every depth and keeps the last of two members with one
key, which makes two documents equal when they differ in member order only.
-/

namespace MachineFleet

/-- A number is an integer of at most 64 bits, signed or unsigned, or a floating point number. -/
inductive Json.Number where
  | int (n : Int)
  | float (x : Binary64)
  deriving DecidableEq, Repr, Inhabited

inductive Json where
  | null
  | bool (b : Bool)
  | num (n : Json.Number)
  | str (s : String)
  | arr (items : List Json)
  | obj (members : List (String × Json))
  deriving Repr, Inhabited

namespace Json

def ofNat (n : Nat) : Json := .num (.int n)

def ofInt (n : Int) : Json := .num (.int n)

def ofOption : Option String → Json
  | none => .null
  | some s => .str s

def ofList (xs : List String) : Json := .arr (xs.map .str)

def ofDict (d : Dict String) : Json := .obj (d.entries.map fun e => (e.1, .str e.2))

def objOf (members : List (Option (String × Json))) : Json := .obj (members.filterMap id)

def optional (name : String) (v : Option Json) : Option (String × Json) := v.map (name, ·)

/-- The member of an object with the given key; the last one counts. -/
def member? (name : String) : Json → Option Json
  | .obj ms => ms.reverse.lookup name
  | _ => none

mutual

/-- The document with the members of every object in key order, one for each key. -/
def sorted : Json → Json
  | .arr items => .arr (sortedItems items)
  | .obj members => .obj (sortedMembers members [])
  | j => j

def sortedItems : List Json → List Json
  | [] => []
  | j :: rest => j.sorted :: sortedItems rest

def sortedMembers : List (String × Json) → List (String × Json) → List (String × Json)
  | [], done => done
  | (k, j) :: rest, done => sortedMembers rest (Dict.insertEntry k j.sorted done)

end

end Json

end MachineFleet
