import MachineFleet.Json.Document
import MachineFleet.Json.Printer
import MachineFleet.Text.Quoted

/-!
Decoding of JSON documents into typed values. A record is read from an object, whose members are
visited in the order in which they stand, or from an array, item by item; the first fault met is
the one reported, and only then is a missing member. Each fault is a cause with its message.
-/

namespace MachineFleet.Json

inductive Found where
  | null
  | bool (b : Bool)
  | int (n : Int)
  | float (x : Binary64)
  | special (name : String)
  | str (s : String)
  | sequence
  | map
  deriving DecidableEq, Repr

def Found.message : Found → String
  | .null => "null"
  | .bool b => "boolean `" ++ (if b then "true" else "false") ++ "`"
  | .int n => "integer `" ++ String.ofList (Number.text (.int n)) ++ "`"
  | .float x => "floating point `" ++ String.ofList (Decimal.format x) ++ "`"
  | .special name => "floating point `" ++ name ++ "`"
  | .str s => "string " ++ Text.quote s
  | .sequence => "sequence"
  | .map => "map"

inductive DecodeError where
  | malformed
  | invalidType (found : Found) (wanted : String)
  | invalidValue (found : Found) (wanted : String)
  | tooShort (place : Nat) (wanted : String)
  | tooLong (length : Nat)
  | unknownVariant (name : String) (known : List String)
  | missingField (name : String)
  | duplicateField (name : String)
  | noShape (type : String)
  | refused (reason : String)
  deriving DecidableEq, Repr

def DecodeError.message : DecodeError → String
  | .malformed => "invalid JSON"
  | .invalidType f w => "invalid type: " ++ f.message ++ ", expected " ++ w
  | .invalidValue f w => "invalid value: " ++ f.message ++ ", expected " ++ w
  | .tooShort n w => "invalid length " ++ toString n ++ ", expected " ++ w
  | .tooLong n => "invalid length " ++ toString n ++ ", expected fewer elements in array"
  | .unknownVariant name known =>
    "unknown variant `" ++ name ++ "`, expected one of " ++
      String.intercalate ", " (known.map fun k => "`" ++ k ++ "`")
  | .missingField name => "missing field `" ++ name ++ "`"
  | .duplicateField name => "duplicate field `" ++ name ++ "`"
  | .noShape type => "data did not match any variant of untagged enum " ++ type
  | .refused reason => reason

/-- The same fault in a text, where surplus items of an array are a fault of the text. -/
def DecodeError.inText : DecodeError → DecodeError
  | .tooLong _ => .malformed
  | e => e

abbrev Reader (α : Type) := Document → Except DecodeError α

def Document.mismatch (wanted : String) : Document → DecodeError
  | .null => .invalidType .null wanted
  | .bool b => .invalidType (.bool b) wanted
  | .num (.int n) => .invalidType (.int n) wanted
  | .num (.float x) => .invalidType (.float x) wanted
  | .str s => .invalidType (.str s) wanted
  | .arr _ _ => .invalidType .sequence wanted
  | .obj _ _ => .invalidType .map wanted
  | .refused => .malformed
  | .broken => .malformed
  | .blank => .invalidType .null wanted
  | .sequence _ => .invalidType .sequence wanted
  | .special name => .invalidType (.special name) wanted

namespace Reader

def string : Reader String
  | .str s => .ok s
  | d => .error (d.mismatch "a string")

def bool : Reader Bool
  | .bool b => .ok b
  | d => .error (d.mismatch "a boolean")

/-- An integer from `low` to `high`; a floating point number is none. -/
def integer (low high : Int) (wanted : String) : Reader Int
  | .num (.int n) => if low ≤ n ∧ n ≤ high then .ok n else .error (.invalidValue (.int n) wanted)
  | d => .error (d.mismatch wanted)

def natural (bits : Nat) (wanted : String) : Reader Nat := fun d =>
  (integer 0 (Nat.pow 2 bits - 1) wanted d).map Int.toNat

def option {α : Type} (r : Reader α) : Reader (Option α)
  | .null => .ok none
  | .blank => .ok none
  | d => (r d).map some

def items {α : Type} (r : Reader α) : List Document → Except DecodeError (List α)
  | [] => .ok []
  | d :: rest => do
    let a ← r d
    let as ← items r rest
    return a :: as

def finish (ending : Ending) : Except DecodeError Unit :=
  if ending = .closed then .ok () else .error .malformed

def list {α : Type} (r : Reader α) : Reader (List α)
  | .arr ds ending => do
    let as ← items r ds
    finish ending
    return as
  | .sequence ds => items r ds
  | .blank => .ok []
  | d => .error (d.mismatch "a sequence")

def members {α : Type} (r : Reader α) :
    List (String × Document) → Except DecodeError (List (String × α))
  | [] => .ok []
  | (k, d) :: rest => do
    let a ← r d
    let as ← members r rest
    return (k, a) :: as

def dict {α : Type} (r : Reader α) : Reader (Dict α)
  | .obj ms ending => do
    let as ← members r ms
    finish ending
    return Dict.ofList as
  | .blank => .ok Dict.empty
  | d => .error (d.mismatch "a map")

mutual

def any : Reader Json
  | .null => .ok .null
  | .bool b => .ok (.bool b)
  | .num n => .ok (.num n)
  | .str s => .ok (.str s)
  | .arr ds ending => do
    let js ← anyItems ds
    finish ending
    return .arr js
  | .obj ms ending => do
    let js ← anyMembers ms []
    finish ending
    return .obj js
  | .refused => .error .malformed
  | .broken => .error .malformed
  | .blank => .ok .null
  | .sequence ds => do
    let js ← anyItems ds
    return .arr js
  | .special _ => .ok .null

def anyItems : List Document → Except DecodeError (List Json)
  | [] => .ok []
  | d :: rest => do
    let j ← any d
    let js ← anyItems rest
    return j :: js

def anyMembers : List (String × Document) → List (String × Json) →
    Except DecodeError (List (String × Json))
  | [], done => .ok done
  | (k, d) :: rest, done => do
    let j ← any d
    anyMembers rest (Dict.insertEntry k j done)

end

def anyObject : Reader Json
  | .obj ms ending => any (.obj ms ending)
  | d => .error (d.mismatch "a map")

/-- One of several names, each with its value. It may be written as a string, or as an object
whose only member has that name and the value `null`. -/
def oneOf {α : Type} (names : List (String × α)) : Reader α
  | .str s => find s
  | .obj [(s, d)] .closed => do
    let a ← find s
    match d with
    | .null => .ok a
    | d => .error (d.mismatch "unit")
  | .obj _ _ => .error (.invalidValue .map "map with a single key")
  | d => .error (d.mismatch "string or map")
where
  find (s : String) : Except DecodeError α :=
    match names.lookup s with
    | some a => .ok a
    | none => .error (.unknownVariant s (names.map (·.1)))

/-- The value that a reader finds when the whole document is sound; `none` on any fault in
the shape, which leaves other shapes to be tried. -/
def attempt {α : Type} (r : Reader α) (d : Document) : Option α := (r d).toOption

end Reader

inductive Lookup where
  | named (members : List (String × Document))
  | placed (items : List Document)

inductive Absence where
  | name
  | place (index : Nat)

def Lookup.find (l : Lookup) (name : String) (index : Nat) : Except Absence Document :=
  match l with
  | .named ms => match ms.reverse.lookup name with
    | some d => .ok d
    | none => .error .name
  | .placed ds => match ds[index]? with
    | some d => .ok d
    | none => .error (.place index)

/-- A reader of records: what each known member must be, and how the members make a value.
`build` reads the members in the order of their declaration. -/
structure RecordReader (α : Type) where
  members : List (String × (Document → Except DecodeError Unit))
  build : (wanted : String) → Lookup → Except DecodeError α

namespace RecordReader

variable {α β : Type}

def of (a : α) : RecordReader α := ⟨[], fun _ _ => .ok a⟩

def member (r : RecordReader (α → β)) (name : String) (read : Reader α) (absent : Option α) :
    RecordReader β where
  members := r.members ++ [(name, fun d => (read d).map fun _ => ())]
  build := fun wanted l => do
    let f ← r.build wanted l
    match l.find name r.members.length, absent with
    | .ok d, _ => return f (← read d)
    | .error _, some a => return f a
    | .error .name, none => .error (.missingField name)
    | .error (.place n), none => .error (.tooShort n wanted)

def required (r : RecordReader (α → β)) (name : String) (read : Reader α) : RecordReader β :=
  r.member name read none

def orElse (r : RecordReader (α → β)) (name : String) (read : Reader α) (absent : α) :
    RecordReader β :=
  r.member name read (some absent)

/-- Adds a member that may be `null`, or absent from an object. -/
def maybe (r : RecordReader (Option α → β)) (name : String) (read : Reader α) :
    RecordReader β where
  members := r.members ++ [(name, fun d => (read.option d).map fun _ => ())]
  build := fun wanted l => do
    let f ← r.build wanted l
    match l.find name r.members.length with
    | .ok d => return f (← read.option d)
    | .error .name => return f none
    | .error (.place n) => .error (.tooShort n wanted)

/-- Visits the members of an object in order. A known member must be readable, and unless
`repeats` it may stand only once; any other must be sound. -/
def visit (known : List (String × (Document → Except DecodeError Unit))) (repeats : Bool) :
    List (String × Document) → List String → Except DecodeError Unit
  | [], _ => .ok ()
  | (k, d) :: rest, seen =>
    match known.lookup k with
    | none => if d.isSound then visit known repeats rest seen else .error .malformed
    | some check =>
      if !repeats && seen.contains k then .error (.duplicateField k)
      else do
        check d
        visit known repeats rest (k :: seen)

def lengthWanted (name : String) (n : Nat) : String :=
  "struct " ++ name ++ " with " ++ toString n ++
    (if n = 1 then " element" else " elements")

def read (name : String) (r : RecordReader α) : Reader α
  | .obj ms ending => do
    visit r.members false ms []
    Reader.finish ending
    r.build "" (.named ms)
  | .arr ds ending => do
    let a ← r.build (lengthWanted name r.members.length) (.placed (ds.take r.members.length))
    if ending ≠ .closed then .error .malformed
    else if r.members.length < ds.length then .error (.tooLong ds.length)
    else .ok a
  | .blank => r.build "" (.named [])
  | d => .error (d.mismatch ("struct " ++ name))

/-- Reads a cluster object: from an object only, and of repeated members the last counts. -/
def readObject (name : String) (r : RecordReader α) : Reader α
  | .obj ms ending => do
    visit r.members true ms []
    Reader.finish ending
    r.build "" (.named ms)
  | .blank => r.build "" (.named [])
  | d => .error (d.mismatch name)

def readMember (name member : String) (r : Reader α) : Reader α :=
  read name (of id |>.required member r)

end RecordReader

def decode {α : Type} (r : Reader α) (j : Json) : Except DecodeError α := r (.ofJson j)

def decodeText {α : Type} (r : Reader α) (s : String) : Except DecodeError α :=
  let t := Text.read s
  match r t.root with
  | .error e => .error e.inText
  | .ok a => if t.ends then .ok a else .error .malformed

end MachineFleet.Json
