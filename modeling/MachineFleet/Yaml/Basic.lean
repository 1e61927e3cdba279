import MachineFleet.Json.Document

/-!
YAML values. Unlike those of JSON they have keys of any kind and numbers that are not finite, a
null stands for an empty collection where one is wanted, and a sequence is never a record.
-/

namespace MachineFleet

inductive Yaml where
  | null
  | bool (b : Bool)
  | int (n : Int)
  | float (x : Binary64)
  | special (name : String)
  | text (s : String)
  | list (items : List Yaml)
  | map (members : List (Yaml × Yaml))
  deriving Repr, Inhabited

inductive Yaml.Fault where
  | controlCharacter
  | unsupported (c : Char)
  | noToken (c : Char)
  | tab
  | sequenceEntry
  | mappingKey
  | mappingValue
  | missingColon
  | unclosedQuote
  | markerInQuote
  | escape
  | blockHeader
  | flowColon
  | largeInteger
  | duplicateKey
  | depth
  | expected (what : String)
  deriving DecidableEq, Repr

namespace Yaml

def Fault.message : Fault → String
  | .controlCharacter => "control characters are not allowed"
  | .unsupported c => "anchors, tags and directives are not supported: " ++ String.singleton c
  | .noToken c => "character that cannot start any token: " ++ String.singleton c
  | .tab => "tab character where an indentation space is expected"
  | .sequenceEntry => "block sequence entries are not allowed in this context"
  | .mappingKey => "mapping keys are not allowed in this context"
  | .mappingValue => "mapping values are not allowed in this context"
  | .missingColon => "could not find expected ':'"
  | .unclosedQuote => "unexpected end of stream in a quoted scalar"
  | .markerInQuote => "unexpected document indicator in a quoted scalar"
  | .escape => "unknown escape sequence in a quoted scalar"
  | .blockHeader => "malformed start of a block scalar"
  | .flowColon => "unexpected ':' in a plain scalar"
  | .largeInteger => "integer of more than 64 bits"
  | .duplicateKey => "duplicate key in a mapping"
  | .depth => "recursion limit exceeded"
  | .expected what => "did not find expected " ++ what

mutual

def same : Yaml → Yaml → Bool
  | .null, .null => true
  | .bool a, .bool b => a == b
  | .int a, .int b => a == b
  | .float a, .float b => a == b
  | .special a, .special b => a == b
  | .text a, .text b => a == b
  | .list a, .list b => sameItems a b
  | .map a, .map b => sameMembers a b
  | _, _ => false

def sameItems : List Yaml → List Yaml → Bool
  | [], [] => true
  | a :: as, b :: bs => same a b && sameItems as bs
  | _, _ => false

def sameMembers : List (Yaml × Yaml) → List (Yaml × Yaml) → Bool
  | [], [] => true
  | (k, v) :: as, (l, w) :: bs => same k l && same v w && sameMembers as bs
  | _, _ => false

end

mutual

/-- The document that a reader of typed values sees. Keys other than texts cannot be read. -/
def toDocument : Yaml → Json.Document
  | .null => .blank
  | .bool b => .bool b
  | .int n => .num (.int n)
  | .float x => .num (.float x)
  | .special name => .special name
  | .text s => .str s
  | .list items => .sequence (itemDocuments items)
  | .map members =>
    let (ms, ending) := memberDocuments members
    .obj ms ending

def itemDocuments : List Yaml → List Json.Document
  | [] => []
  | y :: rest => y.toDocument :: itemDocuments rest

def memberDocuments : List (Yaml × Yaml) → List (String × Json.Document) × Json.Ending
  | [] => ([], .closed)
  | (.text k, v) :: rest =>
    let (ms, ending) := memberDocuments rest
    ((k, v.toDocument) :: ms, ending)
  | _ :: _ => ([], .refused)

end

end Yaml

end MachineFleet
