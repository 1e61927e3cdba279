import MachineFleet.Yaml.Scalar
import MachineFleet.Yaml.Token

/-!
The documents of YAML texts. A text is a stream of documents, each with one value; keys of one
mapping differ, and collections lie in each other 128 deep at most.
-/

namespace MachineFleet.Yaml

def ofScalar (plain : Bool) (s : String) : Except Fault Yaml :=
  if !plain then .ok (.text s)
  else match Scalar.ofPlain s with
    | .null => .ok .null
    | .bool b => .ok (.bool b)
    | .int n => .ok (.int n)
    | .large => .error .largeInteger
    | .float x => .ok (.float x)
    | .special name => .ok (.special name)
    | .text => .ok (.text s)

def maxDepth : Nat := 128

def unexpected {α : Type} (what : String) : List Token → Except Fault (α × List Token)
  | .fault f :: _ => .error f
  | _ => .error (.expected what)

def addMember (k v : Yaml) (members : List (Yaml × Yaml)) : Except Fault (List (Yaml × Yaml)) :=
  if members.any fun m => same m.1 k then .error .duplicateKey else .ok ((k, v) :: members)

def endsBlockEntry : Token → Bool
  | .key | .value | .blockEnd => true
  | _ => false

def endsFlowEntry : Token → Bool
  | .comma | .flowSequenceEnd | .flowMappingEnd => true
  | _ => false

mutual

/-- Reads a value inside `maxDepth - depth` collections; in a block mapping a sequence need not be
indented. -/
def readNode : Nat → (depth : Nat) → (block mapping : Bool) → List Token →
    Except Fault (Yaml × List Token)
  | 0, _, _, _, ts => unexpected "node content" ts
  | _, _, _, _, .scalar plain s :: ts => (ofScalar plain s).map (·, ts)
  | _, 0, _, _, ts => (unexpected "node content" ts : Except Fault (Yaml × List Token)).mapError fun
    | .expected _ => .depth
    | f => f
  | fuel + 1, depth + 1, block, mapping, t :: ts =>
    match t with
    | .entry =>
      if mapping then do
        let (items, ts) ← readPlainEntries fuel depth (.entry :: ts)
        return (.list items, ts)
      else unexpected "node content" (.entry :: ts)
    | .flowSequence => do
      let (items, ts) ← readFlowItems fuel depth true ts
      return (.list items, ts)
    | .flowMapping => do
      let (members, ts) ← readFlowMembers fuel depth true ts
      return (.map members, ts)
    | .blockSequence =>
      if block then do
        let (items, ts) ← readEntries fuel depth ts
        return (.list items, ts)
      else unexpected "node content" (t :: ts)
    | .blockMapping =>
      if block then do
        let (members, ts) ← readMembers fuel depth ts
        return (.map members, ts)
      else unexpected "node content" (t :: ts)
    | t => unexpected "node content" (t :: ts)
  | _, _, _, _, [] => .error (.expected "node content")

def readEntries : Nat → Nat → List Token → Except Fault (List Yaml × List Token)
  | fuel + 1, depth, .entry :: t :: ts => do
    let (item, ts) ← if t == .entry || t == .blockEnd then pure (Yaml.null, t :: ts)
      else readNode fuel depth true false (t :: ts)
    let (items, ts) ← readEntries fuel depth ts
    return (item :: items, ts)
  | _, _, .blockEnd :: ts => .ok ([], ts)
  | _, _, ts => unexpected "'-' indicator" ts

def readPlainEntries : Nat → Nat → List Token → Except Fault (List Yaml × List Token)
  | fuel + 1, depth, .entry :: t :: ts => do
    let (item, ts) ← if t == .entry || endsBlockEntry t then pure (Yaml.null, t :: ts)
      else readNode fuel depth true false (t :: ts)
    let (items, ts) ← readPlainEntries fuel depth ts
    return (item :: items, ts)
  | _, _, ts => .ok ([], ts)

def readBlockPart : Nat → Nat → List Token → Except Fault (Yaml × List Token)
  | fuel + 1, depth, t :: ts =>
    if endsBlockEntry t then .ok (.null, t :: ts) else readNode fuel depth true true (t :: ts)
  | _, _, ts => unexpected "node content" ts

def readMembers : Nat → Nat → List Token → Except Fault (List (Yaml × Yaml) × List Token)
  | _, _, .blockEnd :: ts => .ok ([], ts)
  | fuel + 1, depth, .key :: ts => do
    let (k, ts) ← readBlockPart fuel depth ts
    let (v, ts) ← match ts with
      | .value :: ts => readBlockPart fuel depth ts
      | ts => pure (Yaml.null, ts)
    let (members, ts) ← readMembers fuel depth ts
    return (← addMember k v members, ts)
  | _, _, ts => unexpected "key" ts

def readFlowPart : Nat → Nat → List Token → Except Fault (Yaml × List Token)
  | fuel + 1, depth, t :: ts =>
    if endsFlowEntry t || t == .value then .ok (.null, t :: ts)
    else readNode fuel depth false false (t :: ts)
  | _, _, ts => unexpected "node content" ts

def readFlowValue : Nat → Nat → List Token → Except Fault (Yaml × List Token)
  | fuel + 1, depth, .value :: t :: ts =>
    if endsFlowEntry t then .ok (.null, t :: ts) else readNode fuel depth false false (t :: ts)
  | _, _, ts => .ok (.null, ts)

/-- Reads the items of a flow sequence; a key with its value is a mapping of its own. -/
def readFlowItems : Nat → (depth : Nat) → (first : Bool) → List Token →
    Except Fault (List Yaml × List Token)
  | _, _, _, .flowSequenceEnd :: ts => .ok ([], ts)
  | fuel + 1, depth, false, .comma :: ts =>
    match ts with
    | .flowSequenceEnd :: ts => .ok ([], ts)
    | ts => readFlowItem fuel depth ts
  | fuel + 1, depth, true, ts => readFlowItem fuel depth ts
  | _, _, _, ts => unexpected "',' or ']'" ts

def readFlowItem : Nat → (depth : Nat) → List Token → Except Fault (List Yaml × List Token)
  | fuel + 1, depth, .key :: ts => do
    if depth = 0 then throw .depth
    let (k, ts) ← readFlowPart fuel (depth - 1) ts
    let (v, ts) ← readFlowValue fuel (depth - 1) ts
    let (items, ts) ← readFlowItems fuel depth false ts
    return (.map [(k, v)] :: items, ts)
  | fuel + 1, depth, ts => do
    let (item, ts) ← readNode fuel depth false false ts
    let (items, ts) ← readFlowItems fuel depth false ts
    return (item :: items, ts)
  | 0, _, ts => unexpected "node content" ts

/-- Reads the members of a flow mapping; a node without a colon is a key. -/
def readFlowMembers : Nat → (depth : Nat) → (first : Bool) → List Token →
    Except Fault (List (Yaml × Yaml) × List Token)
  | _, _, _, .flowMappingEnd :: ts => .ok ([], ts)
  | fuel + 1, depth, false, .comma :: ts =>
    match ts with
    | .flowMappingEnd :: ts => .ok ([], ts)
    | ts => readFlowMember fuel depth ts
  | fuel + 1, depth, true, ts => readFlowMember fuel depth ts
  | _, _, _, ts => unexpected "',' or '\x7d'" ts

def readFlowMember : Nat → (depth : Nat) → List Token →
    Except Fault (List (Yaml × Yaml) × List Token)
  | fuel + 1, depth, .key :: ts => do
    let (k, ts) ← readFlowPart fuel depth ts
    let (v, ts) ← readFlowValue fuel depth ts
    let (members, ts) ← readFlowMembers fuel depth false ts
    return (← addMember k v members, ts)
  | fuel + 1, depth, ts => do
    let (k, ts) ← readNode fuel depth false false ts
    let (members, ts) ← readFlowMembers fuel depth false ts
    return (← addMember k .null members, ts)
  | 0, _, ts => unexpected "node content" ts

end

/-- Reads the value of a document. Each token takes three calls at most. -/
def readRoot (ts : List Token) : Except Fault (Yaml × List Token) :=
  readNode (3 * ts.length + 3) maxDepth true false ts

def readContent (ts : List Token) : Except Fault (Yaml × List Token) :=
  match ts with
  | [] | .documentStart :: _ | .documentEnd :: _ => .ok (.null, ts)
  | ts => readRoot ts

/-- Reads the documents of a stream up to the first that cannot be read; `first` before any
document, when none of the tokens has to announce it. -/
def readDocuments : Nat → (first : Bool) → List Token → List (Except Fault Yaml)
  | 0, _, _ => []
  | _, _, [] => []
  | fuel + 1, first, t :: ts =>
    if t == .documentEnd && !first then readDocuments fuel first ts
    else
      let content := if t == .documentStart then readContent ts
        else if first then readRoot (t :: ts)
        else unexpected "<document start>" (t :: ts)
      match content with
      | .error f => [.error f]
      | .ok (_, .fault f :: _) => [.error f]
      | .ok (y, .documentEnd :: ts) => .ok y :: readDocuments fuel false ts
      | .ok (y, ts) => .ok y :: readDocuments fuel false ts

def documents (text : String) : List (Except Fault Yaml) :=
  let ts := tokens text
  readDocuments (2 * ts.length + 1) true ts

end MachineFleet.Yaml
