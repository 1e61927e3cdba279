import MachineFleet.Yaml.Basic

/-!
The tokens of YAML texts. Indentation opens and closes block collections, and what stands before a
colon on one line is a key, for which its token is put in when the colon is met. The tokens end
with a fault where the text cannot be read any further.
-/

namespace MachineFleet.Yaml

inductive Token where
  | documentStart
  | documentEnd
  | blockSequence
  | blockMapping
  | blockEnd
  | flowSequence
  | flowSequenceEnd
  | flowMapping
  | flowMappingEnd
  | entry
  | comma
  | key
  | value
  /-- A scalar with its text; `plain` when it stands without quotation marks. -/
  | scalar (plain : Bool) (text : String)
  | fault (f : Fault)
  deriving DecidableEq, Repr, Inhabited

def isSpace (c : Char) : Bool := c == ' ' || c == '\t'

/-- Line feeds and the two separators; all other line breaks are read as line feeds. -/
def isBreak (c : Char) : Bool := c == '\n' || c == '\u2028' || c == '\u2029'

def endsWord : List Char → Bool
  | [] => true
  | c :: _ => isSpace c || isBreak c

def normalBreaks : List Char → List Char
  | '\r' :: '\n' :: rest => '\n' :: normalBreaks rest
  | c :: rest => (if c = '\r' ∨ c = '\u0085' then '\n' else c) :: normalBreaks rest
  | [] => []

def isAllowed (c : Char) : Bool :=
  let n := c.toNat
  n == 0x09 || n == 0x0A || n == 0x0D || (0x20 ≤ n && n ≤ 0x7E) || n == 0x85 ||
    (0xA0 ≤ n && n ≤ 0xFFFD && n != 0xFEFF) || 0x10000 ≤ n

structure Mark where
  line : Nat := 0
  column : Nat := 0
  index : Nat := 0
  deriving DecidableEq, Repr, Inhabited

def Mark.next (m : Mark) (c : Char) : Mark :=
  if isBreak c then { line := m.line + 1, column := 0, index := m.index + 1 }
  else { m with column := m.column + 1, index := m.index + 1 }

structure Cursor where
  rest : List Char
  mark : Mark := {}
  deriving Inhabited

namespace Cursor

def skipWhile (p : Char → Bool) (c : Cursor) : Cursor :=
  go c.rest c.mark
where
  go : List Char → Mark → Cursor
    | [], m => ⟨[], m⟩
    | x :: rest, m => if p x then go rest (m.next x) else ⟨x :: rest, m⟩

def skip : Nat → Cursor → Cursor
  | 0, c => c
  | n + 1, ⟨x :: rest, m⟩ => skip n ⟨rest, m.next x⟩
  | _, c => c

def isAt (word : List Char) (c : Cursor) : Bool :=
  c.mark.column == 0 && word.isPrefixOf c.rest && endsWord (c.rest.drop word.length)

def isMarker (c : Cursor) : Bool := c.isAt ['-', '-', '-'] || c.isAt ['.', '.', '.']

end Cursor

/-- Blanks and line breaks inside a scalar, before it is known whether the scalar goes on. -/
structure Gap where
  blanks : List Char := []
  first : Option (List Char) := none
  more : List Char := []
  deriving Inhabited

namespace Gap

def isBroken (g : Gap) : Bool := g.first.isSome

/-- Adds a blank or a line break. Blanks beside a line break do not count. -/
def add (g : Gap) (c : Char) : Gap :=
  if isBreak c then
    if g.isBroken then { g with more := g.more ++ [c] } else { first := some [c] }
  else if g.isBroken then g
  else { g with blanks := g.blanks ++ [c] }

/-- What a gap between two characters stands for: one line feed is a space, and of several the
first does not count. -/
def text (g : Gap) : List Char :=
  match g.first with
  | none => g.blanks
  | some b => if b = ['\n'] then (if g.more.isEmpty then [' '] else g.more) else b ++ g.more

end Gap

def isFlowIndicator (c : Char) : Bool :=
  c == ',' || c == '[' || c == ']' || c == '\x7b' || c == '\x7d'

/-- Reads a plain scalar: its text, whether a line break was read after it, and what is left.
Outside of flow collections its lines are indented by `indent` at least. `done` is the text in
reverse. -/
def plainScalar (flow : Bool) (indent : Nat) (done : List Char) (gap : Gap) :
    List Char → Mark → Except Fault (List Char × Bool × Cursor)
  | [], m => .ok (done.reverse, gap.isBroken, ⟨[], m⟩)
  | c :: rest, m =>
    let stop := .ok (done.reverse, gap.isBroken, ⟨c :: rest, m⟩)
    let starts := done.isEmpty || gap.isBroken || !gap.blanks.isEmpty
    if isSpace c || isBreak c then
      if gap.isBroken && m.column < indent && c == '\t' then .error .tab
      else plainScalar flow indent done (gap.add c) rest (m.next c)
    else if gap.isBroken && !flow && m.column < indent then stop
    else if starts && (c == '#' || (Cursor.mk (c :: rest) m).isMarker) then stop
    else if flow && c == ':' && (rest.head?.any fun d => isFlowIndicator d || d == '?') then
      .error .flowColon
    else if (c == ':' && endsWord rest) || (flow && isFlowIndicator c) then stop
    else plainScalar flow indent (c :: gap.text.reverse ++ done) {} rest (m.next c)

def escaped? (c : Char) : Option Char :=
  ([('0', '\x00'), ('a', '\x07'), ('b', '\x08'), ('t', '\t'), ('\t', '\t'), ('n', '\n'),
    ('v', '\x0b'), ('f', '\x0c'), ('r', '\r'), ('e', '\x1b'), (' ', ' '), ('"', '"'), ('/', '/'),
    ('\\', '\\'), ('N', '\u0085'), ('_', '\u00a0'), ('L', '\u2028'), ('P', '\u2029')]).lookup c

def escapeLength? (c : Char) : Option Nat :=
  [('x', 2), ('u', 4), ('U', 8)].lookup c

def charOf? (n : Nat) : Option Char := if n.isValidChar then some (Char.ofNat n) else none

inductive Escape where
  | none
  | backslash
  | digits (left value : Nat)

def quotedScalar (double : Bool) (done : List Char) (gap : Gap) (escape : Escape) :
    List Char → Mark → Except Fault (List Char × Cursor)
  | [], _ => .error .unclosedQuote
  | c :: rest, m =>
    let go (cs : List Char) (e : Escape) :=
      quotedScalar double (cs ++ gap.text.reverse ++ done) {} e rest (m.next c)
    match escape with
    | .digits left value =>
      match Json.Document.hexValue? c, left with
      | some d, 0 | some d, 1 =>
        match charOf? (value * 16 + d) with
        | some x => go [x] .none
        | none => .error .escape
      | some d, left + 1 => go [] (.digits left (value * 16 + d))
      | none, _ => .error .escape
    | .backslash =>
      if isBreak c then quotedScalar double done { first := some [] } .none rest (m.next c)
      else match escaped? c, escapeLength? c with
        | some x, _ => go [x] .none
        | none, some n => go [] (.digits n 0)
        | none, none => .error .escape
    | .none =>
      if (Cursor.mk (c :: rest) m).isMarker then .error .markerInQuote
      else if isSpace c || isBreak c then
        quotedScalar double done (gap.add c) .none rest (m.next c)
      else if double && c == '\\' then go [] .backslash
      else if double && c == '"' then
        .ok ((gap.text.reverse ++ done).reverse, ⟨rest, m.next c⟩)
      else if !double && c == '\'' then
        match rest with
        | '\'' :: after =>
          quotedScalar double ('\'' :: gap.text.reverse ++ done) {} .none after
            ((m.next c).next c)
        | _ => .ok ((gap.text.reverse ++ done).reverse, ⟨rest, m.next c⟩)
      else go [c] .none

inductive Chomping where
  | strip
  | clip
  | keep
  deriving DecidableEq, Repr, Inhabited

structure BlockHeader where
  chomping : Chomping := .clip
  increment : Option Nat := none
  deriving Inhabited

def chomping? (c : Char) : Option Chomping := [('+', .keep), ('-', .strip)].lookup c

def increment? (c : Char) : Option Nat :=
  if Json.Numeral.isDigit c then some (Json.Numeral.digitValue c) else none

/-- Reads what follows the mark of a block scalar on its line, but for blanks and a comment. -/
def BlockHeader.read : List Char → BlockHeader × Nat
  | a :: rest =>
    match chomping? a, increment? a, rest with
    | some ch, _, b :: _ => match increment? b with
      | some n => (⟨ch, some n⟩, 2)
      | none => (⟨ch, none⟩, 1)
    | some ch, _, [] => (⟨ch, none⟩, 1)
    | none, some n, b :: _ => match chomping? b with
      | some ch => (⟨ch, some n⟩, 2)
      | none => (⟨.clip, some n⟩, 1)
    | none, some n, [] => (⟨.clip, some n⟩, 1)
    | none, none, _ => ({}, 0)
  | [] => ({}, 0)

structure Block where
  done : List Char := []
  /-- The line break after the last line, and the empty lines behind that. -/
  last : List Char := []
  empty : List Char := []
  /-- The last line starts with a blank, which keeps its line breaks from being folded. -/
  indented : Bool := false
  deriving Inhabited

namespace Block

def startLine (folded : Bool) (b : Block) (c : Char) : Block :=
  let kept :=
    if folded && b.last == ['\n'] && !b.indented && !isSpace c then
      if b.empty.isEmpty then [' '] else []
    else b.last
  { done := (kept ++ b.empty).reverse ++ b.done, indented := isSpace c }

def close (b : Block) (chomping : Chomping) : List Char :=
  b.done.reverse ++ (if chomping = .strip then [] else b.last) ++
    (if chomping = .keep then b.empty else [])

end Block

/-- Reads the lines of a block scalar, whose indentation is that of its first line that is not
empty unless it is known, but `least` at least. `inside` tells that a line has begun, and `widest`
is the widest indentation of the empty lines before the first. -/
def blockScalar (folded : Bool) (chomping : Chomping) (least : Nat) (indent : Option Nat)
    (widest : Nat) (inside : Bool) (b : Block) :
    List Char → Mark → Except Fault (List Char × Cursor)
  | [], m => .ok (b.close chomping, ⟨[], m⟩)
  | c :: rest, m =>
    if inside then
      if isBreak c then
        blockScalar folded chomping least indent widest false { b with last := [c] } rest (m.next c)
      else
        blockScalar folded chomping least indent widest true { b with done := c :: b.done } rest
          (m.next c)
    else
      let within := indent.all fun n => m.column < n
      let widest := max widest m.column
      if within && c == ' ' then
        blockScalar folded chomping least indent widest false b rest (m.next c)
      else if within && c == '\t' then .error .tab
      else if isBreak c then
        blockScalar folded chomping least indent widest false { b with empty := b.empty ++ [c] }
          rest (m.next c)
      else
        let n := indent.getD (max widest least)
        if m.column = n then
          let b := b.startLine folded c
          blockScalar folded chomping least (some n) widest true { b with done := c :: b.done } rest
            (m.next c)
        else .ok (b.close chomping, ⟨c :: rest, m⟩)

structure Candidate where
  position : Nat
  /-- The token can be nothing but a key. -/
  required : Bool
  mark : Mark
  deriving DecidableEq, Repr, Inhabited

structure Scan where
  cursor : Cursor
  tokens : List Token := []
  size : Nat := 0
  indents : List Nat := []
  keyAllowed : Bool := true
  candidate : Option Candidate := none
  /-- The candidates outside of the open flow collections, the innermost first. -/
  outer : List (Option Candidate) := []
  deriving Inhabited

namespace Scan

def inFlow (s : Scan) : Bool := !s.outer.isEmpty

def column (s : Scan) : Nat := s.cursor.mark.column

def push (s : Scan) (t : Token) : Scan := { s with tokens := t :: s.tokens, size := s.size + 1 }

def insertAt (s : Scan) (position : Nat) (t : Token) : Scan :=
  let n := s.size - position
  { s with tokens := s.tokens.take n ++ t :: s.tokens.drop n, size := s.size + 1 }

def skip (s : Scan) (n : Nat) : Scan := { s with cursor := s.cursor.skip n }

/-- Skips blanks, comments and line breaks. After a line break outside of flow collections a key
may stand, and where a key may stand no tab is skipped. -/
def skipBlanks : Nat → Scan → Scan
  | 0, s => s
  | fuel + 1, s =>
    let tabs := s.inFlow || !s.keyAllowed
    let cursor := s.cursor.skipWhile fun c => c == ' ' || (tabs && c == '\t')
    let cursor := if cursor.rest.head? = some '#' then cursor.skipWhile fun c => !isBreak c
      else cursor
    match cursor.rest with
    | c :: _ =>
      if isBreak c then
        skipBlanks fuel { s with cursor := cursor.skip 1, keyAllowed := s.keyAllowed || !s.inFlow }
      else { s with cursor }
    | [] => { s with cursor }

def closeBlocks (column : Nat) : List Nat → Scan → Scan
  | [], s => { s with indents := [] }
  | n :: rest, s =>
    if column < n then closeBlocks column rest (s.push .blockEnd)
    else { s with indents := n :: rest }

def unroll (s : Scan) (column : Option Nat) : Scan :=
  if s.inFlow then s
  else match column with
    | some n => closeBlocks n s.indents s
    | none => { s.indents.foldl (fun s _ => s.push .blockEnd) s with indents := [] }

def openBlock (s : Scan) (column position : Nat) (t : Token) : Scan :=
  if s.inFlow || s.indents.head?.any fun n => column ≤ n then s
  else { s.insertAt position t with indents := column :: s.indents }

def dropKey (s : Scan) : Except Fault Scan :=
  if s.candidate.any Candidate.required then .error .missingColon
  else .ok { s with candidate := none }

def saveKey (s : Scan) : Except Fault Scan :=
  if s.keyAllowed then do
    let s ← s.dropKey
    let required := !s.inFlow && s.indents.head? == some s.column
    return { s with candidate := some ⟨s.size, required, s.cursor.mark⟩ }
  else .ok s

def liveKey (s : Scan) : Except Fault (Option Candidate) :=
  match s.candidate with
  | none => .ok none
  | some k =>
    if k.mark.line < s.cursor.mark.line || k.mark.index + 1024 < s.cursor.mark.index then
      if k.required then .error .missingColon else .ok none
    else .ok (some k)

def document (s : Scan) (t : Token) : Except Fault Scan := do
  let s ← (s.unroll none).dropKey
  return ({ s with keyAllowed := false }.skip 3).push t

def openFlow (s : Scan) (t : Token) : Except Fault Scan := do
  let s ← s.saveKey
  return ({ s with candidate := none, outer := s.candidate :: s.outer, keyAllowed := true }.skip
    1).push t

def closeFlow (s : Scan) (t : Token) : Except Fault Scan := do
  let s ← s.dropKey
  let s := match s.outer with
    | k :: rest => { s with candidate := k, outer := rest }
    | [] => s
  return ({ s with keyAllowed := false }.skip 1).push t

def comma (s : Scan) : Except Fault Scan := do
  let s ← s.dropKey
  return ({ s with keyAllowed := true }.skip 1).push .comma

def entry (s : Scan) : Except Fault Scan := do
  if !s.inFlow && !s.keyAllowed then throw .sequenceEntry
  let s ← (s.openBlock s.column s.size .blockSequence).dropKey
  return ({ s with keyAllowed := true }.skip 1).push .entry

def explicitKey (s : Scan) : Except Fault Scan := do
  if !s.inFlow && !s.keyAllowed then throw .mappingKey
  let s ← (s.openBlock s.column s.size .blockMapping).dropKey
  return ({ s with keyAllowed := !s.inFlow }.skip 1).push .key

def colon (s : Scan) : Except Fault Scan := do
  match ← s.liveKey with
  | some k =>
    let s := (s.insertAt k.position .key).openBlock k.mark.column k.position .blockMapping
    return ({ s with candidate := none, keyAllowed := false }.skip 1).push .value
  | none =>
    if !s.inFlow && !s.keyAllowed then throw .mappingValue
    let s := s.openBlock s.column s.size .blockMapping
    return ({ s with candidate := none, keyAllowed := !s.inFlow }.skip 1).push .value

def plain (s : Scan) : Except Fault Scan := do
  let s ← s.saveKey
  let indent := match s.indents with
    | [] => 0
    | n :: _ => n + 1
  let (cs, broken, cursor) ← plainScalar s.inFlow indent [] {} s.cursor.rest s.cursor.mark
  return { s with cursor, keyAllowed := broken }.push (.scalar true (String.ofList cs))

def quoted (s : Scan) (double : Bool) : Except Fault Scan := do
  let s ← s.saveKey
  let start := s.cursor.skip 1
  let (cs, cursor) ← quotedScalar double [] {} .none start.rest start.mark
  return { s with cursor, keyAllowed := false }.push (.scalar false (String.ofList cs))

def block (s : Scan) (folded : Bool) : Except Fault Scan := do
  let s ← s.dropKey
  let start := s.cursor.skip 1
  let (header, n) := BlockHeader.read start.rest
  if header.increment = some 0 then throw .blockHeader
  let after := (start.skip n).skipWhile isSpace
  let after := if after.rest.head? = some '#' then after.skipWhile fun c => !isBreak c else after
  if after.rest.head?.any fun c => !isBreak c then throw .blockHeader
  let body := after.skip 1
  let base := s.indents.head?
  let indent := header.increment.map fun n => base.getD 0 + n
  let least := max 1 ((base.map (· + 1)).getD 0)
  let (cs, cursor) ← blockScalar folded header.chomping least indent 0 false {} body.rest body.mark
  return { s with cursor, keyAllowed := true }.push (.scalar false (String.ofList cs))

def next (s : Scan) : Except Fault (Option Scan) :=
  let s := s.skipBlanks (s.cursor.rest.length + 1)
  let s := s.unroll (some s.column)
  match s.cursor.rest with
  | [] => (s.unroll none).dropKey.map fun _ => none
  | c :: rest =>
    some <$>
      if s.cursor.isAt ['-', '-', '-'] then s.document .documentStart
      else if s.cursor.isAt ['.', '.', '.'] then s.document .documentEnd
      else if c = '[' then s.openFlow .flowSequence
      else if c = '\x7b' then s.openFlow .flowMapping
      else if c = ']' then s.closeFlow .flowSequenceEnd
      else if c = '\x7d' then s.closeFlow .flowMappingEnd
      else if c = ',' then s.comma
      else if c = '-' ∧ endsWord rest then s.entry
      else if c = '?' ∧ (s.inFlow ∨ endsWord rest) then s.explicitKey
      else if c = ':' ∧ (s.inFlow ∨ endsWord rest) then s.colon
      else if c = '\'' then s.quoted false
      else if c = '"' then s.quoted true
      else if c = '|' ∧ !s.inFlow then s.block false
      else if c = '>' ∧ !s.inFlow then s.block true
      else if c = '&' ∨ c = '*' ∨ c = '!' ∨ (c = '%' ∧ s.column = 0) then .error (.unsupported c)
      else if isSpace c || ['#', '|', '>', '%', '@', '\x60'].contains c then .error (.noToken c)
      else s.plain

/-- Reads tokens to the end of the text or to a fault. Every token takes a character at least. -/
def run : Nat → Scan → List Token
  | 0, s => s.tokens.reverse
  | fuel + 1, s =>
    match s.next with
    | .error f => (Token.fault f :: s.tokens).reverse
    | .ok none => (s.unroll none).tokens.reverse
    | .ok (some s) => run fuel s

end Scan

def tokens (text : String) : List Token :=
  let cs := match text.toList with
    | '\uFEFF' :: rest => rest
    | cs => cs
  if cs.all isAllowed then Scan.run (cs.length + 1) { cursor := ⟨normalBreaks cs, {}⟩ }
  else [.fault .controlCharacter]

end MachineFleet.Yaml
