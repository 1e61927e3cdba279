import MachineFleet.Json.Printer
import MachineFleet.Yaml.Scalar

/-!
The text of a value in YAML, in block style: two spaces for each level, sequences at the level of
their key. A text is plain where that reads back as the same text; otherwise it is in single
quotation marks, in double ones if it holds characters that are not shown, or, with line feeds in
it, a literal block.
-/

namespace MachineFleet.Yaml

def truthWords : List String :=
  ["y", "Y", "yes", "Yes", "YES", "n", "N", "no", "No", "NO", "true", "True", "TRUE", "false",
    "False", "FALSE", "on", "On", "ON", "off", "Off", "OFF"]

/-- A plain scalar with this text would mean something else than the text. -/
def isMistakable (s : String) : Bool :=
  truthWords.contains s || Scalar.ofPlain s != .text || Scalar.isPadded s.toList

def isLineBreak (c : Char) : Bool := c == '\n' || c == '\u2028' || c == '\u2029'

def isHidden (c : Char) : Bool :=
  let n := c.toNat
  (n < 0x20 && n != 0x0A) || (0x7F ≤ n && n < 0xA0) || n == 0xFEFF || 0xFFFE ≤ n

def atWordEnd : List Char → Bool
  | [] => true
  | c :: _ => c == ' ' || c == '\t' || isLineBreak c || c == '\r' || c == '\u0085'

def isIndicator (c : Char) : Bool :=
  ['#', ',', '[', ']', '\x7b', '\x7d', '&', '*', '!', '|', '>', '\'', '"', '%', '@',
    '\x60'].contains c

def startsSpecially (cs : List Char) : Bool :=
  ['-', '-', '-'].isPrefixOf cs || ['.', '.', '.'].isPrefixOf cs ||
    match cs with
    | [] => false
    | c :: rest => isIndicator c || (['?', ':', '-'].contains c && atWordEnd rest)

/-- After the first character there is a colon at the end of a word or a number sign at the start
of one; `spaced` tells that a word may start here. -/
def hasIndicator (spaced : Bool) : List Char → Bool
  | [] => false
  | c :: rest =>
    (c == ':' && atWordEnd rest) || (c == '#' && spaced) ||
      hasIndicator (atWordEnd [c]) rest

def hasPair (p q : Char → Bool) : List Char → Bool
  | a :: b :: rest => (p a && q b) || hasPair p q (b :: rest)
  | _ => false

inductive Style where
  | plain
  | single
  | double
  | literal
  deriving DecidableEq, Repr

def isSpaceChar (c : Char) : Bool := c == ' '

def fitsSingle (cs : List Char) : Bool :=
  !cs.any isHidden && !hasPair isLineBreak isSpaceChar cs && !hasPair isSpaceChar isLineBreak cs

def fitsPlain (cs : List Char) : Bool :=
  fitsSingle cs && !cs.any isLineBreak && cs.head? != some ' ' && cs.getLast? != some ' ' &&
    !startsSpecially cs && !hasIndicator (cs.head?.any fun c => atWordEnd [c]) cs.tail

def fitsLiteral (cs : List Char) : Bool :=
  !cs.any isHidden && !hasPair isSpaceChar isLineBreak cs && cs.getLast? != some ' '

def styleOf (s : String) : Style :=
  let cs := s.toList
  if cs.contains '\n' then if fitsLiteral cs then .literal else .double
  else if !isMistakable s && fitsPlain cs then .plain
  else if fitsSingle cs then .single
  else .double

def letterOf? (c : Char) : Option Char :=
  ([('\x00', '0'), ('\x07', 'a'), ('\x08', 'b'), ('\t', 't'), ('\n', 'n'), ('\x0b', 'v'),
    ('\x0c', 'f'), ('\r', 'r'), ('\x1b', 'e'), ('"', '"'), ('\\', '\\'), ('\u0085', 'N'),
    ('\u2028', 'L'), ('\u2029', 'P')]).lookup c

def hexDigits (width n : Nat) : List Char :=
  let ds := (Nat.toDigits 16 n).map Char.toUpper
  List.replicate (width - ds.length) '0' ++ ds

def codePoint (c : Char) : List Char :=
  let n := c.toNat
  if n ≤ 0xFF then 'x' :: hexDigits 2 n
  else if n ≤ 0xFFFF then 'u' :: hexDigits 4 n
  else 'U' :: hexDigits 8 n

def doubleChar (c : Char) : List Char :=
  if isHidden c || isLineBreak c || c == '"' || c == '\\' then
    '\\' :: match letterOf? c with
      | some l => [l]
      | none => codePoint c
  else [c]

def spaces (n : Nat) : List Char := List.replicate n ' '

/-- Indents what follows a line break; `broken` at the start of a line. -/
def indentLines (indent : Nat) (broken : Bool) : List Char → List Char
  | [] => []
  | c :: rest =>
    if isLineBreak c then c :: indentLines indent true rest
    else (if broken then spaces indent else []) ++ c :: indentLines indent false rest

/-- What tells how a block ends: with its last line, with one line break or with several. -/
def chompingMark (cs : List Char) : List Char :=
  match cs.reverse with
  | a :: b :: _ => if !isLineBreak a then ['-'] else if isLineBreak b then ['+'] else []
  | [a] => if isLineBreak a then ['+'] else ['-']
  | [] => ['-']

def literalText (indent : Nat) (cs : List Char) : List Char :=
  let hint := if cs.head?.any fun c => c == ' ' || isLineBreak c then ['2'] else []
  '|' :: hint ++ chompingMark cs ++ '\n' :: indentLines indent true cs

def textIn (indent : Nat) (s : String) : List Char :=
  let cs := s.toList
  match styleOf s with
  | .plain => cs
  | .single => '\'' :: indentLines (indent + 2) false
      (cs.flatMap fun c => if c = '\'' then ['\'', '\''] else [c]) ++ ['\'']
  | .double => '"' :: cs.flatMap doubleChar ++ ['"']
  | .literal => literalText (indent + 2) cs

def numberText (n : Json.Number) : List Char := n.text.filter (· != '+')

def isSimpleKey (k : String) : Bool := !k.toList.any isLineBreak && k.utf8ByteSize ≤ 128

def newLine (indent : Nat) (text : List Char) : List Char :=
  text ++ (if text.getLast? = some '\n' then [] else ['\n']) ++ spaces indent

mutual

def entryText (indent : Nat) : Json → List Char
  | .null => " null".toList
  | .bool b => (if b then " true" else " false").toList
  | .num n => ' ' :: numberText n
  | .str s => ' ' :: textIn indent s
  | .arr [] => " []".toList
  | .arr items => ' ' :: entriesText (indent + 2) items
  | .obj [] => " \x7b\x7d".toList
  | .obj members => ' ' :: membersText (indent + 2) members

def memberText (indent : Nat) : Json → List Char
  | .null => " null".toList
  | .bool b => (if b then " true" else " false").toList
  | .num n => ' ' :: numberText n
  | .str s => ' ' :: textIn indent s
  | .arr [] => " []".toList
  | .arr items => '\n' :: spaces indent ++ entriesText indent items
  | .obj [] => " \x7b\x7d".toList
  | .obj members => '\n' :: spaces (indent + 2) ++ membersText (indent + 2) members

def entriesText (indent : Nat) : List Json → List Char
  | [] => []
  | [j] => '-' :: entryText indent j
  | j :: rest => newLine indent ('-' :: entryText indent j) ++ entriesText indent rest

/-- The members of a mapping. A key that is not simple has a question mark in front and its value
on a line of its own. -/
def membersText (indent : Nat) : List (String × Json) → List Char
  | [] => []
  | (k, j) :: rest =>
    let member :=
      if isSimpleKey k then textIn indent k ++ ':' :: memberText indent j
      else newLine indent ('?' :: ' ' :: textIn indent k) ++ ':' :: entryText indent j
    match rest with
    | [] => member
    | rest => newLine indent member ++ membersText indent rest

end

def print (j : Json) : String :=
  let text := match j with
    | .obj (m :: ms) => membersText 0 (m :: ms)
    | .arr (x :: xs) => entriesText 0 (x :: xs)
    | .str s => textIn 0 s
    | j => (entryText 0 j).tail
  String.ofList (newLine 0 text)

end MachineFleet.Yaml
