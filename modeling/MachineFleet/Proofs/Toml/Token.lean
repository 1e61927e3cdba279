import Mathlib.Data.List.TakeWhile
import MachineFleet.Json.Document
import MachineFleet.Toml

/-!
Tokens of TOML, and how a text is taken apart into them. Of the four notations for a text, those
with a single quotation mark at each end stay on their line, and those with three marks may have
several lines. Behind the three marks at the end up to two more may stand, which belong to the text.

Line ends in texts are single line feeds, and a line that a backslash joins to the next one is not
read.
-/

namespace MachineFleet.Toml

inductive Token where
  /-- The characters of a bare key, a number or a switch. -/
  | word (cs : List Char)
  /-- A text, which can be a key if it is in single marks. -/
  | text (s : String) (single : Bool)
  | mark (c : Char)
  | newline
  deriving DecidableEq

/-- A key is a word or a text in single marks. -/
def Token.key? : Token → Option String
  | .word cs => some (String.ofList cs)
  | .text s true => some s
  | _ => none

/-- The character that a letter stands for behind a backslash. -/
def escaped? (c : Char) : Option Char :=
  if c = '"' ∨ c = '\\' then some c
  else if c = 'b' then some '\x08'
  else if c = 't' then some '\t'
  else if c = 'n' then some '\n'
  else if c = 'f' then some '\x0c'
  else if c = 'r' then some '\r'
  else none

/-- The character with the given number, unless it is none. -/
def scalar? (n : Nat) : Option Char := if n.isValidChar then some (Char.ofNat n) else none

def shortCode? (a b c d : Char) : Option Char := (Json.Document.codeUnit? a b c d).bind scalar?

def longCode? (a b c d e f g h : Char) : Option Char := do
  scalar? ((← Json.Document.codeUnit? a b c d) * 0x10000 + (← Json.Document.codeUnit? e f g h))

/-- A character that stands for itself in a text with several lines or with one. -/
def plain? (lines : Bool) (c : Char) : Option Char :=
  if isControl c || (c == '\n' && !lines) then none else some c

/-- One more character in front of a text that has been read. -/
def push (c : Option Char) (r : Option (List Char × List Char)) :
    Option (List Char × List Char) :=
  c.bind fun c => r.map fun r => (c :: r.1, r.2)

/-- The marks behind three in a row that still belong to the text, and what stands behind them. -/
def closing (q : Char) (cs : List Char) : List Char × List Char :=
  let more := (cs.take 2).takeWhile (· == q)
  (more, cs.drop more.length)

/-- The end of a text at a quotation mark, by what stands behind the mark. -/
def ending? (q : Char) (lines : Bool) (rest : List Char) : Option (List Char × List Char) :=
  if !lines then some ([], rest)
  else if [q, q].isPrefixOf rest then some (closing q (rest.drop 2))
  else none

/-- Reads a text with escapes behind its opening. -/
def readBasic (lines : Bool) : List Char → Option (List Char × List Char)
  | [] => none
  | '\\' :: 'u' :: a :: b :: c :: d :: rest => push (shortCode? a b c d) (readBasic lines rest)
  | '\\' :: 'U' :: a :: b :: c :: d :: e :: f :: g :: h :: rest =>
    push (longCode? a b c d e f g h) (readBasic lines rest)
  | '\\' :: c :: rest => push (escaped? c) (readBasic lines rest)
  | c :: rest =>
    if c = '"' then (ending? '"' lines rest).or (push (some c) (readBasic lines rest))
    else if c = '\\' then none
    else push (plain? lines c) (readBasic lines rest)

/-- Reads a text without escapes behind its opening. -/
def readLiteral (lines : Bool) : List Char → Option (List Char × List Char)
  | [] => none
  | c :: rest =>
    if c = '\'' then (ending? '\'' lines rest).or (push (some c) (readLiteral lines rest))
    else push (plain? lines c) (readLiteral lines rest)

/-- A line end right behind three marks is not part of the text. -/
def dropNewline : List Char → List Char
  | '\n' :: rest => rest
  | '\r' :: '\n' :: rest => rest
  | cs => cs

/-- Reads a text in one of two notations behind its first mark. -/
def readText (q : Char) (chars : Bool → List Char → Option (List Char × List Char))
    (cs : List Char) : Option (List Token × List Char) :=
  if [q, q].isPrefixOf cs then
    (chars true (dropNewline (cs.drop 2))).map fun r => ([.text (String.ofList r.1) false], r.2)
  else (chars false cs).map fun r => ([.text (String.ofList r.1) true], r.2)

def isMark (c : Char) : Bool := ['[', ']', '.', ',', '='].contains c

/-- The token that begins with a character, none for blanks and comments, and what stands behind
it. -/
def next? (c : Char) (rest : List Char) : Option (List Token × List Char) :=
  if c = ' ' ∨ c = '\t' then some ([], rest)
  else if c = '\n' then some ([.newline], rest)
  else if c = '\r' then if rest.head? = some '\n' then some ([.newline], rest.tail) else none
  else if c = '#' then some ([], rest.dropWhile fun c => !isControl c && c != '\n')
  else if c = '"' then readText '"' readBasic rest
  else if c = '\'' then readText '\'' readLiteral rest
  else if isMark c then some ([.mark c], rest)
  else if isBareChar c then
    some ([.word (c :: rest.takeWhile isBareChar)], rest.dropWhile isBareChar)
  else none

variable {lines : Bool} {q c : Char} {cs rest : List Char} {r : List Char × List Char}

theorem push_shorter {o : Option Char} {read : Option (List Char × List Char)} {n : Nat}
    (shorter : ∀ r, read = some r → r.2.length ≤ n) (result : push o read = some r) :
    r.2.length ≤ n := by
  obtain ⟨c, -, later⟩ := Option.bind_eq_some_iff.mp result
  obtain ⟨r', read', rfl⟩ := Option.map_eq_some_iff.mp later
  exact shorter r' read'

theorem ending?_shorter (result : ending? q lines rest = some r) : r.2.length ≤ rest.length := by
  unfold ending? at result
  split at result
  · cases result
    exact Nat.le_refl _
  split at result
  · cases result
    simp only [closing, List.length_drop]
    omega
  · cases result

theorem readBasic_shorter (result : readBasic lines cs = some r) : r.2.length ≤ cs.length := by
  fun_induction readBasic lines cs generalizing r with
  | case1 => cases result
  | case2 a b c d rest ih =>
    have shorter := push_shorter (fun r => ih) result
    simp only [List.length_cons]
    omega
  | case3 a b c d e f g h rest ih =>
    have shorter := push_shorter (fun r => ih) result
    simp only [List.length_cons]
    omega
  | case4 c rest _ _ ih =>
    have shorter := push_shorter (fun r => ih) result
    simp only [List.length_cons]
    omega
  | case5 rest _ _ _ ih =>
    rcases Option.or_eq_some_iff.mp result with ended | ⟨-, later⟩
    · exact Nat.le_succ_of_le (ending?_shorter ended)
    · exact Nat.le_succ_of_le (push_shorter (fun r => ih) later)
  | case6 => cases result
  | case7 c rest _ _ _ _ _ ih => exact Nat.le_succ_of_le (push_shorter (fun r => ih) result)

theorem readLiteral_shorter (result : readLiteral lines cs = some r) :
    r.2.length ≤ cs.length := by
  induction cs generalizing r with
  | nil => cases result
  | cons c rest ih =>
    unfold readLiteral at result
    split at result
    · rcases Option.or_eq_some_iff.mp result with ended | ⟨-, later⟩
      · exact Nat.le_succ_of_le (ending?_shorter ended)
      · exact Nat.le_succ_of_le (push_shorter (fun r => ih) later)
    · exact Nat.le_succ_of_le (push_shorter (fun r => ih) result)

theorem length_dropNewline (cs : List Char) : (dropNewline cs).length ≤ cs.length := by
  unfold dropNewline
  split
  · exact Nat.le_succ _
  · exact Nat.le_succ_of_le (Nat.le_succ _)
  · exact Nat.le_refl _

theorem readText_shorter {chars : Bool → List Char → Option (List Char × List Char)}
    (shorter : ∀ lines cs r, chars lines cs = some r → r.2.length ≤ cs.length)
    {t : List Token × List Char} (result : readText q chars cs = some t) :
    t.2.length ≤ cs.length := by
  unfold readText at result
  split at result
  · obtain ⟨r, read, rfl⟩ := Option.map_eq_some_iff.mp result
    have whole := shorter _ _ _ read
    have opened := length_dropNewline (cs.drop 2)
    simp only [List.length_drop] at opened
    exact Nat.le_trans whole (by omega)
  · obtain ⟨r, read, rfl⟩ := Option.map_eq_some_iff.mp result
    exact shorter _ _ _ read

/-- No more is left behind a token than there was behind its first character. -/
theorem next?_shorter {t : List Token × List Char} (result : next? c rest = some t) :
    t.2.length ≤ rest.length := by
  unfold next? at result
  split at result
  · cases result
    exact Nat.le_refl _
  split at result
  · cases result
    exact Nat.le_refl _
  split at result
  · split at result
    · cases result
      simp
    · cases result
  split at result
  · cases result
    exact (List.dropWhile_suffix _).length_le
  split at result
  · exact readText_shorter (fun _ _ _ => readBasic_shorter) result
  split at result
  · exact readText_shorter (fun _ _ _ => readLiteral_shorter) result
  split at result
  · cases result
    exact Nat.le_refl _
  split at result
  · cases result
    exact (List.dropWhile_suffix _).length_le
  · cases result

def tokens : List Char → Option (List Token)
  | [] => some []
  | c :: rest =>
    match _ : next? c rest with
    | none => none
    | some t => (tokens t.2).map (t.1 ++ ·)
  termination_by cs => cs.length
  decreasing_by exact Nat.lt_succ_of_le (next?_shorter (by assumption))

theorem tokens_nil : tokens [] = some [] := by rw [tokens]

theorem tokens_cons (c : Char) (rest : List Char) :
    tokens (c :: rest) = (next? c rest).bind fun t => (tokens t.2).map (t.1 ++ ·) := by
  rw [tokens]
  split
  · rename_i none
    rw [none]
    rfl
  · rename_i t some
    rw [some]
    rfl

end MachineFleet.Toml
