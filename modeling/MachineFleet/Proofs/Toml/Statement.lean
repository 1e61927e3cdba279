import MachineFleet.Proofs.Json.Integers
import MachineFleet.Proofs.Toml.Lines
import MachineFleet.Proofs.Toml.Quotation

/-!
Statements of TOML. Each line of a document has at most one of them, a header or an entry. Dotted
keys, arrays of tables and inline tables are not read, and of the values, only those a document
here can have.

The lines that are written for a table are read as its header and its entries.
-/

namespace MachineFleet.Toml

inductive Statement where
  | header (path : List String)
  | entry (e : String × Toml)

/-- The parts of a header behind its opening bracket. -/
def path? : List Token → Option (List String)
  | [t, .mark ']'] => t.key?.map ([·])
  | t :: .mark '.' :: rest => do return (← t.key?) :: (← path? rest)
  | _ => none

/-- The items of an array behind its opening bracket; a comma can stand behind the last one. -/
def items? : List Token → Option (List String)
  | [.mark ']'] => some []
  | [.text s _, .mark ']'] => some [s]
  | .text s _ :: .mark ',' :: rest => (items? rest).map (s :: ·)
  | _ => none

/-- A decimal numeral, which begins with a zero only if that is all of it. -/
def isNumeral (w : List Char) : Bool :=
  !w.isEmpty && w.all Char.isDigit && (w.head? != some '0' || w.length == 1)

def word? (w : List Char) : Option Toml :=
  if w = "true".toList then some (.bool true)
  else if w = "false".toList then some (.bool false)
  else if isNumeral w then
    let n := Nat.ofDigitChars 10 w 0
    if n < Nat.pow 2 63 then some (.int n) else none
  else none

def value? : List Token → Option Toml
  | [.word w] => word? w
  | [.text s _] => some (.str s)
  | .mark '[' :: rest => (items? rest).map .strings
  | _ => none

/-- The statement of a line, if it has one. -/
def line? : List Token → Option (List Statement)
  | [] => some []
  | .mark '[' :: rest => (path? rest).map fun path => [.header path]
  | t :: .mark '=' :: rest => do return [.entry (← t.key?, ← value? rest)]
  | _ => none

def statements (cs : List Char) : Option (List Statement) := do
  return (← ((← tokens cs).splitOnP (· == .newline)).mapM line?).flatten

variable {c : Char} {a b : List Char} {as bs : List Token}

theorem Written.nil : Written [] [] := by
  intro rest _
  rw [List.nil_append]
  exact Option.map_id'.symm

theorem Written.append (first : Written a as) (next : Written b bs)
    (apart : ∀ rest, Ends rest → Ends (b ++ rest)) : Written (a ++ b) (as ++ bs) := by
  intro rest ends
  rw [List.append_assoc, first _ (apart rest ends), next rest ends, Option.map_map]
  simp only [Function.comp_def, List.append_assoc]

theorem Written.blank (next : Written b bs) : Written (' ' :: b) bs := by
  intro rest ends
  have skipped : next? ' ' (b ++ rest) = some ([], b ++ rest) := rfl
  rw [List.cons_append, tokens_of_next? skipped, next rest ends, Option.map_map]
  rfl

theorem next?_mark (mark : isMark c = true) (rest : List Char) :
    next? c rest = some ([.mark c], rest) := by
  simp only [isMark, List.contains_iff_mem, List.mem_cons, List.not_mem_nil, or_false] at mark
  rcases mark with rfl | rfl | rfl | rfl | rfl <;> rfl

theorem Written.mark (mark : isMark c = true) (next : Written b bs) :
    Written (c :: b) (.mark c :: bs) := by
  intro rest ends
  rw [List.cons_append, tokens_of_next? (next?_mark mark _), next rest ends, Option.map_map]
  rfl

theorem ends_of_mark (mark : isMark c = true) (rest : List Char) : Ends (c :: rest) := by
  refine ends_cons ?_ rest
  simp only [isMark, List.contains_iff_mem, List.mem_cons, List.not_mem_nil, or_false] at mark
  rcases mark with rfl | rfl | rfl | rfl | rfl <;> decide

theorem ends_blank (rest : List Char) : Ends (' ' :: rest) := ends_cons (by decide) rest

theorem ends_newline (rest : List Char) : Ends ('\n' :: rest) := ends_cons (by decide) rest

theorem Token.ne_newline {t : Token} {k : String} (key : t.key? = some k) : t ≠ .newline := by
  rintro rfl
  cases key

/-- A part of a line whose tokens are read as something. -/
def Means {α : Type} (read : List Token → Option α) (cs : List Char) (x : α) : Prop :=
  ∃ ts, read ts = some x ∧ .newline ∉ ts ∧ Written cs ts

theorem means_path {path : List String} (filled : path ≠ []) :
    Means path? (joinWith ['.'] (path.map keyText) ++ [']']) path := by
  induction path with
  | nil => exact absurd rfl filled
  | cons k path ih =>
    obtain ⟨t, key, named⟩ := written_keyText k
    cases path with
    | nil =>
      refine ⟨[t, .mark ']'], by simp [path?, named], by simp [(Token.ne_newline named).symm], ?_⟩
      exact key.append (.mark rfl .nil) fun rest _ => ends_of_mark rfl rest
    | cons k' path =>
      obtain ⟨ts, read, flat, later⟩ := ih (List.cons_ne_nil k' path)
      refine ⟨t :: .mark '.' :: ts, by simp [path?, named, read],
        by simp [flat, (Token.ne_newline named).symm], ?_⟩
      rw [List.map_cons, List.map_cons, joinWith_cons_cons, ← List.map_cons, List.append_assoc]
      exact key.append (.mark rfl later) fun rest _ => ends_of_mark rfl _

theorem means_header {path : List String} (filled : path ≠ []) :
    Means line? ('[' :: (joinWith ['.'] (path.map keyText) ++ [']'])) [.header path] := by
  obtain ⟨ts, read, flat, written⟩ := means_path filled
  exact ⟨.mark '[' :: ts, by simp [line?, read], by simp [flat], .mark rfl written⟩

theorem means_items (items : List String) :
    Means items? (joinWith [',', ' '] (items.map stringText) ++ [']']) items := by
  induction items with
  | nil => exact ⟨[.mark ']'], rfl, by simp, .mark rfl .nil⟩
  | cons s items ih =>
    obtain ⟨single, text⟩ := written_stringText s
    cases items with
    | nil =>
      refine ⟨[.text s single, .mark ']'], rfl, by simp, ?_⟩
      exact text.append (.mark rfl .nil) fun rest _ => ends_of_mark rfl rest
    | cons s' items =>
      obtain ⟨ts, read, flat, later⟩ := ih
      refine ⟨.text s single :: .mark ',' :: ts, by simp [items?, read], by simp [flat], ?_⟩
      rw [List.map_cons, List.map_cons, joinWith_cons_cons, ← List.map_cons, List.append_assoc]
      exact text.append (.mark rfl (.blank later)) fun rest _ => ends_of_mark rfl _

theorem isNumeral_toDigits (n : Nat) : isNumeral (Nat.toDigits 10 n) = true := by
  have filled : Nat.toDigits 10 n ≠ [] := Nat.toDigits_ne_nil
  have digits := Json.isDigit_toDigits n
  rcases Nat.eq_zero_or_pos n with rfl | positive
  · rfl
  · simp [isNumeral, filled, Json.Numeral.head?_toDigits positive]
    exact digits

theorem word?_toDigits {n : Nat} (fits : n < Nat.pow 2 63) :
    word? (Nat.toDigits 10 n) = some (.int n) := by
  have word : ∀ w : List Char, w.all Char.isDigit = false → Nat.toDigits 10 n ≠ w := by
    rintro w other rfl
    rw [List.all_eq_true.mpr (Json.isDigit_toDigits n)] at other
    cases other
  unfold word?
  rw [if_neg (word _ (by decide)), if_neg (word _ (by decide)), if_pos (isNumeral_toDigits n),
    Nat.ofDigitChars_ten_toDigits, if_pos fits]

theorem bare_toDigits (n : Nat) : Bare (Nat.toDigits 10 n) := by
  refine ⟨Nat.toDigits_ne_nil, fun c member => ?_⟩
  have digit := Json.isDigit_toDigits n c member
  simp only [Char.isDigit, Bool.and_eq_true, decide_eq_true_eq] at digit
  simp only [isBareChar, Bool.or_eq_true, Bool.and_eq_true, decide_eq_true_eq, Char.le_def]
  exact .inl (.inl (.inr digit))

theorem bare_switch (b : Bool) : Bare (valueText (.bool b)) := by
  cases b <;> simp [Bare, valueText, isBareChar]

theorem means_value {v : Toml} (single : v.isTable = false) (fit : fits v = true) :
    Means value? (valueText v) v := by
  cases v with
  | str s =>
    obtain ⟨single, text⟩ := written_stringText s
    exact ⟨[.text s single], rfl, by simp, text⟩
  | int n =>
    refine ⟨[.word (Nat.toDigits 10 n)], ?_, by simp, written_word (bare_toDigits n)⟩
    exact word?_toDigits (of_decide_eq_true fit)
  | bool b =>
    refine ⟨[.word (valueText (.bool b))], ?_, by simp, written_word (bare_switch b)⟩
    cases b <;> rfl
  | strings items =>
    obtain ⟨ts, read, flat, written⟩ := means_items items
    exact ⟨.mark '[' :: ts, by simp [value?, read], by simp [flat], .mark rfl written⟩
  | table => cases single

theorem means_entry {v : Toml} (single : v.isTable = false) (fit : fits v = true) (k : String) :
    Means line? (keyText k ++ (' ' :: '=' :: ' ' :: valueText v)) [.entry (k, v)] := by
  obtain ⟨t, key, named⟩ := written_keyText k
  obtain ⟨ts, read, flat, written⟩ := means_value single fit
  refine ⟨t :: .mark '=' :: ts, ?_, by simp [flat, (Token.ne_newline named).symm], ?_⟩
  · cases t with
    | word => simp [line?, named, read]
    | text => simp [line?, named, read]
    | mark => cases named
    | newline => cases named
  · exact key.append (.blank (.mark rfl (.blank written))) fun rest _ => ends_blank _

/-- A text with a number of whole lines that have these statements. -/
def States (cs : List Char) (ss : List Statement) : Prop :=
  ∀ rest, statements (cs ++ rest) = (statements rest).map (ss ++ ·)

theorem states_nil : States [] [] := fun _ => Option.map_id'.symm

theorem States.append {as bs : List Statement} (first : States a as) (next : States b bs) :
    States (a ++ b) (as ++ bs) := by
  intro rest
  rw [List.append_assoc, first, next, Option.map_map]
  simp only [Function.comp_def, List.append_assoc]

theorem States.whole {ss : List Statement} (states : States a ss) :
    statements a = some ss := by
  have empty : statements [] = some [] := by simp [statements, tokens_nil, line?]
  have all := states []
  rwa [List.append_nil, empty, Option.map_some, List.append_nil] at all

theorem States.unique {as bs : List Statement} (first : States a as) (second : States a bs) :
    as = bs := Option.some.inj (first.whole.symm.trans second.whole)

theorem tokens_newline (rest : List Char) :
    tokens ('\n' :: rest) = (tokens rest).map (.newline :: ·) := by
  have next : next? '\n' rest = some ([.newline], rest) := rfl
  rw [tokens_of_next? next]
  rfl

theorem states_line {ss : List Statement} (means : Means line? a ss) :
    States (a ++ ['\n']) ss := by
  obtain ⟨ts, read, flat, written⟩ := means
  intro rest
  have whole : tokens (a ++ ['\n'] ++ rest) = (tokens rest).map (ts ++ .newline :: ·) := by
    rw [List.append_assoc, List.singleton_append, written _ (ends_newline rest), tokens_newline,
      Option.map_map]
    rfl
  unfold statements
  rw [whole]
  cases tokens rest with
  | none => rfl
  | some later =>
    have lines : (ts ++ .newline :: later).splitOnP (· == .newline) =
        ts :: later.splitOnP (· == .newline) :=
      List.splitOnP_append_cons_of_forall_mem
        (fun t member => by simpa using ne_of_mem_of_not_mem member flat) .newline (by simp) later
    simp only [Option.map_some, Option.bind_eq_bind, Option.bind_some, lines, List.mapM_cons, read]
    cases (later.splitOnP (· == .newline)).mapM line? <;> rfl

theorem states_newline : States ['\n'] [] :=
  states_line ⟨[], rfl, List.not_mem_nil, .nil⟩

theorem states_header {path : List String} (filled : path ≠ []) :
    States (header path) [.header path] := by
  have line := states_line (means_header filled)
  simpa [header] using line

theorem states_ownLines {own : List (String × Toml)} (values : ∀ e ∈ own, e.2.isTable = false)
    (fit : fitsAll own = true) : States (ownLines own) (own.map .entry) := by
  induction own with
  | nil => exact states_nil
  | cons e own ih =>
    obtain ⟨single, later⟩ := List.forall_mem_cons.mp values
    obtain ⟨k, v⟩ := e
    rw [fitsAll, Bool.and_eq_true] at fit
    have line := states_line (means_entry single fit.1 k)
    have whole := line.append (ih later fit.2)
    simpa [ownLines, single] using whole

theorem states_joinWith {α : Type} {text : α → List Char} {ss : α → List Statement} {xs : List α}
    (each : ∀ x ∈ xs, States (text x) (ss x)) :
    States (joinWith ['\n'] (xs.map text)) (xs.flatMap ss) := by
  induction xs with
  | nil => exact states_nil
  | cons x xs ih =>
    obtain ⟨first, later⟩ := List.forall_mem_cons.mp each
    cases xs with
    | nil => simpa [joinWith] using first
    | cons x' xs =>
      rw [List.map_cons, List.map_cons, joinWith_cons_cons, ← List.map_cons]
      exact first.append (states_newline.append (ih later))

end MachineFleet.Toml
