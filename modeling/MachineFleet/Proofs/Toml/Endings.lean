import MachineFleet.Proofs.Toml.Lines

/-!
How a document ends. Its last line ends with a character that is seen, so that without the end of
that line nothing is lost of the document.
-/

namespace MachineFleet.Toml

open MachineFleet.Text

/-- The text ends with the end of a line, and the line with a character that is seen. -/
def Closed (t : List Char) : Prop := ∃ b c, t = b ++ [c, '\n'] ∧ isBlank c = false

theorem valueText_ends (v : Toml) (single : v.isTable = false) :
    ∃ b c, valueText v = b ++ [c] ∧ isBlank c = false := by
  cases v with
  | str s =>
    have bare : Bare ['a'] := ⟨by decide, by simp [isBareChar]⟩
    obtain ⟨marks, body, quoted⟩ := quoted_stringText bare s
    obtain ⟨b, c, ends, _, shown⟩ := quoted.ends
    exact ⟨marks ++ (body ++ b), c, by simp [valueText, quoted.whole, ends], shown⟩
  | int n =>
    have filled : Nat.toDigits 10 n ≠ [] := Nat.toDigits_ne_nil
    refine ⟨_, _, (List.dropLast_concat_getLast filled).symm, nonblank_of_isDigit ?_⟩
    exact Nat.isDigit_of_mem_toDigits (by decide) (by decide) (List.getLast_mem filled)
  | bool b =>
    cases b with
    | false => exact ⟨['f', 'a', 'l', 's'], 'e', rfl, rfl⟩
    | true => exact ⟨['t', 'r', 'u'], 'e', rfl, rfl⟩
  | strings items => exact ⟨_, ']', rfl, rfl⟩
  | table entries => cases single

theorem Closed.behind {t : List Char} (closed : Closed t) (a : List Char) : Closed (a ++ t) := by
  obtain ⟨b, c, rfl, shown⟩ := closed
  exact ⟨a ++ b, c, by simp, shown⟩

theorem closed_ownLines (entries : List (String × Toml)) :
    ownLines entries = [] ∨ Closed (ownLines entries) := by
  induction entries with
  | nil => exact .inl rfl
  | cons e rest ih =>
    obtain ⟨k, v⟩ := e
    cases single : v.isTable with
    | true => simpa [ownLines, single] using ih
    | false =>
      refine .inr ?_
      rcases ih with none | closed
      · obtain ⟨b, c, text, shown⟩ := valueText_ends v single
        exact ⟨keyText k ++ [' ', '=', ' '] ++ b, c, by simp [ownLines, single, none, text], shown⟩
      · rw [ownLines]
        exact closed.behind _

theorem closed_header (path : List String) : Closed (header path) := by
  obtain ⟨m, whole, _, b, marked⟩ := header_eq path
  exact ⟨'[' :: b, ']', by simp [whole, marked], rfl⟩

mutual

theorem closed_sections : ∀ (path : List String) (v : Toml), ∀ t ∈ sections path v, Closed t
  | path, .table entries => by
    intro t member
    rw [sections] at member
    rcases List.mem_append.mp member with own | later
    · split at own
      · rw [List.mem_singleton.mp own]
        rcases closed_ownLines entries with none | closed
        · rw [none, List.append_nil]
          exact closed_header path
        · exact closed.behind _
      · cases own
    · exact closed_subsections path entries t later
  | path, .str _ => by simp [sections]
  | path, .int _ => by simp [sections]
  | path, .bool _ => by simp [sections]
  | path, .strings _ => by simp [sections]

theorem closed_subsections : ∀ (path : List String) (entries : List (String × Toml)),
    ∀ t ∈ subsections path entries, Closed t
  | path, [] => by simp [subsections]
  | path, (k, v) :: rest => by
    intro t member
    rw [subsections] at member
    rcases List.mem_append.mp member with first | later
    · exact closed_sections _ v t first
    · exact closed_subsections path rest t later

end

theorem closed_joinWith {x : List Char} {ts : List (List Char)} (filled : ts ≠ [])
    (each : ∀ t ∈ ts, Closed t) : Closed (joinWith x ts) := by
  induction ts with
  | nil => exact absurd rfl filled
  | cons t rest ih =>
    cases rest with
    | nil => exact each t List.mem_cons_self
    | cons t' rest =>
      rw [joinWith_cons_cons, ← List.append_assoc]
      exact (ih (by simp) fun t member => each t (List.mem_cons_of_mem _ member)).behind _

/-- Without the end of its last line, a document with values of its own is as it was. -/
theorem documentText_trimmed {entries : List (String × Toml)} (filled : ownLines entries ≠ []) :
    documentText entries = dropTrailingBlanks (documentText entries) ++ ['\n'] := by
  have closed : Closed (documentText entries) := by
    refine closed_joinWith (by simp [filled]) fun t member => ?_
    rcases List.mem_append.mp member with own | later
    · rw [if_neg (by simpa using filled)] at own
      rw [List.mem_singleton.mp own]
      exact (closed_ownLines entries).resolve_left filled
    · exact closed_subsections [] entries t later
  obtain ⟨b, c, whole, shown⟩ := closed
  rw [show b ++ [c, '\n'] = b ++ [c] ++ ['\n'] by simp] at whole
  rw [whole, dropTrailingBlanks_of_blank rfl, dropTrailingBlanks_of_shown shown]

end MachineFleet.Toml
