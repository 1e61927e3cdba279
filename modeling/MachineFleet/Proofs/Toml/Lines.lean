import MachineFleet.Proofs.Toml.Marks

/-!
The lines of a document. Keys never leave their line, and a value leaves it only where its text
has several lines. So a line of bare characters stands in a document exactly if it is a line of
one of its values, other than the last one of that value.
-/

namespace MachineFleet.Toml

open MachineFleet.Text

mutual

def values : Toml → List String
  | .str s => [s]
  | .int _ => []
  | .bool _ => []
  | .strings items => items
  | .table entries => valuesOf entries

def valuesOf : List (String × Toml) → List String
  | [] => []
  | (_, v) :: rest => values v ++ valuesOf rest

end

variable {d : List Char}

/-- Behind the beginning of its line, a string has what its value has. -/
theorem mem_tail_string (bare : Bare d) (s : String) {m b : List Char} (within : '\n' ∉ m) :
    d ∈ (splitOn '\n' (stringText s ++ (m ++ b))).tail ↔
      Breaks d s ∨ d ∈ (splitOn '\n' b).tail := by
  obtain ⟨marks, body, quoted⟩ := quoted_stringText bare s
  obtain ⟨x, c, ends, mark, _⟩ := quoted.ends
  have joint : Joint '\n' d (marks ++ m) :=
    joint_of_mark bare (by simp [quoted.within, within]) (by simp [ends]) mark
  rw [show stringText s ++ (m ++ b) = marks ++ (body ++ (marks ++ m) ++ b) by simp [quoted.whole],
    tail_splitOn_append quoted.within, mem_tail_splitOn_joint joint, quoted.inner]

theorem joinWith_cons_cons (x t t' : List Char) (ts : List (List Char)) :
    joinWith x (t :: t' :: ts) = t ++ (x ++ joinWith x (t' :: ts)) :=
  List.append_assoc t x _

theorem mem_tail_items (bare : Bare d) (items : List String) :
    d ∈ (splitOn '\n' (joinWith [',', ' '] (items.map stringText) ++ [']'])).tail ↔
      ∃ s ∈ items, Breaks d s := by
  induction items with
  | nil => simp [joinWith, splitOn]
  | cons s rest ih =>
    cases rest with
    | nil =>
      have last := mem_tail_string bare s (m := [']']) (b := []) (by decide)
      simpa [joinWith, splitOn] using last
    | cons s' rest =>
      have next := mem_tail_string bare s (m := [',', ' '])
        (b := joinWith [',', ' '] ((s' :: rest).map stringText) ++ [']']) (by decide)
      rw [ih] at next
      rw [List.map_cons, List.map_cons, joinWith_cons_cons, ← List.map_cons, List.append_assoc,
        List.append_assoc, next]
      simp only [List.mem_cons, exists_eq_or_imp]

theorem mem_tail_valueText (bare : Bare d) (v : Toml) (single : v.isTable = false) :
    d ∈ (splitOn '\n' (valueText v)).tail ↔ ∃ s ∈ v.values, Breaks d s := by
  cases v with
  | str s =>
    have whole := mem_tail_string bare s (m := []) (b := []) (by decide)
    simpa [valueText, values, splitOn] using whole
  | int n =>
    have free : '\n' ∉ Nat.toDigits 10 n := fun member =>
      absurd (Nat.isDigit_of_mem_toDigits (by decide) (by decide) member) (by decide)
    simp [valueText, values, splitOn_of_not_mem free]
  | bool b => cases b <;> simp [valueText, values, splitOn]
  | strings items =>
    rw [valueText, List.cons_append, ← List.singleton_append,
      tail_splitOn_append (by decide), mem_tail_items bare]
    rfl
  | table entries => cases single

theorem newline_not_mem_keyText (k : String) : '\n' ∉ keyText k := by
  have quoted : ∀ q x : List Char, '\n' ∉ q → '\n' ∉ x → '\n' ∉ q ++ (x ++ q) := by
    intro q x marks body
    simp [marks, body]
  unfold keyText
  dsimp only
  split
  · rename_i plain
    intro member
    have bare : isBareChar '\n' = true := by
      simp only [Bool.and_eq_true, List.all_eq_true] at plain
      exact plain.2 _ member
    cases bare
  split
  · exact quoted ['"'] _ (by decide) (newline_not_mem_escapeLine _)
  split
  · rename_i plain
    have flat : '\n' ∉ k.toList := by
      simp only [Bool.and_eq_true, Bool.not_eq_true', List.any_eq_false] at plain
      exact fun member => absurd (plain.1 _ member) (by decide)
    exact quoted ['\''] _ (by decide) flat
  · exact quoted ['"'] _ (by decide) (newline_not_mem_escapeLine _)

theorem newline_not_mem_joinWith {x : List Char} {ts : List (List Char)} (free : '\n' ∉ x)
    (each : ∀ t ∈ ts, '\n' ∉ t) : '\n' ∉ joinWith x ts := by
  induction ts with
  | nil => nofun
  | cons t rest ih =>
    have first := each t List.mem_cons_self
    cases rest with
    | nil => exact first
    | cons t' rest =>
      have later := ih fun t member => each t (List.mem_cons_of_mem _ member)
      simp [joinWith, first, free, later]

theorem header_eq (path : List String) :
    ∃ m, header path = m ++ ['\n'] ∧ '\n' ∉ m ∧ ∃ b, m = '[' :: (b ++ [']']) := by
  have free : '\n' ∉ joinWith ['.'] (path.map keyText) := by
    refine newline_not_mem_joinWith (by decide) fun t member => ?_
    obtain ⟨k, _, rfl⟩ := List.mem_map.mp member
    exact newline_not_mem_keyText k
  exact ⟨'[' :: (joinWith ['.'] (path.map keyText) ++ [']']), by simp [header], by simp [free],
    _, rfl⟩

/-- A line of a table's own is never bare, but those of a value in it may be. -/
theorem mem_lines_ownLines (bare : Bare d) (entries : List (String × Toml)) :
    d ∈ splitOn '\n' (ownLines entries) ↔
      ∃ e ∈ entries, e.2.isTable = false ∧ ∃ s ∈ e.2.values, Breaks d s := by
  induction entries with
  | nil => simp [ownLines, splitOn, bare.1]
  | cons e rest ih =>
    obtain ⟨k, v⟩ := e
    simp only [ownLines, List.mem_cons, exists_eq_or_imp]
    cases single : v.isTable with
    | true =>
      rw [if_pos rfl, List.nil_append, ih]
      simp
    | false =>
      have joint : Joint '\n' d (keyText k ++ [' ', '=', ' ']) :=
        joint_of_mark (c := '=') bare (by simp [newline_not_mem_keyText]) (by simp) (by decide)
      rw [if_neg (by decide), List.append_assoc, List.singleton_append, splitOn_append_sep,
        List.mem_append, mem_splitOn_behind joint, mem_tail_valueText bare v single, ih]
      simp

theorem mem_lines_header (bare : Bare d) (path : List String) (b : List Char) :
    d ∈ splitOn '\n' (header path ++ b) ↔ d ∈ splitOn '\n' b := by
  obtain ⟨m, whole, within, x, marked⟩ := header_eq path
  have joint : Joint '\n' d m :=
    joint_of_mark (c := '[') bare within (by simp [marked]) (by decide)
  have single : d ≠ m := by simpa using joint.ne [] []
  rw [whole, List.append_assoc, List.singleton_append, splitOn_append_sep,
    splitOn_of_not_mem within]
  simp [single]

theorem mem_valuesOf {s : String} {entries : List (String × Toml)} :
    s ∈ valuesOf entries ↔ ∃ e ∈ entries, s ∈ e.2.values := by
  induction entries with
  | nil => simp [valuesOf]
  | cons e rest ih => simp only [valuesOf, List.mem_append, ih, List.mem_cons, exists_eq_or_imp]

/-- A value of a table is one of its own or of a table in it. -/
theorem exists_valuesOf {p : String → Prop} (entries : List (String × Toml)) :
    ((∃ e ∈ entries, e.2.isTable = false ∧ ∃ s ∈ e.2.values, p s) ∨
      ∃ e ∈ entries, e.2.isTable = true ∧ ∃ s ∈ e.2.values, p s) ↔
        ∃ s ∈ valuesOf entries, p s := by
  simp only [mem_valuesOf]
  constructor
  · rintro (⟨e, member, _, s, value, holds⟩ | ⟨e, member, _, s, value, holds⟩)
    · exact ⟨s, ⟨e, member, value⟩, holds⟩
    · exact ⟨s, ⟨e, member, value⟩, holds⟩
  · rintro ⟨s, ⟨e, member, value⟩, holds⟩
    cases kind : e.2.isTable with
    | true => exact .inr ⟨e, member, kind, s, value, holds⟩
    | false => exact .inl ⟨e, member, kind, s, value, holds⟩

theorem mem_lines_own (bare : Bare d) (path : List String) (entries : List (String × Toml)) :
    (∃ t ∈ (if hasHeader entries then [header path ++ ownLines entries] else []),
      d ∈ splitOn '\n' t) ↔
        ∃ e ∈ entries, e.2.isTable = false ∧ ∃ s ∈ e.2.values, Breaks d s := by
  split
  · simp only [List.mem_singleton, exists_eq_left, mem_lines_header bare, mem_lines_ownLines bare]
  · rename_i headless
    have tables : ∀ e ∈ entries, e.2.isTable = true := by
      simp only [hasHeader, Bool.or_eq_true, not_or, List.any_eq_true, not_exists, not_and,
        Bool.not_eq_true', Bool.not_eq_false] at headless
      exact fun e member => headless.2 e member
    refine ⟨fun ⟨_, missing, _⟩ => absurd missing List.not_mem_nil, ?_⟩
    rintro ⟨e, member, single, _⟩
    cases single.symm.trans (tables e member)

mutual

theorem mem_lines_sections (bare : Bare d) : ∀ (path : List String) (v : Toml),
    (∃ t ∈ sections path v, d ∈ splitOn '\n' t) ↔
      v.isTable = true ∧ ∃ s ∈ v.values, Breaks d s
  | path, .table entries => by
    have own := mem_lines_own bare path entries
    have later := mem_lines_subsections bare path entries
    simp only [sections, List.mem_append, or_and_right, exists_or, own, later, exists_valuesOf]
    simp only [isTable, values, true_and]
  | path, .str _ => by simp [sections, isTable]
  | path, .int _ => by simp [sections, isTable]
  | path, .bool _ => by simp [sections, isTable]
  | path, .strings _ => by simp [sections, isTable]

theorem mem_lines_subsections (bare : Bare d) : ∀ (path : List String)
    (entries : List (String × Toml)),
    (∃ t ∈ subsections path entries, d ∈ splitOn '\n' t) ↔
      ∃ e ∈ entries, e.2.isTable = true ∧ ∃ s ∈ e.2.values, Breaks d s
  | path, [] => by simp [subsections]
  | path, (k, v) :: rest => by
    have first := mem_lines_sections bare (path ++ [k]) v
    have later := mem_lines_subsections bare path rest
    simp only [subsections, List.mem_append, or_and_right, exists_or, first, later,
      List.mem_cons, exists_eq_left]

end

theorem mem_lines_joinWith (filled : d ≠ []) (ts : List (List Char)) :
    d ∈ splitOn '\n' (joinWith ['\n'] ts) ↔ ∃ t ∈ ts, d ∈ splitOn '\n' t := by
  induction ts with
  | nil => simp [joinWith, splitOn, filled]
  | cons t rest ih =>
    cases rest with
    | nil => simp [joinWith]
    | cons t' rest =>
      rw [joinWith_cons_cons, List.singleton_append, splitOn_append_sep, List.mem_append, ih]
      simp only [List.mem_cons, exists_eq_or_imp]

/-- A bare line stands in a document exactly if it is an early line of a value. -/
theorem mem_lines_documentText (bare : Bare d) (entries : List (String × Toml)) :
    d ∈ splitOn '\n' (documentText entries) ↔ ∃ s ∈ valuesOf entries, Breaks d s := by
  have own : (∃ t ∈ (if (ownLines entries).isEmpty then [] else [ownLines entries]),
      d ∈ splitOn '\n' t) ↔
        ∃ e ∈ entries, e.2.isTable = false ∧ ∃ s ∈ e.2.values, Breaks d s := by
    rw [← mem_lines_ownLines bare]
    cases lines : ownLines entries with
    | nil => simp [splitOn, bare.1]
    | cons c cs => simp
  unfold documentText
  simp only [mem_lines_joinWith bare.1, List.mem_append, or_and_right, exists_or, own,
    mem_lines_subsections bare, exists_valuesOf]

end MachineFleet.Toml
