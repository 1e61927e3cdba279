import MachineFleet.Proofs.Text.Blank
import MachineFleet.Proofs.Text.Lines
import MachineFleet.Toml

/-!
The lines of a text between its quotation marks. Where the text has several lines, those but the
last stand there as they are, unless they have a character that is escaped; so a line of bare
characters stands between the marks exactly if it is a line of the text, other than the last one.
-/

namespace MachineFleet.Toml

open MachineFleet.Text

/-- A word that would be written without quotation marks as a key. -/
def Bare (d : List Char) : Prop := d ≠ [] ∧ ∀ c ∈ d, isBareChar c = true

/-- The line is one of the value, and not the last one. -/
def Breaks (d : List Char) (s : String) : Prop := d ∈ (splitOn '\n' s.toList).dropLast

variable {d m : List Char} {c : Char}

theorem joint_of_mark (bare : Bare d) (within : '\n' ∉ m) (member : c ∈ m)
    (mark : isBareChar c = false) : Joint '\n' d m where
  within := within
  foreign := ⟨c, member, fun known => by cases mark.symm.trans (bare.2 c known)⟩

theorem hexDigit_shown : ∀ n < 16, hexDigit n ≠ '\n' := by decide

theorem lt_of_isControl (control : isControl c = true) : c.toNat < 128 := by
  simp only [isControl, Bool.or_eq_true, Bool.and_eq_true, decide_eq_true_eq, beq_iff_eq] at control
  omega

theorem newline_not_mem_escapeChar (other : c ≠ '\n') : '\n' ∉ escapeChar c := by
  unfold escapeChar
  split
  · decide
  split
  · decide
  split
  · decide
  split
  · decide
  split
  · decide
  split
  · rename_i control
    have small := lt_of_isControl control
    have high := hexDigit_shown (c.toNat / 16) (by omega)
    have low := hexDigit_shown (c.toNat % 16) (by omega)
    simp [high.symm, low.symm]
  · simpa using other.symm

theorem escapeChar_cases (c : Char) : escapeChar c = [c] ∨ ∃ t, escapeChar c = '\\' :: t := by
  unfold escapeChar
  split
  · exact .inr ⟨_, rfl⟩
  split
  · exact .inr ⟨_, rfl⟩
  split
  · exact .inr ⟨_, rfl⟩
  split
  · exact .inr ⟨_, rfl⟩
  split
  · exact .inr ⟨_, rfl⟩
  split
  · exact .inr ⟨_, rfl⟩
  · exact .inl rfl

theorem ne_of_bare {x : Char} (bare : isBareChar c = true) (mark : isBareChar x = false) :
    c ≠ x := by
  rintro rfl
  cases bare.symm.trans mark

theorem not_isControl_of_bare (bare : isBareChar c = true) : isControl c = false := by
  have visible : 45 ≤ c.toNat ∧ c.toNat ≤ 122 := by
    simp only [isBareChar, Bool.or_eq_true, Bool.and_eq_true, decide_eq_true_eq, beq_iff_eq,
      Char.le_def, UInt32.le_iff_toNat_le] at bare
    rcases bare with (((⟨low, high⟩ | ⟨low, high⟩) | ⟨low, high⟩) | rfl) | rfl
    · exact ⟨Nat.le_trans (by decide) low, high⟩
    · exact ⟨Nat.le_trans (by decide) low, Nat.le_trans high (by decide)⟩
    · exact ⟨Nat.le_trans (by decide) low, Nat.le_trans high (by decide)⟩
    · decide
    · decide
  have high : ¬ c.toNat < 0x20 := by omega
  have shown : c.toNat ≠ 0x7f := by omega
  simp [isControl, high, shown]

theorem escapeChar_of_bare (bare : isBareChar c = true) : escapeChar c = [c] := by
  have other : ∀ x, isBareChar x = false → c ≠ x := fun x => ne_of_bare bare
  unfold escapeChar
  rw [if_neg (other _ (by decide)), if_neg (other _ (by decide)), if_neg (other _ (by decide)),
    if_neg (other _ (by decide)), if_neg (other _ (by decide)), not_isControl_of_bare bare]
  rfl

theorem newline_not_mem_escapeLine (cs : List Char) : '\n' ∉ escapeLine cs := by
  induction cs with
  | nil => nofun
  | cons c rest ih =>
    unfold escapeLine
    refine fun member => (List.mem_append.mp member).elim ?_ ih
    split
    · decide
    split
    · decide
    · rename_i other
      exact newline_not_mem_escapeChar other

/-- Where the lines are kept, each is escaped by itself. Only the first may come after quotation
marks. -/
theorem lines_escapeLines (marks : Nat) {l : List Char} {ls : List (List Char)} {cs : List Char}
    (split : splitOn '\n' cs = l :: ls) :
    splitOn '\n' (escapeLines marks cs) = escapeLines marks l :: ls.map (escapeLines 0) := by
  induction cs generalizing marks l ls with
  | nil =>
    cases split
    rfl
  | cons c rest ih =>
    obtain ⟨p, ps, first⟩ := exists_splitOn '\n' rest
    by_cases newline : c = '\n'
    · subst newline
      rw [splitOn_sep, first] at split
      cases split
      have begun : escapeLines marks ('\n' :: rest) = '\n' :: escapeLines 0 rest := by
        simp [escapeLines]
      rw [begun, splitOn_sep, ih 0 first]
      rfl
    · rw [splitOn_cons_of_ne newline first] at split
      cases split
      -- What stands for the character does not depend on the rest of its line.
      obtain ⟨x, marks', free, whole⟩ : ∃ x marks', '\n' ∉ x ∧
          ∀ cs, escapeLines marks (c :: cs) = x ++ escapeLines marks' cs := by
        by_cases mark : c = '"'
        · subst mark
          by_cases third : marks = 2
          · exact ⟨['\\', '"'], 0, by decide, fun cs => by simp [escapeLines, third]⟩
          · exact ⟨['"'], marks + 1, by decide, fun cs => by simp [escapeLines, third]⟩
        · exact ⟨escapeChar c, 0, newline_not_mem_escapeChar newline,
            fun cs => by simp [escapeLines, mark, newline]⟩
      rw [whole, whole, splitOn_append free (ih marks' first)]

theorem escapeLines_of_bare {d : List Char} (bare : ∀ c ∈ d, isBareChar c = true) (marks : Nat) :
    escapeLines marks d = d := by
  induction d generalizing marks with
  | nil => rfl
  | cons c d ih =>
    have first : isBareChar c = true := bare c List.mem_cons_self
    unfold escapeLines
    rw [if_neg (ne_of_bare first (by decide)), if_neg (ne_of_bare first (by decide)),
      escapeChar_of_bare first,
      ih fun c' member => bare c' (List.mem_cons_of_mem c member)]
    rfl

/-- A bare line is what it stands for. -/
theorem eq_of_escapeLines {d l : List Char} (bare : ∀ c ∈ d, isBareChar c = true) {marks : Nat}
    (same : escapeLines marks l = d) : l = d := by
  induction l generalizing d marks with
  | nil => exact same
  | cons c l ih =>
    have impossible : ∀ x t, isBareChar x = false → d ≠ x :: t := by
      rintro x t mark rfl
      exact ne_of_bare (bare x List.mem_cons_self) mark rfl
    unfold escapeLines at same
    split at same
    · split at same
      · exact absurd same.symm (impossible _ _ (by decide))
      · exact absurd same.symm (impossible _ _ (by decide))
    split at same
    · exact absurd same.symm (impossible _ _ (by decide))
    rcases escapeChar_cases c with kept | ⟨t, escaped⟩
    · rw [kept] at same
      subst same
      exact congrArg (c :: ·) (ih (fun c' member => bare c' (List.mem_cons_of_mem c member)) rfl)
    · rw [escaped] at same
      exact absurd same.symm (impossible _ _ (by decide))

theorem escapeLines_eq {d l : List Char} (bare : ∀ c ∈ d, isBareChar c = true) {marks : Nat} :
    escapeLines marks l = d ↔ l = d :=
  ⟨eq_of_escapeLines bare, fun same => by rw [same, escapeLines_of_bare bare]⟩

/-- A text that stands for a value is between equal marks, and of its lines, those between the
marks' own stand for lines of the value. -/
structure Quoted (d : List Char) (s : String) (text marks body : List Char) : Prop where
  whole : text = marks ++ (body ++ marks)
  within : '\n' ∉ marks
  ends : ∃ b c, marks = b ++ [c] ∧ isBareChar c = false ∧ isBlank c = false
  inner : d ∈ (splitOn '\n' body).tail.dropLast ↔ Breaks d s

theorem inner_flat {s : String} {body : List Char} (free : '\n' ∉ body)
    (flat : '\n' ∉ s.toList) : d ∈ (splitOn '\n' body).tail.dropLast ↔ Breaks d s := by
  rw [Breaks, splitOn_of_not_mem free, splitOn_of_not_mem flat]
  rfl

theorem inner_opening {s : String} {body : List Char} {f : List Char → List Char}
    (each : splitOn '\n' body = (splitOn '\n' s.toList).map f) (kept : ∀ l, f l = d ↔ l = d) :
    d ∈ (splitOn '\n' (opening s.toList ++ body)).tail.dropLast ↔ Breaks d s := by
  unfold opening
  split
  · rw [List.singleton_append, splitOn_sep, List.tail_cons, each, ← List.map_dropLast, Breaks,
      List.mem_map]
    exact ⟨fun ⟨l, member, same⟩ => (kept l).mp same ▸ member,
      fun member => ⟨d, member, (kept d).mpr rfl⟩⟩
  · rename_i flat
    have single := splitOn_of_not_mem (by simpa using flat : '\n' ∉ s.toList)
    rw [List.nil_append, each, Breaks, single]
    rfl

theorem quoted_multiBasic (bare : Bare d) (s : String) :
    ∃ marks body, Quoted d s (multiBasic s.toList) marks body := by
  refine ⟨['"', '"', '"'], opening s.toList ++ escapeLines 0 s.toList, by simp [multiBasic],
    by decide, ⟨['"', '"'], '"', rfl, rfl, rfl⟩, ?_⟩
  obtain ⟨l, ls, split⟩ := exists_splitOn '\n' s.toList
  refine inner_opening (f := escapeLines 0) ?_ fun l => escapeLines_eq bare.2
  rw [lines_escapeLines 0 split, split]
  rfl

theorem quoted_multiLiteral (s : String) :
    ∃ marks body, Quoted d s (multiLiteral s.toList) marks body :=
  ⟨['\'', '\'', '\''], opening s.toList ++ s.toList, by simp [multiLiteral], by decide,
    ⟨['\'', '\''], '\'', rfl, rfl, rfl⟩, inner_opening (List.map_id _).symm fun _ => Iff.rfl⟩

theorem quoted_basic {s : String} (flat : '\n' ∉ s.toList) :
    ∃ marks body, Quoted d s (basic s.toList) marks body :=
  ⟨['"'], escapeLine s.toList, by simp [basic], by decide, ⟨[], '"', rfl, rfl, rfl⟩,
    inner_flat (newline_not_mem_escapeLine s.toList) flat⟩

theorem quoted_literal {s : String} (flat : '\n' ∉ s.toList) :
    ∃ marks body, Quoted d s (literal s.toList) marks body :=
  ⟨['\''], s.toList, by simp [literal], by decide, ⟨[], '\'', rfl, rfl, rfl⟩,
    inner_flat flat flat⟩

theorem quoted_stringText (bare : Bare d) (s : String) :
    ∃ marks body, Quoted d s (stringText s) marks body := by
  unfold stringText
  dsimp only
  split
  · rename_i plain
    exact quoted_basic (by simp_all)
  split
  · rename_i plain
    exact quoted_literal (by simp_all)
  split
  · exact quoted_multiBasic bare s
  split
  · exact quoted_multiLiteral s
  split
  · exact quoted_multiBasic bare s
  · rename_i flat
    exact quoted_basic (by simpa using flat)

end MachineFleet.Toml
