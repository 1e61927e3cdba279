import MachineFleet.Proofs.Json.Numbers
import MachineFleet.Proofs.Text.Blank
import MachineFleet.Proofs.Text.Lines

/-!
The lines of a printed value. Line feeds in texts are escaped, so every line but the first begins
with blanks or ends what was opened, and has a character that no plain word has.
-/

namespace MachineFleet.Json

open MachineFleet.Text

def punctuation : List Char := [' ', ',', '[', ']', '\x7b', '\x7d']

/-- A word without any of the marks that structure a printed value. -/
def Plain (d : List Char) : Prop := ∀ c ∈ punctuation, c ∉ d

variable {d m : List Char} {c : Char}

theorem joint_of_punctuation (plain : Plain d) (mark : c ∈ punctuation) (member : c ∈ m)
    (within : '\n' ∉ m) : Joint '\n' d m where
  within := within
  foreign := ⟨c, member, plain c mark⟩

theorem digitChar_shown : ∀ n < 16, Nat.digitChar n ≠ '\n' := by decide

theorem newline_not_mem_escapeChar (c : Char) : '\n' ∉ escapeChar c := by
  unfold escapeChar
  split
  · decide
  split
  · decide
  split
  · decide
  split
  · decide
  split
  · decide
  split
  · decide
  split
  · decide
  split
  · rename_i low
    have first := digitChar_shown (c.toNat / 16) (by omega)
    have second := digitChar_shown (c.toNat % 16) (by omega)
    simp [first.symm, second.symm]
  · rename_i other _ _ _
    simpa using Ne.symm other

theorem newline_not_mem_stringText (s : String) : '\n' ∉ stringText s := by
  have body : '\n' ∉ s.toList.flatMap escapeChar := by
    intro member
    obtain ⟨c, _, written⟩ := List.mem_flatMap.mp member
    exact newline_not_mem_escapeChar c written
  simp [stringText, body]

theorem newline_not_mem_number (n : Number) : '\n' ∉ n.text := fun member =>
  absurd (isNumeric_text n _ member) (by decide)

theorem newline_eq (depth : Nat) (a : List Char) :
    newline depth ++ a = '\n' :: (List.replicate (2 * depth) ' ' ++ a) := rfl

theorem not_mem_tail_flat {t : List Char} (flat : '\n' ∉ t) : d ∉ (splitOn '\n' t).tail := by
  simp [splitOn_of_not_mem flat]

/-- What was opened is ended on a line of its own. -/
theorem not_mem_tail_enclosed (plain : Plain d) {o e : Char} (depth : Nat) {inner : List Char}
    (opens : o ≠ '\n') (mark : e ∈ punctuation) (ends : e ≠ '\n')
    (within : d ∉ (splitOn '\n' inner).tail) :
    d ∉ (splitOn '\n' (o :: (inner ++ (newline depth ++ [e])))).tail := by
  have last : Joint '\n' d (List.replicate (2 * depth) ' ' ++ [e]) :=
    joint_of_punctuation plain mark (by simp) (by simp [ends.symm])
  rw [← List.singleton_append, tail_splitOn_append (by simpa using opens.symm), newline_eq,
    mem_tail_splitOn_append_sep, splitOn_of_not_mem last.within]
  simpa [within] using last.ne [] []

/-- An item or member begins on a line of its own, behind blanks. -/
theorem not_mem_tail_indented (plain : Plain d) (depth : Nat) {m t : List Char} (within : '\n' ∉ m)
    (rest : d ∉ (splitOn '\n' t).tail) :
    d ∉ (splitOn '\n' (newline (depth + 1) ++ (m ++ t))).tail := by
  have indent : Joint '\n' d (List.replicate (2 * (depth + 1)) ' ' ++ m) :=
    joint_of_punctuation (c := ' ') plain (by decide) (by simp) (by simp [within])
  rw [newline_eq, splitOn_sep, List.tail_cons, ← List.append_assoc, mem_splitOn_behind indent]
  exact rest

theorem not_mem_tail_comma (plain : Plain d) {a b : List Char} (first : d ∉ (splitOn '\n' a).tail)
    (later : d ∉ (splitOn '\n' b).tail) : d ∉ (splitOn '\n' (a ++ ',' :: b)).tail := by
  have comma : Joint '\n' d [','] :=
    joint_of_punctuation (c := ',') plain (by decide) (by simp) (by decide)
  rw [List.append_cons, mem_tail_splitOn_joint comma]
  exact fun member => member.elim (fun early => first (List.dropLast_subset _ early)) later

mutual

/-- Whatever its first line may be, no other line of a printed value is plain. -/
theorem not_mem_tail_prettyText (plain : Plain d) :
    ∀ (depth : Nat) (j : Json), d ∉ (splitOn '\n' (prettyText depth j)).tail
  | depth, .arr [] => not_mem_tail_flat (by simp [prettyText])
  | depth, .arr (j :: rest) => by
    rw [prettyText, List.cons_append, List.cons_append, List.append_assoc]
    exact not_mem_tail_enclosed plain depth (by decide) (by decide) (by decide)
      (not_mem_tail_prettyItems plain depth (j :: rest))
  | depth, .obj [] => not_mem_tail_flat (by simp [prettyText])
  | depth, .obj (e :: rest) => by
    rw [prettyText, List.cons_append, List.cons_append, List.append_assoc]
    exact not_mem_tail_enclosed plain depth (by decide) (by decide) (by decide)
      (not_mem_tail_prettyMembers plain depth (e :: rest))
  | depth, .null => not_mem_tail_flat (by simp [prettyText])
  | depth, .bool b => not_mem_tail_flat (by cases b <;> simp [prettyText])
  | depth, .num n => not_mem_tail_flat (by simpa [prettyText] using newline_not_mem_number n)
  | depth, .str s => not_mem_tail_flat (by simpa [prettyText] using newline_not_mem_stringText s)

theorem not_mem_tail_prettyItems (plain : Plain d) :
    ∀ (depth : Nat) (items : List Json), d ∉ (splitOn '\n' (prettyItems depth items)).tail
  | depth, [] => by simp [prettyItems, splitOn]
  | depth, [j] => by
    rw [prettyItems, ← List.nil_append (prettyText _ _)]
    exact not_mem_tail_indented plain depth (by simp) (not_mem_tail_prettyText plain (depth + 1) j)
  | depth, j :: j' :: rest => by
    have items := not_mem_tail_comma plain (not_mem_tail_prettyText plain (depth + 1) j)
      (not_mem_tail_prettyItems plain depth (j' :: rest))
    have indented := not_mem_tail_indented plain depth (m := []) (by simp) items
    simpa [prettyItems] using indented

theorem not_mem_tail_prettyMembers (plain : Plain d) :
    ∀ (depth : Nat) (members : List (String × Json)),
      d ∉ (splitOn '\n' (prettyMembers depth members)).tail
  | depth, [] => by simp [prettyMembers, splitOn]
  | depth, [(k, j)] => by
    have indented := not_mem_tail_indented plain depth (m := stringText k ++ [':', ' '])
      (by simp [newline_not_mem_stringText]) (not_mem_tail_prettyText plain (depth + 1) j)
    simpa [prettyMembers] using indented
  | depth, (k, j) :: e :: rest => by
    have members := not_mem_tail_comma plain (not_mem_tail_prettyText plain (depth + 1) j)
      (not_mem_tail_prettyMembers plain depth (e :: rest))
    have indented := not_mem_tail_indented plain depth (m := stringText k ++ [':', ' '])
      (by simp [newline_not_mem_stringText]) members
    simpa [prettyMembers] using indented

end

theorem prettyText_obj (depth : Nat) (members : List (String × Json)) :
    ∃ t, prettyText depth (.obj members) = '\x7b' :: t ++ ['\x7d'] := by
  cases members with
  | nil => exact ⟨[], rfl⟩
  | cons e rest => exact ⟨_, rfl⟩

/-- No line of a printed object is plain. -/
theorem not_mem_lines_prettyText (plain : Plain d) (depth : Nat) (members : List (String × Json)) :
    d ∉ splitOn '\n' (prettyText depth (.obj members)) := by
  obtain ⟨t, whole⟩ := prettyText_obj depth members
  have brace : Joint '\n' d ['\x7b'] :=
    joint_of_punctuation (c := '\x7b') plain (by decide) (by simp) (by decide)
  have later := not_mem_tail_prettyText plain depth (.obj members)
  rw [whole, List.cons_append, ← List.singleton_append] at later ⊢
  rw [mem_splitOn_behind brace]
  rwa [tail_splitOn_append brace.within] at later

theorem dropTrailingBlanks_prettyText (depth : Nat) (members : List (String × Json)) :
    dropTrailingBlanks (prettyText depth (.obj members)) = prettyText depth (.obj members) := by
  obtain ⟨t, whole⟩ := prettyText_obj depth members
  rw [whole]
  exact dropTrailingBlanks_of_shown rfl _

end MachineFleet.Json
