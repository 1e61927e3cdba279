import MachineFleet.Text.Split

/-!
The lines of a text. A line that begins in one piece of a text and ends in another has the end of
the one and the beginning of the other in it, so whether a line of a given kind stands in a text
can be seen piece by piece where the pieces are joined by a character that no such line has.
-/

namespace MachineFleet.Text

variable {sep : Char} {a b cs : List Char}

theorem exists_splitOn (sep : Char) (cs : List Char) : ∃ l ls, splitOn sep cs = l :: ls := by
  cases cs with
  | nil => exact ⟨[], [], rfl⟩
  | cons c rest =>
    unfold splitOn
    split
    · exact ⟨_, _, rfl⟩
    · cases splitOn sep rest with
      | nil => exact ⟨_, _, rfl⟩
      | cons l ls => exact ⟨_, _, rfl⟩

theorem splitOn_sep (sep : Char) (b : List Char) :
    splitOn sep (sep :: b) = [] :: splitOn sep b := by
  simp [splitOn]

theorem splitOn_cons_of_ne {c : Char} (other : c ≠ sep) {l : List Char} {ls : List (List Char)}
    (rest : splitOn sep b = l :: ls) : splitOn sep (c :: b) = (c :: l) :: ls := by
  simp [splitOn, other, rest]

/-- A piece without a separator only makes the line longer that it stands before. -/
theorem splitOn_append (free : sep ∉ a) {l : List Char} {ls : List (List Char)}
    (rest : splitOn sep b = l :: ls) : splitOn sep (a ++ b) = (a ++ l) :: ls := by
  induction a with
  | nil => exact rest
  | cons c a ih =>
    have other : c ≠ sep := fun same => free (same ▸ List.mem_cons_self)
    exact splitOn_cons_of_ne other (ih fun member => free (List.mem_cons_of_mem c member))

theorem splitOn_of_not_mem (free : sep ∉ a) : splitOn sep a = [a] := by
  have whole := splitOn_append free (rfl : splitOn sep [] = [[]])
  rwa [List.append_nil] at whole

theorem splitOn_append_sep (sep : Char) (a b : List Char) :
    splitOn sep (a ++ sep :: b) = splitOn sep a ++ splitOn sep b := by
  induction a with
  | nil => exact splitOn_sep sep b
  | cons c a ih =>
    by_cases same : c = sep
    · subst same
      rw [List.cons_append, splitOn_sep, splitOn_sep, ih, List.cons_append]
    · obtain ⟨l, ls, first⟩ := exists_splitOn sep a
      rw [first, List.cons_append] at ih
      rw [List.cons_append, splitOn_cons_of_ne same ih, splitOn_cons_of_ne same first,
        List.cons_append]

theorem tail_splitOn_append (free : sep ∉ a) (b : List Char) :
    (splitOn sep (a ++ b)).tail = (splitOn sep b).tail := by
  obtain ⟨l, ls, rest⟩ := exists_splitOn sep b
  rw [splitOn_append free rest, rest]
  rfl

theorem mem_tail_splitOn_append_sep {d : List Char} :
    d ∈ (splitOn sep (a ++ sep :: b)).tail ↔
      d ∈ (splitOn sep a).tail ∨ d ∈ splitOn sep b := by
  obtain ⟨l, ls, first⟩ := exists_splitOn sep a
  rw [splitOn_append_sep, first, List.cons_append, List.tail_cons, List.tail_cons, List.mem_append]

/-- No line has a separator in it. -/
theorem not_mem_of_mem_splitOn {l : List Char} (member : l ∈ splitOn sep cs) : sep ∉ l := by
  induction cs generalizing l with
  | nil =>
    rw [List.mem_singleton.mp member]
    exact List.not_mem_nil
  | cons c rest ih =>
    by_cases same : c = sep
    · subst same
      rw [splitOn_sep] at member
      rcases List.mem_cons.mp member with rfl | later
      · exact List.not_mem_nil
      · exact ih later
    · obtain ⟨first, ls, pieces⟩ := exists_splitOn sep rest
      rw [splitOn_cons_of_ne same pieces] at member
      rw [pieces] at ih
      rcases List.mem_cons.mp member with rfl | later
      · exact List.not_mem_cons_of_ne_of_not_mem (Ne.symm same) (ih List.mem_cons_self)
      · exact ih (List.mem_cons_of_mem _ later)

theorem splitOn_eq (sep : Char) (cs : List Char) : splitOn sep cs = cs.splitOn sep := by
  induction cs with
  | nil => rfl
  | cons c rest ih =>
    obtain ⟨l, ls, first⟩ := exists_splitOn sep rest
    rw [List.splitOn_cons_eq_if_modifyHead, ← ih]
    by_cases same : c = sep
    · rw [same, splitOn_sep, beq_self_eq_true, if_pos rfl]
    · rw [splitOn_cons_of_ne same first, first, beq_false_of_ne same, if_neg Bool.false_ne_true]
      rfl

/-- All lines with their ends are the text, with an end for its last line. -/
theorem flatMap_splitOn (sep : Char) (cs : List Char) :
    (splitOn sep cs).flatMap (· ++ [sep]) = cs ++ [sep] := by
  induction cs with
  | nil => rfl
  | cons c rest ih =>
    by_cases same : c = sep
    · subst same
      rw [splitOn_sep, List.flatMap_cons, ih]
      rfl
    · obtain ⟨l, ls, first⟩ := exists_splitOn sep rest
      rw [first, List.flatMap_cons] at ih
      rw [splitOn_cons_of_ne same first, List.flatMap_cons]
      simpa using ih

/-- A character other than the separator is in a text exactly if it is in one of its lines. -/
theorem mem_iff_mem_splitOn {c : Char} (other : c ≠ sep) :
    c ∈ cs ↔ ∃ l ∈ splitOn sep cs, c ∈ l := by
  have whole : c ∈ cs ++ [sep] ↔ c ∈ (splitOn sep cs).flatMap (· ++ [sep]) := by
    rw [flatMap_splitOn]
  simpa [other] using whole

theorem split_append_newline (a b : String) :
    split '\n' (a ++ "\n" ++ b) = split '\n' a ++ split '\n' b := by
  have chars : (a ++ "\n" ++ b).toList = a.toList ++ '\n' :: b.toList := by
    simp [String.toList_append]
  rw [split, chars, splitOn_append_sep, List.map_append]
  rfl

theorem split_of_not_mem {s : String} (flat : '\n' ∉ s.toList) : split '\n' s = [s] := by
  rw [split, splitOn_of_not_mem flat, List.map_singleton, String.ofList_toList]

theorem mem_split {l s : String} : l ∈ split sep s ↔ l.toList ∈ splitOn sep s.toList := by
  rw [split, List.mem_map]
  constructor
  · rintro ⟨cs, member, rfl⟩
    rwa [String.toList_ofList]
  · exact fun member => ⟨_, member, String.ofList_toList⟩

theorem mem_dropLast_split {l s : String} :
    l ∈ (split sep s).dropLast ↔ l.toList ∈ (splitOn sep s.toList).dropLast := by
  rw [split, ← List.map_dropLast, List.mem_map]
  constructor
  · rintro ⟨cs, member, rfl⟩
    rwa [String.toList_ofList]
  · exact fun member => ⟨_, member, String.ofList_toList⟩

theorem unlines_append (ls ls' : List String) :
    unlines (ls ++ ls') = unlines ls ++ unlines ls' := by
  simp [unlines, String.join_append]

theorem unlines_split (s : String) : unlines (split '\n' s) = s ++ "\n" := by
  apply String.toList_injective
  have whole := flatMap_splitOn '\n' s.toList
  simpa [unlines, split, String.toList_join, List.flatMap_map, String.toList_append] using whole

/-- A text has one line, or its last one comes after a separator. -/
theorem last_line (sep : Char) (a : List Char) :
    sep ∉ a ∨ ∃ u v, a = u ++ sep :: v ∧ sep ∉ v := by
  by_cases member : sep ∈ a
  · obtain ⟨v, u, split, free⟩ := List.eq_append_cons_of_mem (List.mem_reverse.mpr member)
    refine .inr ⟨u.reverse, v.reverse, ?_, by simpa using free⟩
    rw [← List.reverse_reverse a, split]
    simp
  · exact .inl member

theorem first_line (sep : Char) (a : List Char) :
    sep ∉ a ∨ ∃ u v, a = u ++ sep :: v ∧ sep ∉ u := by
  by_cases member : sep ∈ a
  · exact .inr (List.eq_append_cons_of_mem member)
  · exact .inl member

section Joined

variable {d m : List Char}

/-- The piece does not leave its line, and it keeps the line from being the given one. -/
structure Joint (sep : Char) (d m : List Char) : Prop where
  within : sep ∉ m
  foreign : ∃ c ∈ m, c ∉ d

theorem Joint.ne (joint : Joint sep d m) (u v : List Char) : d ≠ u ++ (m ++ v) := by
  obtain ⟨c, member, foreign⟩ := joint.foreign
  rintro rfl
  exact foreign (by simp [member])

theorem mem_splitOn_joint (joint : Joint sep d m) (a b : List Char) :
    d ∈ splitOn sep (a ++ m ++ b) ↔ d ∈ (splitOn sep a).dropLast ∨ d ∈ (splitOn sep b).tail := by
  obtain ⟨l, ls, rest⟩ := exists_splitOn sep b
  have single : ∀ v : List Char, sep ∉ v → splitOn sep (v ++ m ++ b) = (v ++ m ++ l) :: ls :=
    fun v free => splitOn_append (by simp [free, joint.within]) rest
  rcases last_line sep a with free | ⟨u, v, rfl, free⟩
  · rw [single a free, splitOn_of_not_mem free, rest]
    simp [joint.ne a l]
  · rw [show u ++ sep :: v ++ m ++ b = u ++ sep :: (v ++ m ++ b) by simp, splitOn_append_sep,
      splitOn_append_sep, single v free, splitOn_of_not_mem free, rest]
    simp [joint.ne v l]

/-- The same for all lines but the first, which may be one that begins earlier. -/
theorem mem_tail_splitOn_joint (joint : Joint sep d m) (a b : List Char) :
    d ∈ (splitOn sep (a ++ m ++ b)).tail ↔
      d ∈ (splitOn sep a).tail.dropLast ∨ d ∈ (splitOn sep b).tail := by
  rcases first_line sep a with free | ⟨u, v, rfl, free⟩
  · rw [tail_splitOn_append (by simp [free, joint.within]), splitOn_of_not_mem free]
    simp
  · rw [show u ++ sep :: v ++ m ++ b = u ++ sep :: (v ++ m ++ b) by simp, splitOn_append_sep,
      splitOn_append_sep, splitOn_of_not_mem free]
    simpa using mem_splitOn_joint joint v b

/-- Behind such a piece, only the later lines count. -/
theorem mem_splitOn_behind (joint : Joint sep d m) (b : List Char) :
    d ∈ splitOn sep (m ++ b) ↔ d ∈ (splitOn sep b).tail := by
  simpa [splitOn] using mem_splitOn_joint joint [] b

end Joined

end MachineFleet.Text
