import Mathlib.Data.List.TakeWhile
import MachineFleet.Text.Blank

/-!
What is left of a text without the blanks at its ends.
-/

namespace MachineFleet.Text

variable {c : Char} {cs : List Char}

theorem nonblank_of_isDigit (digit : c.isDigit = true) : isBlank c = false := by
  have range : 48 ≤ c.toNat ∧ c.toNat ≤ 57 := by
    simpa [Char.isDigit, UInt32.le_iff_toNat_le] using digit
  simp only [isBlank, Bool.or_eq_false_iff, Bool.and_eq_false_iff, decide_eq_false_iff_not,
    beq_eq_false_iff_ne]
  omega

theorem dropTrailingBlanks_of_shown (shown : isBlank c = false) (a : List Char) :
    dropTrailingBlanks (a ++ [c]) = a ++ [c] := by
  simp [dropTrailingBlanks, dropBlanks, shown]

theorem dropTrailingBlanks_of_blank (blank : isBlank c = true) (a : List Char) :
    dropTrailingBlanks (a ++ [c]) = dropTrailingBlanks a := by
  simp [dropTrailingBlanks, dropBlanks, blank]

theorem dropBlanks_cons (c : Char) (cs : List Char) :
    dropBlanks (c :: cs) = if isBlank c then dropBlanks cs else c :: cs := by
  simp [dropBlanks, List.dropWhile_cons]

theorem dropBlanks_eq (cs : List Char) :
    dropBlanks cs = [] ∨ ∃ c rest, dropBlanks cs = c :: rest ∧ isBlank c = false := by
  induction cs with
  | nil => exact .inl rfl
  | cons c rest ih =>
    rw [dropBlanks_cons]
    cases blank : isBlank c with
    | true => exact ih
    | false => exact .inr ⟨c, rest, rfl, blank⟩

theorem dropBlanks_dropBlanks (cs : List Char) : dropBlanks (dropBlanks cs) = dropBlanks cs := by
  rcases dropBlanks_eq cs with none | ⟨c, rest, some, shown⟩
  · rw [none]
    rfl
  · rw [some, dropBlanks_cons, shown]
    rfl

theorem dropTrailingBlanks_dropTrailingBlanks (cs : List Char) :
    dropTrailingBlanks (dropTrailingBlanks cs) = dropTrailingBlanks cs := by
  rw [dropTrailingBlanks, dropTrailingBlanks, List.reverse_reverse, dropBlanks_dropBlanks]

theorem isPrefix_dropTrailingBlanks (cs : List Char) : dropTrailingBlanks cs <+: cs := by
  rw [← List.reverse_suffix, dropTrailingBlanks, List.reverse_reverse]
  exact List.dropWhile_suffix isBlank

/-- A text is all blank, or what is left of it ends with a character that is shown. -/
theorem dropTrailingBlanks_eq (cs : List Char) :
    (dropTrailingBlanks cs = [] ∧ ∀ c ∈ cs, isBlank c = true) ∨
      ∃ a c, dropTrailingBlanks cs = a ++ [c] ∧ isBlank c = false ∧ c ∈ cs := by
  rcases dropBlanks_eq cs.reverse with none | ⟨c, rest, some, shown⟩
  · refine .inl ⟨by rw [dropTrailingBlanks, none, List.reverse_nil], ?_⟩
    simpa using List.dropWhile_eq_nil_iff.mp none
  · have left : dropTrailingBlanks cs = rest.reverse ++ [c] := by
      rw [dropTrailingBlanks, some, List.reverse_cons]
    refine .inr ⟨rest.reverse, c, left, shown, (isPrefix_dropTrailingBlanks cs).subset ?_⟩
    simp [left]

theorem isAllBlank_trimEnd (s : String) : isAllBlank (trimEnd s) = isAllBlank s := by
  rw [isAllBlank, isAllBlank, trimEnd, String.toList_ofList]
  rcases dropTrailingBlanks_eq s.toList with ⟨none, blank⟩ | ⟨a, c, left, shown, member⟩
  · rw [none, List.all_eq_true.mpr blank, List.all_nil]
  · rw [left, List.all_eq_false.mpr ⟨c, by simp, by simp [shown]⟩,
      List.all_eq_false.mpr ⟨c, member, by simp [shown]⟩]

theorem getLast?_trimEnd (blank : isBlank c = true) (s : String) :
    (trimEnd s).toList.getLast? ≠ some c := by
  rw [trimEnd, String.toList_ofList]
  rcases dropTrailingBlanks_eq s.toList with ⟨none, -⟩ | ⟨a, c', left, shown, -⟩
  · simp [none]
  · rw [left, List.getLast?_concat]
    rintro ⟨⟩
    cases blank.symm.trans shown

theorem dropBlanks_trimChars (cs : List Char) : dropBlanks (trimChars cs) = trimChars cs := by
  obtain ⟨after, whole⟩ := isPrefix_dropTrailingBlanks (dropBlanks cs)
  change trimChars cs ++ after = dropBlanks cs at whole
  cases trimmed : trimChars cs with
  | nil => rfl
  | cons c rest =>
    rw [trimmed] at whole
    rcases dropBlanks_eq cs with none | ⟨c', rest', some, shown⟩
    · cases whole.trans none
    · cases whole.trans some
      rw [dropBlanks_cons, shown]
      rfl

theorem trimChars_trimChars (cs : List Char) : trimChars (trimChars cs) = trimChars cs := by
  rw [trimChars, dropBlanks_trimChars, trimChars, dropTrailingBlanks_dropTrailingBlanks]

theorem trim_trim (s : String) : trim (trim s) = trim s := by
  rw [trim, trim, String.toList_ofList, trimChars_trimChars]

theorem trimChars_infix (cs : List Char) : trimChars cs <:+: cs :=
  (isPrefix_dropTrailingBlanks (dropBlanks cs)).isInfix.trans (List.dropWhile_suffix _).isInfix

/-- Nothing is trimmed from a text that begins and ends with characters that are shown. -/
theorem trimChars_eq_self_iff {cs : List Char} :
    trimChars cs = cs ↔ ∀ c, cs.head? = some c ∨ cs.getLast? = some c → isBlank c = false := by
  constructor
  · rintro trimmed c (first | last)
    · have leading := dropBlanks_trimChars cs
      rw [trimmed] at leading
      rcases dropBlanks_eq cs with none | ⟨c', rest, some, shown⟩
      · rw [← leading, none] at first
        cases first
      · rw [← leading, some] at first
        exact Option.some.inj first ▸ shown
    · rw [← trimmed, trimChars] at last
      rcases dropTrailingBlanks_eq (dropBlanks cs) with ⟨none, -⟩ | ⟨a, c', left, shown, -⟩
      · rw [none] at last
        cases last
      · rw [left, List.getLast?_concat] at last
        exact Option.some.inj last ▸ shown
  · intro shown
    have leading : dropBlanks cs = cs := by
      cases cs with
      | nil => rfl
      | cons c rest => rw [dropBlanks_cons, shown c (.inl rfl), if_neg Bool.false_ne_true]
    rw [trimChars, leading]
    rcases List.eq_nil_or_concat cs with rfl | ⟨a, c, rfl⟩
    · rfl
    · rw [List.concat_eq_append] at shown ⊢
      exact dropTrailingBlanks_of_shown (shown c (.inr List.getLast?_concat)) a

theorem dropTrailingBlanks_append {w : List Char} (blank : ∀ c ∈ w, isBlank c = true)
    (a : List Char) : dropTrailingBlanks (a ++ w) = dropTrailingBlanks a := by
  rw [dropTrailingBlanks, List.reverse_append, dropBlanks, List.dropWhile_append_of_pos]
  · rfl
  · exact fun c member => blank c (List.mem_reverse.mp member)

/-- Behind a text that ends with a character that is shown, only what follows it is trimmed. -/
theorem dropTrailingBlanks_shown_append (shown : isBlank c = false) (a b : List Char) :
    dropTrailingBlanks (a ++ c :: b) = a ++ c :: dropTrailingBlanks b := by
  unfold dropTrailingBlanks dropBlanks
  rw [List.append_cons, List.reverse_append, List.dropWhile_append]
  split
  · rename_i blank
    rw [List.isEmpty_iff.mp blank]
    simp [shown]
  · simp

theorem trimChars_blank_append {w : List Char} (blank : ∀ c ∈ w, isBlank c = true)
    (cs : List Char) : trimChars (w ++ cs) = trimChars cs := by
  rw [trimChars, dropBlanks, List.dropWhile_append_of_pos blank]
  rfl

theorem trimChars_append_blank {w : List Char} (blank : ∀ c ∈ w, isBlank c = true)
    (cs : List Char) : trimChars (cs ++ w) = trimChars cs := by
  induction cs with
  | nil =>
    rw [List.nil_append, trimChars, dropBlanks, List.dropWhile_eq_nil_iff.mpr blank]
    rfl
  | cons c rest ih =>
    rw [trimChars, trimChars, List.cons_append, dropBlanks_cons, dropBlanks_cons]
    split
    · exact ih
    · exact dropTrailingBlanks_append blank (c :: rest)

end MachineFleet.Text
