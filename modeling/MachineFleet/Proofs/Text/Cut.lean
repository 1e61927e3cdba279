import MachineFleet.Text.Split
import Mathlib.Data.List.Infix

/-!
Where a text is cut, and what it contains.
-/

namespace MachineFleet.Text

variable {sep : Char} {a b cs word : List Char}

theorem cutAt_append (free : sep ∉ a) (b : List Char) :
    cutAt sep (a ++ sep :: b) = some (a, b) := by
  induction a with
  | nil => simp [cutAt]
  | cons c a ih =>
    obtain ⟨other, free⟩ := List.ne_and_not_mem_of_not_mem_cons free
    rw [List.cons_append, cutAt, if_neg (Ne.symm other), ih free]
    rfl

theorem eq_of_cutAt (found : cutAt sep cs = some (a, b)) : cs = a ++ sep :: b ∧ sep ∉ a := by
  induction cs generalizing a with
  | nil => cases found
  | cons c rest ih =>
    unfold cutAt at found
    split at found
    · rename_i same
      cases found
      exact ⟨same ▸ rfl, List.not_mem_nil⟩
    · rename_i other
      obtain ⟨⟨a', b'⟩, later, whole⟩ := Option.map_eq_some_iff.mp found
      cases whole
      obtain ⟨rfl, free⟩ := ih later
      exact ⟨rfl, List.not_mem_cons_of_ne_of_not_mem (Ne.symm other) free⟩

theorem cut_eq_some_iff {s s' t : String} : cut sep s = some (s', t) ↔
    s.toList = s'.toList ++ sep :: t.toList ∧ sep ∉ s'.toList := by
  unfold cut
  rw [Option.map_eq_some_iff]
  constructor
  · rintro ⟨⟨a, b⟩, found, whole⟩
    cases whole
    rw [String.toList_ofList, String.toList_ofList]
    exact eq_of_cutAt found
  · rintro ⟨whole, free⟩
    refine ⟨(s'.toList, t.toList), whole ▸ cutAt_append free t.toList, ?_⟩
    rw [String.ofList_toList, String.ofList_toList]

theorem containsChars_iff : containsChars word cs = true ↔ word <:+: cs := by
  induction cs with
  | nil => simp [containsChars]
  | cons c rest ih =>
    rw [containsChars, Bool.or_eq_true, ih, List.isPrefixOf_iff_prefix, List.infix_cons_iff]

end MachineFleet.Text
