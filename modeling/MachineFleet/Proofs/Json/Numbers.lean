import MachineFleet.Json.Printer
import Std.Data.String.ToNat

/-!
The texts of numbers: which characters they have, and that an integer is told by its text, also from
every floating point number.
-/

namespace MachineFleet.Json

/-- A digit, a sign, or one of the marks of a floating point number. -/
def isNumeric (c : Char) : Bool := c.isDigit || ['-', '+', '.', 'e'].contains c

variable {c : Char} {digits : List Char}

theorem isNumeric_of_isDigit (h : c.isDigit = true) : isNumeric c = true := by
  simp only [isNumeric, h, Bool.true_or]

theorem isDigit_toDigits (n : Nat) : ∀ c ∈ Nat.toDigits 10 n, c.isDigit = true :=
  fun _ member => Nat.isDigit_of_mem_toDigits (by decide) (by decide) member

theorem isNumeric_toDigits (n : Nat) : ∀ c ∈ Nat.toDigits 10 n, isNumeric c = true :=
  fun c member => isNumeric_of_isDigit (isDigit_toDigits n c member)

theorem isNumeric_positional (numeric : ∀ c ∈ digits, isNumeric c = true) (point : Int) :
    ∀ c ∈ Decimal.positional digits point, isNumeric c = true := by
  intro c member
  have zero : isNumeric '0' = true := by decide
  have mark : isNumeric '.' = true := by decide
  unfold Decimal.positional at member
  split at member
  · simp only [List.cons_append, List.nil_append, List.mem_cons, List.mem_append,
      List.mem_replicate] at member
    rcases member with rfl | rfl | ⟨-, rfl⟩ | member
    · exact zero
    · exact mark
    · exact zero
    · exact numeric c member
  split at member
  · simp only [List.mem_append, List.mem_cons, List.mem_replicate, List.not_mem_nil,
      or_false] at member
    rcases member with (member | ⟨-, rfl⟩) | rfl | rfl
    · exact numeric c member
    · exact zero
    · exact mark
    · exact zero
  · simp only [List.mem_append, List.mem_singleton] at member
    rcases member with (member | rfl) | member
    · exact numeric c (List.mem_of_mem_take member)
    · exact mark
    · exact numeric c (List.mem_of_mem_drop member)

theorem isNumeric_scientific (numeric : ∀ c ∈ digits, isNumeric c = true) (exponent : Int) :
    ∀ c ∈ Decimal.scientific digits exponent, isNumeric c = true := by
  intro c member
  rcases List.mem_append.mp member with mantissa | power
  · split at mantissa
    · rename_i d e rest
      rcases List.mem_cons.mp mantissa with rfl | later
      · exact numeric c List.mem_cons_self
      · rcases List.mem_cons.mp later with rfl | later
        · decide
        · exact numeric c (List.mem_cons_of_mem _ later)
    · exact numeric c mantissa
  · rcases List.mem_cons.mp power with rfl | power
    · decide
    · rcases List.mem_cons.mp power with rfl | power
      · split <;> decide
      · exact isNumeric_toDigits _ c power

theorem isNumeric_format (x : Binary64) : ∀ c ∈ Decimal.format x, isNumeric c = true := by
  have sign : ∀ c ∈ (if x.negative then ['-'] else []), isNumeric c = true := by
    split
    · exact List.all_eq_true.mp (by decide)
    · exact List.all_eq_true.mp (by decide)
  have zero : ∀ c ∈ ['0', '.', '0'], isNumeric c = true := List.all_eq_true.mp (by decide)
  intro c member
  unfold Decimal.format at member
  dsimp only at member
  split at member
  · rcases List.mem_append.mp member with first | rest
    · exact sign c first
    · exact zero c rest
  split at member
  · rcases List.mem_append.mp member with first | digits
    · exact sign c first
    · exact isNumeric_positional (isNumeric_toDigits _) _ c digits
  · rcases List.mem_append.mp member with first | digits
    · exact sign c first
    · exact isNumeric_scientific (isNumeric_toDigits _) _ c digits

theorem isNumeric_text (n : Number) : ∀ c ∈ n.text, isNumeric c = true := by
  cases n with
  | float x => exact isNumeric_format x
  | int n =>
    unfold Number.text
    dsimp only
    split
    · intro c member
      rcases List.mem_cons.mp member with rfl | member
      · decide
      · exact isNumeric_toDigits _ c member
    · exact isNumeric_toDigits _

/-- A floating point number has a fraction or an exponent. -/
theorem format_marked (x : Binary64) : '.' ∈ Decimal.format x ∨ 'e' ∈ Decimal.format x := by
  unfold Decimal.format
  dsimp only
  split
  · exact .inl (by simp)
  split
  · refine .inl (List.mem_append_right _ ?_)
    unfold Decimal.positional
    split
    · simp
    · split <;> simp
  · exact .inr (List.mem_append_right _ (List.mem_append_right _ List.mem_cons_self))

theorem integral_text {n : Int} : ∀ c ∈ (Number.int n).text, c.isDigit = true ∨ c = '-' := by
  intro c member
  unfold Number.text at member
  dsimp only at member
  split at member
  · rcases List.mem_cons.mp member with rfl | member
    · exact .inr rfl
    · exact .inl (isDigit_toDigits _ c member)
  · exact .inl (isDigit_toDigits _ c member)

theorem int_text_ne (n : Int) (x : Binary64) : (Number.int n).text ≠ Decimal.format x := by
  intro same
  rcases format_marked x with mark | mark
  · rw [← same] at mark
    exact absurd (integral_text _ mark) (by decide)
  · rw [← same] at mark
    exact absurd (integral_text _ mark) (by decide)

theorem toDigits_inj {n m : Nat} (same : Nat.toDigits 10 n = Nat.toDigits 10 m) : n = m :=
  Nat.repr_injective (congrArg String.ofList same)

theorem toDigits_ne_minus (n : Nat) (digits : List Char) : Nat.toDigits 10 n ≠ '-' :: digits := by
  intro same
  have member : '-' ∈ Nat.toDigits 10 n := same ▸ List.mem_cons_self
  exact absurd (isDigit_toDigits n '-' member) (by decide)

theorem int_text_inj {n m : Int} (same : (Number.int n).text = (Number.int m).text) : n = m := by
  unfold Number.text at same
  dsimp only at same
  split at same <;> split at same
  · have digits := toDigits_inj (List.cons.inj same).2
    omega
  · exact absurd same.symm (toDigits_ne_minus _ _)
  · exact absurd same (toDigits_ne_minus _ _)
  · have digits := toDigits_inj same
    omega

theorem text_ne_nil (n : Number) : n.text ≠ [] := by
  cases n with
  | float x =>
    intro empty
    have marked := format_marked x
    unfold Number.text at empty
    simp [empty] at marked
  | int n =>
    unfold Number.text
    dsimp only
    split
    · exact List.cons_ne_nil _ _
    · exact fun empty => absurd (congrArg List.length empty) (by simp)

end MachineFleet.Json
