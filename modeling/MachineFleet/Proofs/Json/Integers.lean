import MachineFleet.Json.Numeral
import MachineFleet.Proofs.Json.Numbers

/-!
Integers are read back from their texts. A numeral ends at white space and at the marks that stand
behind a value.
-/

namespace MachineFleet.Json

/-- White space, or a mark that stands behind a value. -/
def isStop (c : Char) : Bool := [' ', '\n', '\t', '\r', ',', ']', '\x7d'].contains c

theorem isStop_cases {c : Char} (stop : isStop c = true) :
    c = ' ' ∨ c = '\n' ∨ c = '\t' ∨ c = '\r' ∨ c = ',' ∨ c = ']' ∨ c = '\x7d' := by
  simpa [isStop] using stop

/-- What comes behind a value. -/
def Stops (x : List Char) : Prop := ∀ c, x.head? = some c → isStop c = true

theorem stops_cons {c : Char} (stop : isStop c = true) (x : List Char) : Stops (c :: x) :=
  fun _ head => Option.some.inj head ▸ stop

namespace Numeral

variable {x : List Char}

theorem le_ofDigitChars (cs : List Char) (w : Nat) : w ≤ Nat.ofDigitChars 10 cs w := by
  rw [Nat.ofDigitChars_eq_ofDigitChars_zero]
  exact Nat.le_add_right_of_le (Nat.le_mul_of_pos_left w (Nat.pow_pos (by decide)))

theorem accumulate_eq {cs : List Char} {w : Nat} (fits : Nat.ofDigitChars 10 cs w ≤ maxWord) :
    accumulate w cs = (Nat.ofDigitChars 10 cs w, 0) := by
  induction cs generalizing w with
  | nil => rfl
  | cons c rest ih =>
    rw [Nat.ofDigitChars_cons, Nat.mul_comm] at fits ⊢
    have next : w * 10 + digitValue c ≤ maxWord := Nat.le_trans (le_ofDigitChars rest _) fits
    rw [accumulate, if_pos next]
    exact ih fits

theorem head?_toDigits {n : Nat} (positive : 0 < n) : (Nat.toDigits 10 n).head? ≠ some '0' := by
  induction n using Nat.strongRecOn with
  | ind n ih =>
    by_cases small : n < 10
    · have first : ∀ d < 10, 0 < d → Nat.digitChar d ≠ '0' := by decide
      rw [Nat.toDigits_of_lt_base small]
      exact fun same => first n small positive (Option.some.inj same)
    · obtain ⟨c, rest, front⟩ := List.exists_cons_of_ne_nil
        (Nat.toDigits_ne_nil : Nat.toDigits 10 (n / 10) ≠ [])
      have before := ih (n / 10) (by omega) (by omega)
      rw [Nat.toDigits_of_base_le (by decide) (by omega), front]
      rwa [front] at before

theorem stop_ends_numeral {c : Char} (stop : isStop c = true) :
    isDigit c = false ∧ c ≠ '.' ∧ ¬ (c = 'e' ∨ c = 'E') := by
  rcases isStop_cases stop with rfl | rfl | rfl | rfl | rfl | rfl | rfl <;> decide

theorem digits_toDigits (n : Nat) (stops : Stops x) :
    digits (Nat.toDigits 10 n ++ x) = (Nat.toDigits 10 n, x) := by
  have all : ∀ c ∈ Nat.toDigits 10 n, isDigit c = true := isDigit_toDigits n
  unfold digits
  rw [List.takeWhile_append_of_pos all, List.dropWhile_append_of_pos all]
  cases x with
  | nil => rw [List.takeWhile_nil, List.dropWhile_nil, List.append_nil]
  | cons c rest =>
    obtain ⟨other, -⟩ := stop_ends_numeral (stops c rfl)
    rw [List.takeWhile_cons_of_neg (by simp [other]), List.dropWhile_cons_of_neg (by simp [other]),
      List.append_nil]

theorem readUnsigned_toDigits (negative : Bool) {n : Nat} (fits : n ≤ maxWord) (stops : Stops x) :
    readUnsigned negative (Nat.toDigits 10 n ++ x) =
      some (ofInteger negative (Nat.toDigits 10 n), x) := by
  have plain : ¬ ((Nat.toDigits 10 n).head? = some '0' ∧ 1 < (Nat.toDigits 10 n).length) := by
    rintro ⟨first, long⟩
    rcases Nat.eq_zero_or_pos n with rfl | positive
    · simp at long
    · exact head?_toDigits positive first
  have some : Nat.toDigits 10 n ≠ [] := Nat.toDigits_ne_nil
  unfold readUnsigned
  rw [digits_toDigits n stops]
  generalize Nat.toDigits 10 n = whole at *
  cases whole with
  | nil => exact absurd rfl some
  | cons d rest =>
    dsimp only
    rw [if_neg plain]
    cases x with
    | nil => rfl
    | cons c behind =>
      obtain ⟨-, point, power⟩ := stop_ends_numeral (stops c rfl)
      split
      · rename_i same
        exact absurd (List.cons.inj same).1 point
      · rw [readTail, if_neg power]

theorem accumulate_toDigits {n : Nat} (fits : n ≤ maxWord) :
    accumulate 0 (Nat.toDigits 10 n) = (n, 0) := by
  have value : Nat.ofDigitChars 10 (Nat.toDigits 10 n) 0 = n := Nat.ofDigitChars_ten_toDigits
  rw [accumulate_eq (by rwa [value]), value]

theorem ofInteger_toDigits {n : Nat} (fits : n ≤ maxWord) :
    ofInteger false (Nat.toDigits 10 n) = .number (.int n) := by
  unfold ofInteger
  rw [accumulate_toDigits fits]
  rfl

theorem ofInteger_negative {n : Nat} (positive : 0 < n) (fits : n ≤ Nat.pow 2 63) :
    ofInteger true (Nat.toDigits 10 n) = .number (.int (-n)) := by
  unfold ofInteger
  rw [accumulate_toDigits (Nat.le_trans fits (by decide))]
  dsimp only
  rw [if_neg (by simp), if_neg (by simp), if_neg (by omega), if_pos fits]

end Numeral

/-- An integer of 64 bits, signed or unsigned. -/
def Number.IsWord : Number → Prop
  | .int n => -(Nat.pow 2 63) ≤ n ∧ n ≤ Numeral.maxWord
  | .float _ => False

theorem Number.read_text {n : Number} (word : n.IsWord) {x : List Char} (stops : Stops x) :
    Numeral.read (n.text ++ x) = some (.number n, x) := by
  cases n with
  | float y => exact word.elim
  | int n =>
    obtain ⟨low, high⟩ := word
    have small : Nat.pow 2 63 ≤ Numeral.maxWord := by decide
    unfold Number.text
    dsimp only
    split
    · have value : -((n.natAbs : Nat) : Int) = n := by omega
      show Numeral.readUnsigned true (Nat.toDigits 10 n.natAbs ++ x) = _
      rw [Numeral.readUnsigned_toDigits true (by omega) stops,
        Numeral.ofInteger_negative (by omega) (by omega), value]
    · have value : ((n.natAbs : Nat) : Int) = n := by omega
      unfold Numeral.read
      split
      · rename_i rest same
        obtain ⟨c, t, front⟩ := List.exists_cons_of_ne_nil
          (Nat.toDigits_ne_nil : Nat.toDigits 10 n.natAbs ≠ [])
        rw [front, List.cons_append] at same
        exact absurd ((List.cons.inj same).1 ▸ front) (toDigits_ne_minus _ t)
      · rw [Numeral.readUnsigned_toDigits false (by omega) stops,
          Numeral.ofInteger_toDigits (by omega), value]

end MachineFleet.Json
