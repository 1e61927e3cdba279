import MachineFleet.Proofs.Toml.Marks
import MachineFleet.Proofs.Toml.Token

/-!
What stands between quotation marks is read back as the text that it stands for, on one line or on
several, with escapes or without.
-/

namespace MachineFleet.Toml

variable {c q : Char} {cs rest : List Char}

theorem push_some (c : Char) (t rest : List Char) :
    push (some c) (some (t, rest)) = some (c :: t, rest) := rfl

theorem shortCode?_escape : ∀ n < 128,
    shortCode? '0' '0' (hexDigit (n / 16)) (hexDigit (n % 16)) = some (Char.ofNat n) := by
  decide +kernel

theorem readBasic_escaped {e c : Char} (long : e ≠ 'u') (longer : e ≠ 'U')
    (stands : escaped? e = some c) (rest : List Char) :
    readBasic lines ('\\' :: e :: rest) = push (some c) (readBasic lines rest) := by
  rw [readBasic, stands]
  · rintro _ _ _ _ _ rfl
    exact (long rfl).elim
  · rintro _ _ _ _ _ _ _ _ _ rfl
    exact (longer rfl).elim

theorem readBasic_plain (mark : c ≠ '"') (slash : c ≠ '\\') (rest : List Char) :
    readBasic lines (c :: rest) = push (plain? lines c) (readBasic lines rest) := by
  rw [readBasic, if_neg mark, if_neg slash]
  all_goals simp [slash]

theorem readBasic_escapeChar (mark : c ≠ '"') (newline : c ≠ '\n') (rest : List Char) :
    readBasic lines (escapeChar c ++ rest) = push (some c) (readBasic lines rest) := by
  unfold escapeChar
  split
  · rename_i same
    exact readBasic_escaped (by decide) (by decide) (by rw [same]; rfl) rest
  split
  · rename_i same
    exact readBasic_escaped (by decide) (by decide) (by rw [same]; rfl) rest
  split
  · rename_i same
    exact readBasic_escaped (by decide) (by decide) (by rw [same]; rfl) rest
  split
  · rename_i same
    exact readBasic_escaped (by decide) (by decide) (by rw [same]; rfl) rest
  split
  · rename_i same
    exact readBasic_escaped (by decide) (by decide) (by rw [same]; rfl) rest
  rename_i slash
  split
  · rename_i control
    have code := shortCode?_escape c.toNat (lt_of_isControl control)
    simp only [List.cons_append, List.nil_append]
    rw [readBasic, code, Char.ofNat_toNat]
  · rename_i shown
    have plain : plain? lines c = some c := by simp [plain?, shown, newline]
    rw [List.singleton_append, readBasic_plain mark slash, plain]

theorem readBasic_escapeLine (cs rest : List Char) :
    readBasic false (escapeLine cs ++ '"' :: rest) = some (cs, rest) := by
  induction cs with
  | nil => simp [escapeLine, readBasic, ending?]
  | cons c cs ih =>
    unfold escapeLine
    rw [List.append_assoc]
    split
    · rename_i same
      subst same
      rw [List.cons_append, List.cons_append, List.nil_append,
        readBasic_escaped (c := '"') (by decide) (by decide) rfl, ih, push_some]
    split
    · rename_i same
      subst same
      rw [List.cons_append, List.cons_append, List.nil_append,
        readBasic_escaped (c := '\n') (by decide) (by decide) rfl, ih, push_some]
    · rename_i mark newline
      rw [readBasic_escapeChar mark newline, ih, push_some]

theorem readLiteral_single (mark : '\'' ∉ cs) (control : ∀ c ∈ cs, isControl c = false)
    (newline : '\n' ∉ cs) (rest : List Char) :
    readLiteral false (cs ++ '\'' :: rest) = some (cs, rest) := by
  induction cs with
  | nil => simp [readLiteral, ending?]
  | cons c cs ih =>
    obtain ⟨other, mark⟩ := List.ne_and_not_mem_of_not_mem_cons mark
    obtain ⟨flat, newline⟩ := List.ne_and_not_mem_of_not_mem_cons newline
    obtain ⟨shown, control⟩ := List.forall_mem_cons.mp control
    have plain : plain? false c = some c := by simp [plain?, shown, Ne.symm flat]
    rw [List.cons_append, readLiteral, if_neg (Ne.symm other), plain, ih mark control newline,
      push_some]

/-- How both readers go on at their mark. -/
def MeetsMark (q : Char) (chars : Bool → List Char → Option (List Char × List Char)) : Prop :=
  ∀ lines rest, chars lines (q :: rest) =
    (ending? q lines rest).or (push (some q) (chars lines rest))

theorem readBasic_meetsMark : MeetsMark '"' readBasic := by
  intro lines rest
  rw [readBasic, if_pos rfl]
  all_goals simp

theorem readLiteral_meetsMark : MeetsMark '\'' readLiteral := by
  intro lines rest
  rw [readLiteral, if_pos rfl]

section Lines

variable {chars : Bool → List Char → Option (List Char × List Char)} {m : Nat}

theorem closing_replicate (few : m ≤ 2) (other : rest.head? ≠ some q) :
    closing q (List.replicate m q ++ rest) = (List.replicate m q, rest) := by
  have count : m = 0 ∨ m = 1 ∨ m = 2 := by omega
  unfold closing
  cases rest with
  | nil => rcases count with rfl | rfl | rfl <;> simp
  | cons c rest =>
    have differs : c ≠ q := fun same => other (congrArg some same)
    rcases count with rfl | rfl | rfl <;> simp [differs]

/-- Three marks end a text, and up to two that stand before them belong to it. -/
theorem MeetsMark.ends (meets : MeetsMark q chars) (few : m ≤ 2) (other : rest.head? ≠ some q) :
    chars true (List.replicate m q ++ (List.replicate 3 q ++ rest)) =
      some (List.replicate m q, rest) := by
  have order : List.replicate m q ++ (List.replicate 3 q ++ rest) =
      q :: q :: q :: (List.replicate m q ++ rest) := by
    rw [← List.append_assoc, List.replicate_append_replicate, Nat.add_comm,
      ← List.replicate_append_replicate, List.append_assoc]
    rfl
  rw [order, meets, ending?]
  simp [closing_replicate few other]

/-- Up to two marks before another character belong to the text. -/
theorem MeetsMark.passes (meets : MeetsMark q chars) (few : m ≤ 2) (other : c ≠ q) :
    chars true (List.replicate m q ++ c :: rest) =
      (chars true (c :: rest)).map fun r => (List.replicate m q ++ r.1, r.2) := by
  induction m with
  | zero => simp
  | succ m ih =>
    have goes : ending? q true (List.replicate m q ++ c :: rest) = none := by
      have count : m = 0 ∨ m = 1 := by omega
      rcases count with rfl | rfl <;> simp [ending?, Ne.symm other]
    rw [List.replicate_succ, List.cons_append, meets, goes, Option.none_or, ih (by omega)]
    cases chars true (c :: rest) <;> rfl

end Lines

theorem readBasic_escapeLines {m : Nat} (few : m ≤ 2) (cs : List Char)
    (other : rest.head? ≠ some '"') :
    readBasic true (List.replicate m '"' ++ (escapeLines m cs ++ (['"', '"', '"'] ++ rest))) =
      some (List.replicate m '"' ++ cs, rest) := by
  induction cs generalizing m with
  | nil =>
    rw [List.append_nil]
    exact readBasic_meetsMark.ends few other
  | cons c cs ih =>
    have start := ih (Nat.zero_le 2)
    rw [List.replicate_zero, List.nil_append, List.nil_append] at start
    unfold escapeLines
    split
    · rename_i same
      subst same
      split
      · -- the third mark is escaped
        rename_i third
        rw [List.cons_append, List.cons_append, readBasic_meetsMark.passes few (by decide),
          readBasic_escaped (c := '"') (by decide) (by decide) rfl, start]
        rfl
      · have next := ih (m := m + 1) (by omega)
        rw [List.replicate_succ', List.append_assoc, List.append_assoc] at next
        exact next
    split
    · rename_i same
      subst same
      rw [List.cons_append, readBasic_meetsMark.passes few (by decide),
        readBasic_plain (by decide) (by decide), start]
      rfl
    · rename_i mark newline
      have step : readBasic true (escapeChar c ++ (escapeLines 0 cs ++ (['"', '"', '"'] ++ rest))) =
          push (some c) (some (cs, rest)) := by rw [readBasic_escapeChar mark newline, start]
      rw [List.append_assoc]
      rcases escapeChar_cases c with kept | ⟨t, escaped⟩
      · rw [kept, List.singleton_append] at step ⊢
        rw [readBasic_meetsMark.passes few mark, step]
        rfl
      · rw [escaped, List.cons_append] at step ⊢
        rw [readBasic_meetsMark.passes few (by decide), step]
        rfl

theorem hasRun_tail (run : hasRun q (c :: cs) = false) : hasRun q cs = false := by
  match cs with
  | [] => rfl
  | [_] => rfl
  | _ :: _ :: _ => exact (Bool.or_eq_false_iff.mp run).2

theorem hasRun_append {a b : List Char} (run : hasRun q (a ++ b) = false) :
    hasRun q b = false := by
  induction a with
  | nil => exact run
  | cons c a ih => exact ih (hasRun_tail run)

theorem few_of_hasRun {m : Nat} (run : hasRun q (List.replicate m q ++ cs) = false) : m ≤ 2 := by
  match m with
  | 0 => exact Nat.zero_le 2
  | 1 => exact Nat.le_succ 1
  | 2 => exact Nat.le_refl 2
  | m + 3 => simp [List.replicate_succ, hasRun] at run

theorem readLiteral_lines {m : Nat} (cs : List Char)
    (run : hasRun '\'' (List.replicate m '\'' ++ cs) = false)
    (control : ∀ c ∈ cs, isControl c = false) (other : rest.head? ≠ some '\'') :
    readLiteral true (List.replicate m '\'' ++ (cs ++ (['\'', '\'', '\''] ++ rest))) =
      some (List.replicate m '\'' ++ cs, rest) := by
  have few : m ≤ 2 := few_of_hasRun run
  induction cs generalizing m with
  | nil =>
    rw [List.append_nil]
    exact readLiteral_meetsMark.ends few other
  | cons c cs ih =>
    obtain ⟨shown, later⟩ := List.forall_mem_cons.mp control
    by_cases mark : c = '\''
    · subst mark
      rw [List.append_cons, ← List.replicate_succ'] at run
      have next := ih run later (few_of_hasRun run)
      rw [List.replicate_succ', List.append_assoc, List.append_assoc] at next
      exact next
    · have start := ih (m := 0) (hasRun_tail (hasRun_append run)) later (Nat.zero_le 2)
      rw [List.replicate_zero, List.nil_append, List.nil_append] at start
      have plain : plain? true c = some c := by simp [plain?, shown]
      rw [List.cons_append, readLiteral_meetsMark.passes few mark, readLiteral, if_neg mark, plain,
        start]
      rfl

end MachineFleet.Toml
