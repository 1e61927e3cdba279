import MachineFleet.Proofs.Toml.Notation

/-!
Texts and keys are read back as they were, whatever notation they are written in.
-/

namespace MachineFleet.Toml

variable {c q : Char} {cs rest : List Char}

/-- What neither goes on with a word nor with a run of quotation marks. -/
def Ends (rest : List Char) : Prop :=
  ∀ c, rest.head? = some c → isBareChar c = false ∧ c ≠ '"' ∧ c ≠ '\''

/-- A text that stands for some tokens, before anything that ends them. -/
def Written (cs : List Char) (ts : List Token) : Prop :=
  ∀ rest, Ends rest → tokens (cs ++ rest) = (tokens rest).map (ts ++ ·)

theorem ends_cons (mark : isBareChar c = false ∧ c ≠ '"' ∧ c ≠ '\'') (rest : List Char) :
    Ends (c :: rest) :=
  fun _ head => Option.some.inj head ▸ mark

theorem Ends.head? (ends : Ends rest) : rest.head? ≠ some '"' ∧ rest.head? ≠ some '\'' :=
  ⟨fun head => (ends _ head).2.1 rfl, fun head => (ends _ head).2.2 rfl⟩

theorem tokens_of_next? {ts : List Token} {rest' : List Char}
    (next : next? c rest = some (ts, rest')) :
    tokens (c :: rest) = (tokens rest').map (ts ++ ·) := by
  rw [tokens_cons, next, Option.bind_some]

/-- The two marks of an empty text do not begin one with three marks. -/
theorem single_of_head {a : List Char} (first : a.head? ≠ some q) (other : rest.head? ≠ some q) :
    [q, q].isPrefixOf (a ++ q :: rest) = false := by
  cases a with
  | nil =>
    cases rest with
    | nil => simp
    | cons c rest =>
      have differs : q ≠ c := fun same => other (congrArg some same.symm)
      simp [List.isPrefixOf, differs]
  | cons c a =>
    have differs : q ≠ c := fun same => first (congrArg some same.symm)
    simp [List.isPrefixOf, differs]

theorem head?_escapeLine (cs : List Char) : (escapeLine cs).head? ≠ some '"' := by
  cases cs with
  | nil => nofun
  | cons c cs =>
    unfold escapeLine
    split
    · simp
    split
    · simp
    · rename_i mark newline
      rcases escapeChar_cases c with kept | ⟨t, escaped⟩
      · simp [kept, mark]
      · simp [escaped]

theorem written_basic (cs : List Char) :
    Written (basic cs) [.text (String.ofList cs) true] := by
  intro rest ends
  have single := single_of_head (head?_escapeLine cs) ends.head?.1
  have next : next? '"' (escapeLine cs ++ '"' :: rest) =
      some ([.text (String.ofList cs) true], rest) := by
    change readText '"' readBasic _ = _
    rw [readText, if_neg (by simp [single]), readBasic_escapeLine]
    rfl
  rw [basic, List.cons_append, List.cons_append, List.append_assoc, List.singleton_append,
    tokens_of_next? next]

theorem written_literal (mark : '\'' ∉ cs) (control : ∀ c ∈ cs, isControl c = false)
    (newline : '\n' ∉ cs) : Written (literal cs) [.text (String.ofList cs) true] := by
  intro rest ends
  have first : cs.head? ≠ some '\'' := fun head => mark (List.mem_of_head? head)
  have single := single_of_head first ends.head?.2
  have next : next? '\'' (cs ++ '\'' :: rest) = some ([.text (String.ofList cs) true], rest) := by
    change readText '\'' readLiteral _ = _
    rw [readText, if_neg (by simp [single]), readLiteral_single mark control newline]
    rfl
  rw [literal, List.cons_append, List.cons_append, List.append_assoc, List.singleton_append,
    tokens_of_next? next]

theorem dropNewline_of_head (feed : cs.head? ≠ some '\n') (carriage : cs.head? ≠ some '\r') :
    dropNewline cs = cs := by
  unfold dropNewline
  split
  · exact absurd rfl feed
  · exact absurd rfl carriage
  · rfl

theorem dropNewline_opening {body : List Char}
    (first : '\n' ∉ cs → body.head? ≠ some '\n' ∧ body.head? ≠ some '\r') :
    dropNewline (opening cs ++ body) = body := by
  unfold opening
  split
  · rfl
  · rename_i flat
    obtain ⟨feed, carriage⟩ := first (by simpa using flat)
    rw [List.nil_append, dropNewline_of_head feed carriage]

/-- What stands between three marks and three marks, but for a line end behind the first ones, is
read as a text. -/
theorem written_lines (chars : Bool → List Char → Option (List Char × List Char))
    {body : List Char} (opens : ∀ cs, next? q cs = readText q chars cs)
    (apart : ∀ rest, Ends rest → rest.head? ≠ some q) (feed : q ≠ '\n') (carriage : q ≠ '\r')
    (first : '\n' ∉ cs → body.head? ≠ some '\n' ∧ body.head? ≠ some '\r')
    (reads : ∀ rest, rest.head? ≠ some q →
      chars true (body ++ ([q, q, q] ++ rest)) = some (cs, rest)) :
    Written ([q, q, q] ++ opening cs ++ body ++ [q, q, q]) [.text (String.ofList cs) false] := by
  intro rest ends
  have begins : '\n' ∉ cs → (body ++ ([q, q, q] ++ rest)).head? ≠ some '\n' ∧
      (body ++ ([q, q, q] ++ rest)).head? ≠ some '\r' := by
    intro flat
    cases body with
    | nil => simp [feed, carriage]
    | cons c body => simpa using first flat
  have next : next? q ([q, q] ++ (opening cs ++ (body ++ ([q, q, q] ++ rest)))) =
      some ([.text (String.ofList cs) false], rest) := by
    have behind : ∀ x : List Char, ([q, q] ++ x).drop 2 = x := fun _ => rfl
    rw [opens, readText, if_pos (by simp), behind, dropNewline_opening begins,
      reads rest (apart rest ends)]
    rfl
  have order : [q, q, q] ++ opening cs ++ body ++ [q, q, q] ++ rest =
      q :: ([q, q] ++ (opening cs ++ (body ++ ([q, q, q] ++ rest)))) := by simp
  rw [order, tokens_of_next? next]

theorem head?_escapeLines (cs : List Char) : (escapeLines 0 cs).head? ≠ some '\r' ∧
    ('\n' ∉ cs → (escapeLines 0 cs).head? ≠ some '\n') := by
  cases cs with
  | nil => exact ⟨nofun, fun _ => nofun⟩
  | cons c cs =>
    unfold escapeLines
    split
    · simp
    split
    · rename_i same
      subst same
      exact ⟨by simp, fun flat => absurd List.mem_cons_self flat⟩
    · rename_i newline
      rcases escapeChar_cases c with kept | ⟨t, escaped⟩
      · have other : c ≠ '\r' := by
          rintro rfl
          exact absurd kept (by decide)
        simp [kept, newline, other]
      · simp [escaped]

theorem written_multiBasic (cs : List Char) :
    Written (multiBasic cs) [.text (String.ofList cs) false] := by
  obtain ⟨carriage, feed⟩ := head?_escapeLines cs
  exact written_lines readBasic (fun _ => rfl) (fun _ ends => ends.head?.1) (by decide)
    (by decide) (fun flat => ⟨feed flat, carriage⟩)
    fun rest other => readBasic_escapeLines (Nat.zero_le 2) cs other

theorem written_multiLiteral (run : hasRun '\'' cs = false)
    (control : ∀ c ∈ cs, isControl c = false) :
    Written (multiLiteral cs) [.text (String.ofList cs) false] := by
  have begins : '\n' ∉ cs → cs.head? ≠ some '\n' ∧ cs.head? ≠ some '\r' := by
    refine fun flat => ⟨fun head => flat (List.mem_of_head? head), fun head => ?_⟩
    exact absurd (control _ (List.mem_of_head? head)) (by decide)
  exact written_lines readLiteral (fun _ => rfl) (fun _ ends => ends.head?.2) (by decide)
    (by decide) begins fun rest other => readLiteral_lines (m := 0) cs run control other

theorem written_stringText (s : String) : ∃ single, Written (stringText s) [.text s single] := by
  have text : ∀ t single, Written t [.text (String.ofList s.toList) single] →
      ∃ single, Written t [.text s single] := by
    intro t single written
    rw [String.ofList_toList] at written
    exact ⟨single, written⟩
  unfold stringText
  dsimp only
  split
  · exact text _ _ (written_basic s.toList)
  split
  · rename_i plain
    simp only [Bool.and_eq_true, Bool.not_eq_true', List.any_eq_false, Bool.not_eq_true,
      List.contains_eq_mem, decide_eq_false_iff_not] at plain
    exact text _ _ (written_literal plain.2 plain.1.1 plain.1.2)
  split
  · exact text _ _ (written_multiBasic s.toList)
  split
  · rename_i plain
    simp only [Bool.and_eq_true, Bool.not_eq_true', List.any_eq_false, Bool.not_eq_true] at plain
    exact text _ _ (written_multiLiteral plain.2 plain.1)
  split
  · exact text _ _ (written_multiBasic s.toList)
  · exact text _ _ (written_basic s.toList)

theorem not_isMark_of_bare (bare : isBareChar c = true) : isMark c = false := by
  have other : ∀ x, isBareChar x = false → c ≠ x := fun x => ne_of_bare bare
  simp [isMark, other '[' (by decide), other ']' (by decide), other '.' (by decide),
    other ',' (by decide), other '=' (by decide)]

theorem next?_word (bare : isBareChar c = true) (rest : List Char) : next? c rest =
    some ([.word (c :: rest.takeWhile isBareChar)], rest.dropWhile isBareChar) := by
  have other : ∀ x, isBareChar x = false → c ≠ x := fun x => ne_of_bare bare
  unfold next?
  rw [if_neg (not_or.mpr ⟨other _ (by decide), other _ (by decide)⟩), if_neg (other _ (by decide)),
    if_neg (other _ (by decide)), if_neg (other _ (by decide)), if_neg (other _ (by decide)),
    if_neg (other _ (by decide)), not_isMark_of_bare bare, if_neg Bool.false_ne_true, if_pos bare]

theorem written_word {w : List Char} (bare : Bare w) : Written w [.word w] := by
  intro rest ends
  obtain ⟨filled, each⟩ := bare
  cases w with
  | nil => exact absurd rfl filled
  | cons c w =>
    obtain ⟨first, later⟩ := List.forall_mem_cons.mp each
    have stops : rest.takeWhile isBareChar = [] ∧ rest.dropWhile isBareChar = rest := by
      cases rest with
      | nil => exact ⟨rfl, rfl⟩
      | cons c' rest =>
        have other := (ends c' rfl).1
        exact ⟨List.takeWhile_cons_of_neg (by simp [other]),
          List.dropWhile_cons_of_neg (by simp [other])⟩
    have next : next? c (w ++ rest) = some ([.word (c :: w)], rest) := by
      rw [next?_word first, List.takeWhile_append_of_pos later, List.dropWhile_append_of_pos later,
        stops.1, stops.2, List.append_nil]
    rw [List.cons_append, tokens_of_next? next]

theorem written_keyText (k : String) : ∃ t, Written (keyText k) [t] ∧ t.key? = some k := by
  have whole : String.ofList k.toList = k := String.ofList_toList
  have text : ∀ t, Written t [.text (String.ofList k.toList) true] →
      ∃ u, Written t [u] ∧ u.key? = some k :=
    fun t written => ⟨_, written, congrArg some whole⟩
  unfold keyText
  dsimp only
  split
  · rename_i plain
    have bare : Bare k.toList := by
      simp only [Bool.and_eq_true, Bool.not_eq_true', List.isEmpty_eq_false_iff,
        List.all_eq_true] at plain
      exact plain
    exact ⟨_, written_word bare, congrArg some whole⟩
  split
  · exact text _ (written_basic k.toList)
  split
  · rename_i plain
    simp only [Bool.and_eq_true, Bool.not_eq_true', List.any_eq_false, Bool.or_eq_true,
      not_or, Bool.not_eq_true, beq_eq_false_iff_ne, List.contains_eq_mem,
      decide_eq_false_iff_not] at plain
    exact text _ (written_literal plain.2 (fun c member => (plain.1 c member).1)
      fun member => (plain.1 _ member).2 rfl)
  · exact text _ (written_basic k.toList)

end MachineFleet.Toml
