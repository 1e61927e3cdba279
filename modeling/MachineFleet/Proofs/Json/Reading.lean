import MachineFleet.Json.Decode
import MachineFleet.Proofs.Json.Layouts
import MachineFleet.Proofs.Json.Readable

/-!
The text of a document is read back as that document, whatever white space stands between its parts.
This leaves out floating point numbers, integers of more than 64 bits, and documents that nest too
deep for the reader.
-/

namespace MachineFleet.Json

open Document

theorem skipSpace_append {g : List Char} (spaces : ∀ c ∈ g, isSpace c = true) (cs : List Char) :
    skipSpace (g ++ cs) = skipSpace cs :=
  List.dropWhile_append_of_pos spaces

theorem skipSpace_cons {c : Char} (mark : isSpace c = false) (t : List Char) :
    skipSpace (c :: t) = c :: t :=
  List.dropWhile_cons_of_neg fun space => Bool.false_ne_true (mark.symm.trans space)

theorem isStop_of_isSpace {c : Char} (space : isSpace c = true) : isStop c = true := by
  simp only [isSpace, Bool.or_eq_true, beq_iff_eq] at space
  rcases space with ((rfl | rfl) | rfl) | rfl <;> decide

theorem isStop_of_isNumeric {c : Char} (numeric : isNumeric c = true) : isStop c = false := by
  refine Bool.eq_false_iff.mpr fun stop => ?_
  rcases isStop_cases stop with rfl | rfl | rfl | rfl | rfl | rfl | rfl <;> cases numeric

/-- Neither white space nor a mark begins a value. -/
theorem text_begins (l : Layout) (depth : Nat) (j : Json) :
    ∃ c t, l.text depth j = c :: t ∧ isStop c = false := by
  match j with
  | .null => exact ⟨'n', _, rfl, by decide⟩
  | .bool true => exact ⟨'t', _, rfl, by decide⟩
  | .bool false => exact ⟨'f', _, rfl, by decide⟩
  | .num n =>
    obtain ⟨c, t, text⟩ := List.exists_cons_of_ne_nil (text_ne_nil n)
    exact ⟨c, t, text, isStop_of_isNumeric (isNumeric_text n c (by simp [text]))⟩
  | .str s => exact ⟨'"', _, rfl, by decide⟩
  | .arr [] => exact ⟨'[', _, rfl, by decide⟩
  | .arr (_ :: _) => exact ⟨'[', _, rfl, by decide⟩
  | .obj [] => exact ⟨'\x7b', _, rfl, by decide⟩
  | .obj ((_, _) :: _) => exact ⟨'\x7b', _, rfl, by decide⟩

section Steps

variable {fuel depth : Nat} {cs t x : List Char} {d : Document} {ds : List Document}
  {ms : List (String × Document)} {rest : Option (List Char)} {ending : Ending}

theorem skipSpace_mark {c : Char} (mark : isStop c = false) (t : List Char) :
    skipSpace (c :: t) = c :: t := by
  refine skipSpace_cons (Bool.eq_false_iff.mpr fun space => ?_) t
  rw [isStop_of_isSpace space] at mark
  cases mark

theorem readValue_num {n : Number} (shown : skipSpace cs = n.text ++ x) (word : n.IsWord)
    (stops : Stops x) : readValue (fuel + 1) depth cs = (.num n, some x) := by
  obtain ⟨c, t, front⟩ := List.exists_cons_of_ne_nil (text_ne_nil n)
  have numeric : isNumeric c = true := isNumeric_text n c (by simp [front])
  have read := n.read_text word stops
  rw [front, List.cons_append] at read shown
  have other : ∀ {d : Char} {t' : List Char}, isNumeric d = false → c :: (t ++ x) ≠ d :: t' := by
    intro d t' mark same
    rw [(List.cons.inj same).1, mark] at numeric
    cases numeric
  rw [readValue, shown]
  split
  case h_1 same => cases same
  case h_2 same => exact absurd same (other (by decide))
  case h_3 same => exact absurd same (other (by decide))
  case h_4 same => exact absurd same (other (by decide))
  case h_5 same => exact absurd same (other (by decide))
  case h_6 same => exact absurd same (other (by decide))
  case h_7 same => exact absurd same (other (by decide))
  case h_8 => rw [read]

theorem readValue_str {s : String} (shown : skipSpace cs = stringText s ++ x) :
    readValue (fuel + 1) depth cs = (.str s, some x) := by
  have body : stringText s ++ x = '"' :: (s.toList.flatMap escapeChar ++ '"' :: x) := by
    simp [stringText]
  simp only [readValue, shown, body, readString_body, String.ofList_toList]

theorem readValue_arr (shown : skipSpace cs = '[' :: t) (deep : depth + 1 ≤ maxDepth)
    (read : readItems fuel (depth + 1) true t = (ds, ending, rest)) :
    readValue (fuel + 1) depth cs = (.arr ds ending, rest) := by
  simp only [readValue, shown, read, atDepth, if_pos deep]

theorem readValue_obj (shown : skipSpace cs = '\x7b' :: t) (deep : depth + 1 ≤ maxDepth)
    (read : readMembers fuel (depth + 1) true t = (ms, ending, rest)) :
    readValue (fuel + 1) depth cs = (.obj ms ending, rest) := by
  simp only [readValue, shown, read, atDepth, if_pos deep]

theorem readItems_closed (shown : skipSpace cs = ']' :: x) (first : Bool) :
    readItems (fuel + 1) depth first cs = ([], .closed, some x) := by
  unfold readItems
  rw [shown]
  rfl

theorem readItems_first {c : Char} (shown : skipSpace cs = c :: t) (mark : isStop c = false) :
    readItems (fuel + 1) depth true cs = readItem fuel depth (c :: t) := by
  unfold readItems
  rw [shown]
  split
  case h_1 _ same =>
    rw [(List.cons.inj same).1] at mark
    cases mark
  case h_2 never => cases never
  case h_3 => rfl
  case h_4 never _ _ => cases never

theorem readItems_next {c : Char} (shown : skipSpace cs = c :: t) (mark : isStop c = false) :
    readItems (fuel + 1) depth false (',' :: cs) = readItem fuel depth (c :: t) := by
  have comma : skipSpace (',' :: cs) = ',' :: cs := skipSpace_cons (by decide) cs
  unfold readItems
  simp only [comma, shown]
  split
  case h_1 same =>
    rw [(List.cons.inj same).1] at mark
    cases mark
  case h_2 => rfl

theorem readItem_eq (first : readValue fuel depth cs = (d, some t))
    (later : readItems fuel depth false t = (ds, ending, rest)) :
    readItem (fuel + 1) depth cs = (d :: ds, ending, rest) := by
  rw [readItem, first]
  dsimp only
  rw [later]

theorem readMembers_closed (shown : skipSpace cs = '\x7d' :: x) (first : Bool) :
    readMembers (fuel + 1) depth first cs = ([], .closed, some x) := by
  unfold readMembers
  rw [shown]
  rfl

theorem readMembers_first (shown : skipSpace cs = '"' :: t) :
    readMembers (fuel + 1) depth true cs = readMember fuel depth ('"' :: t) := by
  unfold readMembers
  rw [shown]
  rfl

theorem readMembers_next :
    readMembers (fuel + 1) depth false (',' :: cs) = readMember fuel depth (skipSpace cs) := by
  unfold readMembers
  rfl

theorem readMember_eq {k : String} (first : readValue fuel depth cs = (d, some t))
    (later : readMembers fuel depth false t = (ms, ending, rest)) :
    readMember (fuel + 1) depth (stringText k ++ ':' :: cs) = ((k, d) :: ms, ending, rest) := by
  have body : stringText k ++ ':' :: cs =
      '"' :: (k.toList.flatMap escapeChar ++ '"' :: ':' :: cs) := by
    simp [stringText]
  have colon : skipSpace (':' :: cs) = ':' :: cs := skipSpace_cons (by decide) cs
  simp only [readMember, body, readString_body, String.ofList_toList, colon, first, later]

end Steps

section Texts

variable {l : Layout} {fuel depth : Nat} {g x : List Char} {j : Json} {d : Document}
  {ds : List Document} {ms : List (String × Document)} {rest : Option (List Char)}
  {ending : Ending}

theorem skipSpace_text (spaces : ∀ c ∈ g, isSpace c = true) :
    skipSpace (g ++ (l.text depth j ++ x)) = l.text depth j ++ x := by
  obtain ⟨c, t, front, mark⟩ := text_begins l depth j
  rw [skipSpace_append spaces, front, List.cons_append, skipSpace_mark mark]

theorem skipSpace_close {c : Char} (mark : isSpace c = false)
    (spaces : ∀ c ∈ g, isSpace c = true) : skipSpace (g ++ c :: x) = c :: x := by
  rw [skipSpace_append spaces, skipSpace_cons mark]

theorem stops_blank {c : Char} (stop : isStop c = true) (spaces : ∀ c ∈ g, isSpace c = true) :
    Stops (g ++ c :: x) := by
  cases g with
  | nil => exact stops_cons stop x
  | cons b g => exact stops_cons (isStop_of_isSpace (spaces b List.mem_cons_self)) _

theorem stops_items {c : Char} (stop : isStop c = true) (spaces : ∀ c ∈ g, isSpace c = true)
    (items : List Json) : Stops (l.items depth items ++ (g ++ c :: x)) := by
  cases items with
  | nil => exact stops_blank stop spaces
  | cons j rest => exact stops_cons (by decide) _

theorem stops_members {c : Char} (stop : isStop c = true) (spaces : ∀ c ∈ g, isSpace c = true)
    (members : List (String × Json)) : Stops (l.members depth members ++ (g ++ c :: x)) := by
  cases members with
  | nil => exact stops_blank stop spaces
  | cons e rest => exact stops_cons (by decide) _

/-- An item is read before those behind it, as the first one and after a comma. -/
theorem readItems_text (spaces : ∀ c ∈ g, isSpace c = true)
    (value : ∀ cs, skipSpace cs = l.text depth j ++ x → readValue fuel depth cs = (d, some x))
    (later : readItems fuel depth false x = (ds, ending, rest)) :
    readItems (fuel + 2) depth true (g ++ (l.text depth j ++ x)) = (d :: ds, ending, rest) ∧
      readItems (fuel + 2) depth false (',' :: (g ++ (l.text depth j ++ x))) =
        (d :: ds, ending, rest) := by
  obtain ⟨c, t, front, mark⟩ := text_begins l depth j
  have shown : skipSpace (g ++ (l.text depth j ++ x)) = c :: (t ++ x) := by
    rw [skipSpace_text spaces, front, List.cons_append]
  have first : readValue fuel depth (c :: (t ++ x)) = (d, some x) := by
    refine value _ ?_
    rw [skipSpace_mark mark, front, List.cons_append]
  rw [readItems_first shown mark, readItems_next shown mark]
  exact ⟨readItem_eq first later, readItem_eq first later⟩

theorem readMembers_text (spaces : ∀ c ∈ g, isSpace c = true) (k : String)
    (value : ∀ cs, skipSpace cs = l.text depth j ++ x → readValue fuel depth cs = (d, some x))
    (later : readMembers fuel depth false x = (ms, ending, rest)) :
    readMembers (fuel + 2) depth true
        (g ++ (stringText k ++ ':' :: (l.colon ++ (l.text depth j ++ x)))) =
        ((k, d) :: ms, ending, rest) ∧
      readMembers (fuel + 2) depth false
        (',' :: (g ++ (stringText k ++ ':' :: (l.colon ++ (l.text depth j ++ x))))) =
        ((k, d) :: ms, ending, rest) := by
  have first := value (l.colon ++ (l.text depth j ++ x)) (skipSpace_text l.colon_spaces)
  have shown := skipSpace_close (x := k.toList.flatMap escapeChar ++ ['"'] ++
    ':' :: (l.colon ++ (l.text depth j ++ x))) (by decide : isSpace '"' = false) spaces
  constructor
  · exact (readMembers_first shown).trans (readMember_eq first later)
  · exact readMembers_next.trans ((congrArg _ shown).trans (readMember_eq first later))

mutual

/-- A value is read up to what stands behind it. -/
theorem readValue_text : ∀ (j : Json) {levels depth fuel : Nat} {cs x : List Char},
    Readable levels j → depth + levels ≤ maxDepth → Stops x → 4 * (l.text depth j).length ≤ fuel →
    skipSpace cs = l.text depth j ++ x → readValue fuel depth cs = (.ofJson j, some x)
  | j, levels, depth, 0, cs, x, _, _, _, enough, _ => by
    obtain ⟨c, t, front, -⟩ := text_begins l depth j
    simp [front] at enough
  | .null, _, depth, fuel + 1, _, x, _, _, _, _, shown => by
    rw [readValue, shown]
    rfl
  | .bool true, _, _, fuel + 1, _, _, _, _, _, _, shown => by
    rw [readValue, shown]
    rfl
  | .bool false, _, _, fuel + 1, _, _, _, _, _, _, shown => by
    rw [readValue, shown]
    rfl
  | .num n, _, _, fuel + 1, _, _, word, _, stops, _, shown => by
    rw [Layout.text] at shown
    exact readValue_num shown word stops
  | .str s, _, _, fuel + 1, _, _, _, _, _, _, shown => by
    rw [Layout.text] at shown
    exact readValue_str shown
  | .arr [], _, depth, fuel + 1, _, x, readable, deep, _, enough, shown => by
    obtain ⟨f, rfl⟩ : ∃ f, fuel = f + 1 := ⟨fuel - 1, by simp [Layout.text] at enough; omega⟩
    have levels := readable.1
    rw [Layout.text] at shown
    exact readValue_arr shown (by omega) (readItems_closed rfl true)
  | .arr (j :: rest), _, depth, fuel + 1, _, x, readable, deep, _, enough, shown => by
    obtain ⟨levels, readable, others⟩ := readable
    simp only [Layout.text, List.length_cons, List.length_append, List.length_nil] at enough
    simp only [Layout.text, List.cons_append, List.append_assoc, List.nil_append] at shown
    obtain ⟨f, rfl⟩ : ∃ f, fuel = f + 2 := ⟨fuel - 2, by omega⟩
    have later : readItems f (depth + 1) false
        (l.items (depth + 1) rest ++ (l.gap depth ++ ']' :: x)) = (ofItems rest, .closed, some x) :=
      readItems_items rest others (by omega) (l.gap_spaces depth) (by omega)
    have read := (readItems_text (l.gap_spaces (depth + 1)) (fun cs shown =>
      readValue_text j readable (by omega) (stops_items (by decide) (l.gap_spaces depth) rest)
        (by omega) shown) later).1
    exact readValue_arr shown (by omega) read
  | .obj [], _, depth, fuel + 1, _, x, readable, deep, _, enough, shown => by
    obtain ⟨f, rfl⟩ : ∃ f, fuel = f + 1 := ⟨fuel - 1, by simp [Layout.text] at enough; omega⟩
    have levels := readable.1
    rw [Layout.text] at shown
    exact readValue_obj shown (by omega) (readMembers_closed rfl true)
  | .obj ((k, j) :: rest), _, depth, fuel + 1, _, x, readable, deep, _, enough, shown => by
    obtain ⟨levels, readable, others⟩ := readable
    simp only [Layout.text, List.length_cons, List.length_append, List.length_nil] at enough
    simp only [Layout.text, List.cons_append, List.append_assoc, List.nil_append] at shown
    obtain ⟨f, rfl⟩ : ∃ f, fuel = f + 2 := ⟨fuel - 2, by omega⟩
    have later : readMembers f (depth + 1) false
        (l.members (depth + 1) rest ++ (l.gap depth ++ '\x7d' :: x)) =
        (ofMembers rest, .closed, some x) :=
      readMembers_members rest others (by omega) (l.gap_spaces depth) (by omega)
    have read := (readMembers_text (l.gap_spaces (depth + 1)) k (fun cs shown =>
      readValue_text j readable (by omega) (stops_members (by decide) (l.gap_spaces depth) rest)
        (by omega) shown) later).1
    exact readValue_obj shown (by omega) read

theorem readItems_items : ∀ (items : List Json) {levels depth fuel : Nat} {g x : List Char},
    ItemsReadable levels items → depth + levels ≤ maxDepth → (∀ c ∈ g, isSpace c = true) →
    4 * (l.items depth items).length < fuel →
    readItems fuel depth false (l.items depth items ++ (g ++ ']' :: x)) =
      (ofItems items, .closed, some x)
  | _, _, _, 0, _, _, _, _, _, enough => by cases enough
  | [], _, _, fuel + 1, _, _, _, _, spaces, enough =>
    readItems_closed (skipSpace_close (by decide) spaces) false
  | j :: rest, _, depth, fuel + 1, g, x, readable, deep, spaces, enough => by
    obtain ⟨readable, others⟩ := readable
    simp only [Layout.items, List.length_cons, List.length_append] at enough
    obtain ⟨f, rfl⟩ : ∃ f, fuel = f + 1 := ⟨fuel - 1, by omega⟩
    have later : readItems f depth false (l.items depth rest ++ (g ++ ']' :: x)) =
        (ofItems rest, .closed, some x) :=
      readItems_items rest others deep spaces (by omega)
    have read := (readItems_text (l.gap_spaces depth) (fun cs shown =>
      readValue_text j readable deep (stops_items (by decide) spaces rest) (by omega) shown)
        later).2
    simp only [Layout.items, List.cons_append, List.append_assoc]
    exact read

theorem readMembers_members : ∀ (members : List (String × Json)) {levels depth fuel : Nat}
    {g x : List Char}, MembersReadable levels members → depth + levels ≤ maxDepth →
    (∀ c ∈ g, isSpace c = true) → 4 * (l.members depth members).length < fuel →
    readMembers fuel depth false (l.members depth members ++ (g ++ '\x7d' :: x)) =
      (ofMembers members, .closed, some x)
  | _, _, _, 0, _, _, _, _, _, enough => by cases enough
  | [], _, _, fuel + 1, _, _, _, _, spaces, enough =>
    readMembers_closed (skipSpace_close (by decide) spaces) false
  | (k, j) :: rest, _, depth, fuel + 1, g, x, readable, deep, spaces, enough => by
    obtain ⟨readable, others⟩ := readable
    simp only [Layout.members, List.length_cons, List.length_append] at enough
    obtain ⟨f, rfl⟩ : ∃ f, fuel = f + 1 := ⟨fuel - 1, by omega⟩
    have later : readMembers f depth false (l.members depth rest ++ (g ++ '\x7d' :: x)) =
        (ofMembers rest, .closed, some x) :=
      readMembers_members rest others deep spaces (by omega)
    have read := (readMembers_text (l.gap_spaces depth) k (fun cs shown =>
      readValue_text j readable deep (stops_members (by decide) spaces rest) (by omega) shown)
        later).2
    simp only [Layout.members, List.cons_append, List.append_assoc]
    exact read

end

end Texts

theorem read_text (l : Layout) {j : Json} (readable : Readable maxDepth j) :
    Text.read (String.ofList (l.text 0 j)) = ⟨.ofJson j, true⟩ := by
  have stops : Stops [] := by
    intro c head
    cases head
  have shown : skipSpace (l.text 0 j) = l.text 0 j ++ [] := by
    have whole : skipSpace ([] ++ (l.text 0 j ++ [])) = l.text 0 j ++ [] :=
      skipSpace_text (List.forall_mem_nil _)
    rw [List.append_nil] at whole ⊢
    exact whole
  have read : readValue (4 * (l.text 0 j).length + 4) 0 (l.text 0 j) = (.ofJson j, some []) :=
    readValue_text j readable (by omega) stops (by omega) shown
  unfold Text.read
  rw [String.toList_ofList]
  dsimp only
  rw [read]
  rfl

section Decoding

variable {α : Type} {r : Reader α} {j : Json} {a : α}

theorem decodeText_text (l : Layout) (readable : Readable maxDepth j) (value : decode r j = .ok a) :
    decodeText r (String.ofList (l.text 0 j)) = .ok a := by
  have read : r (.ofJson j) = .ok a := value
  unfold decodeText
  rw [read_text l readable]
  dsimp only
  rw [read]
  rfl

theorem decodeText_compact (readable : Readable maxDepth j) (value : decode r j = .ok a) :
    decodeText r j.compact = .ok a := by
  rw [compact, ← Layout.compact_text 0 j]
  exact decodeText_text .compact readable value

end Decoding

end MachineFleet.Json
