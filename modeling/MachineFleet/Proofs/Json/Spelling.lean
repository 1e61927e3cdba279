import MachineFleet.Json.Document
import MachineFleet.Proofs.Json.Numbers
import Mathlib.Logic.Basic

/-!
The text of a document without white space tells the document, but for floating point numbers with
one text. Each value ends where its text does, whatever comes behind it.
-/

namespace MachineFleet.Json

theorem codeUnit?_escape : ∀ n < 32,
    Document.codeUnit? '0' '0' (Nat.digitChar (n / 16)) (Nat.digitChar (n % 16)) = some n := by
  decide

theorem joinPieces_control {n : Nat} (control : n < 32) (ps : List Document.Piece) :
    Document.joinPieces (.unit n :: ps) = (Document.joinPieces ps).map (Char.ofNat n :: ·) := by
  have high : Document.isHighSurrogate n = false := by simp [Document.isHighSurrogate]; omega
  have low : Document.isLowSurrogate n = false := by simp [Document.isLowSurrogate]; omega
  rcases ps with _ | ⟨_ | _, ps⟩ <;> simp [Document.joinPieces, high, low]

theorem readPieces_named {e c : Char} (other : e ≠ 'u') (stands : Document.escaped? e = some c)
    (rest : List Char) : Document.readPieces ('\\' :: e :: rest) =
      (Document.readPieces rest).map fun r => (.char c :: r.1, r.2) := by
  rw [Document.readPieces, stands]
  intro _ _ _ _ _ same
  exact fun _ => other same

/-- Each character is written as one piece that stands for it. -/
theorem readPieces_escapeChar (c : Char) (rest : List Char) : ∃ p,
    Document.readPieces (escapeChar c ++ rest) =
      (Document.readPieces rest).map (fun r => (p :: r.1, r.2)) ∧
    ∀ ps, Document.joinPieces (p :: ps) = (Document.joinPieces ps).map (c :: ·) := by
  unfold escapeChar
  iterate 7
    split
    · rename_i h
      exact ⟨.char c, readPieces_named (by decide) (by rw [h]; rfl) rest, fun _ => rfl⟩
  split
  · rename_i low
    refine ⟨.unit c.toNat, ?_, fun ps => ?_⟩
    · simp only [List.cons_append, List.nil_append, Document.readPieces, codeUnit?_escape _ low]
    · rw [joinPieces_control low, Char.ofNat_toNat]
  · rename_i quote slash _ _ _ _ _ shown
    refine ⟨.char c, ?_, fun _ => rfl⟩
    rw [List.singleton_append, Document.readPieces, if_neg (by simp [slash, shown])]
    · exact quote
    · exact fun _ _ _ _ _ h _ => slash h
    · exact fun _ _ h _ => slash h

theorem readString_body (cs rest : List Char) :
    Document.readString (cs.flatMap escapeChar ++ '"' :: rest) =
      some (some (String.ofList cs), rest) := by
  have pieces : ∃ ps, Document.readPieces (cs.flatMap escapeChar ++ '"' :: rest) = some (ps, rest) ∧
      Document.joinPieces ps = some cs := by
    induction cs with
    | nil => exact ⟨[], rfl, rfl⟩
    | cons c cs ih =>
      obtain ⟨ps, read, joined⟩ := ih
      obtain ⟨p, first, stands⟩ := readPieces_escapeChar c (cs.flatMap escapeChar ++ '"' :: rest)
      refine ⟨p :: ps, ?_, ?_⟩
      · rw [List.flatMap_cons, List.append_assoc, first, read]
        rfl
      · rw [stands, joined]
        rfl
  obtain ⟨ps, read, joined⟩ := pieces
  rw [Document.readString, read]
  simp [joined]

theorem stringText_append_inj {s t : String} {x y : List Char}
    (same : stringText s ++ x = stringText t ++ y) : s = t ∧ x = y := by
  have whole : ∀ (s : String) (x : List Char), stringText s ++ x =
      '"' :: (s.toList.flatMap escapeChar ++ '"' :: x) := by simp [stringText]
  rw [whole, whole] at same
  have read := congrArg Document.readString (List.cons.inj same).2
  rw [readString_body, readString_body] at read
  simpa using read

def Number.mapFloat (f : Binary64 → Binary64) : Number → Number
  | .int n => .int n
  | .float x => .float (f x)

mutual

/-- The document with every floating point number replaced. -/
def mapFloats (f : Binary64 → Binary64) : Json → Json
  | .num n => .num (n.mapFloat f)
  | .arr items => .arr (mapFloatItems f items)
  | .obj members => .obj (mapFloatMembers f members)
  | j => j

def mapFloatItems (f : Binary64 → Binary64) : List Json → List Json
  | [] => []
  | j :: rest => j.mapFloats f :: mapFloatItems f rest

def mapFloatMembers (f : Binary64 → Binary64) : List (String × Json) → List (String × Json)
  | [] => []
  | (k, j) :: rest => (k, j.mapFloats f) :: mapFloatMembers f rest

end

-- A significand and an exponent can be scaled without a change of the number or its text, so the
-- text tells no more than one number among these.
/-- One number for all that have its text. -/
noncomputable def standIn (x : Binary64) : Binary64 :=
  Classical.epsilon fun y => Decimal.format y = Decimal.format x

theorem format_standIn (x : Binary64) : Decimal.format (standIn x) = Decimal.format x :=
  Classical.epsilon_spec (p := fun y => Decimal.format y = Decimal.format x) ⟨x, rfl⟩

theorem standIn_eq {x y : Binary64} (same : Decimal.format x = Decimal.format y) :
    standIn x = standIn y := by
  unfold standIn
  rw [same]

theorem number_told {n m : Number} (same : n.text = m.text) :
    n.mapFloat standIn = m.mapFloat standIn := by
  cases n with
  | int n =>
    cases m with
    | int m => rw [int_text_inj same]
    | float y => exact absurd same (int_text_ne n y)
  | float x =>
    cases m with
    | int m => exact absurd same.symm (int_text_ne m x)
    | float y => exact congrArg Number.float (standIn_eq same)

/-- A number ends where `x` begins. -/
def Ends (x : List Char) : Prop := x.takeWhile isNumeric = []

theorem ends_cons {c : Char} (mark : isNumeric c = false) (x : List Char) : Ends (c :: x) := by
  simp [Ends, mark]

theorem takeWhile_text (n : Number) {x : List Char} (ends : Ends x) :
    (n.text ++ x).takeWhile isNumeric = n.text := by
  rw [List.takeWhile_append_of_pos (isNumeric_text n), ends, List.append_nil]

/-- What kind of value a document is. -/
inductive Shape where
  | null
  | bool
  | num
  | str
  | arr
  | obj
  deriving DecidableEq

def shape : Json → Shape
  | .null => .null
  | .bool _ => .bool
  | .num _ => .num
  | .str _ => .str
  | .arr _ => .arr
  | .obj _ => .obj

/-- The kind of the values that begin with a character. -/
def Shape.of? (c : Char) : Option Shape :=
  if c = 'n' then some .null
  else if c = 't' ∨ c = 'f' then some .bool
  else if isNumeric c then some .num
  else if c = '"' then some .str
  else if c = '[' then some .arr
  else if c = '\x7b' then some .obj
  else none

theorem Shape.of?_numeric {c : Char} (numeric : isNumeric c = true) : Shape.of? c = some .num := by
  have letters : c ≠ 'n' ∧ c ≠ 't' ∧ c ≠ 'f' := by
    refine ⟨?_, ?_, ?_⟩ <;> (rintro rfl; exact absurd numeric (by decide))
  simp [Shape.of?, numeric, letters]

theorem head?_compactText (j : Json) :
    ∃ c t, compactText j = c :: t ∧ Shape.of? c = some j.shape := by
  cases j with
  | null => exact ⟨'n', _, rfl, by decide⟩
  | bool b => cases b with
    | true => exact ⟨'t', _, rfl, by decide⟩
    | false => exact ⟨'f', _, rfl, by decide⟩
  | num n =>
    obtain ⟨c, t, text⟩ := List.exists_cons_of_ne_nil (text_ne_nil n)
    exact ⟨c, t, text, Shape.of?_numeric (isNumeric_text n c (by simp [text]))⟩
  | str s => exact ⟨'"', _, rfl, (by decide : Shape.of? '"' = some .str)⟩
  | arr items => exact ⟨'[', _, rfl, (by decide : Shape.of? '[' = some .arr)⟩
  | obj members => exact ⟨'\x7b', _, rfl, (by decide : Shape.of? '\x7b' = some .obj)⟩

theorem shape_eq {a b : Json} {x y : List Char} (same : compactText a ++ x = compactText b ++ y) :
    a.shape = b.shape := by
  obtain ⟨c, t, first, shown⟩ := head?_compactText a
  obtain ⟨d, u, second, shown'⟩ := head?_compactText b
  rw [first, second] at same
  obtain rfl : c = d := (List.cons.inj same).1
  exact Option.some.inj (shown.symm.trans shown')

theorem compactText_append_ne {c : Char} (closing : Shape.of? c = none) (j : Json)
    (x y : List Char) : compactText j ++ x ≠ c :: y := by
  obtain ⟨d, t, first, shown⟩ := head?_compactText j
  intro same
  rw [first, List.cons_append] at same
  rw [(List.cons.inj same).1, closing] at shown
  cases shown

def memberText (e : String × Json) : List Char := stringText e.1 ++ ':' :: compactText e.2

theorem compactItems_cons (j : Json) (rest : List Json) :
    compactItems (j :: rest) = compactText j ++ rest.flatMap (',' :: compactText ·) := by
  induction rest generalizing j with
  | nil => simp [compactItems]
  | cons k rest ih =>
    rw [compactItems, ih, List.flatMap_cons, List.cons_append]
    exact fun none => List.cons_ne_nil _ _ none

theorem compactMembers_cons (e : String × Json) (rest : List (String × Json)) :
    compactMembers (e :: rest) = memberText e ++ rest.flatMap (',' :: memberText ·) := by
  induction rest generalizing e with
  | nil => simp [compactMembers, memberText]
  | cons d rest ih =>
    rw [compactMembers, ih, List.flatMap_cons, List.cons_append]
    · rfl
    · exact fun none => List.cons_ne_nil _ _ none

theorem ends_separated {α : Type} (text : α → List Char) (xs : List α) {c : Char}
    (mark : isNumeric c = false) (x : List Char) :
    Ends (xs.flatMap (',' :: text ·) ++ c :: x) := by
  cases xs with
  | nil => exact ends_cons mark x
  | cons a rest => exact ends_cons (by decide) _

/-- Whether an array has items at all is seen from its first character. -/
theorem items_separated {as bs : List Json} {x y : List Char}
    (same : compactItems as ++ ']' :: x = compactItems bs ++ ']' :: y) :
    as.flatMap (',' :: compactText ·) ++ ']' :: x =
      bs.flatMap (',' :: compactText ·) ++ ']' :: y := by
  cases as with
  | nil => cases bs with
    | nil => exact same
    | cons b bs =>
      rw [compactItems_cons, List.append_assoc] at same
      exact absurd same.symm (compactText_append_ne (by decide) b _ _)
  | cons a as => cases bs with
    | nil =>
      rw [compactItems_cons, List.append_assoc] at same
      exact absurd same (compactText_append_ne (by decide) a _ _)
    | cons b bs =>
      rw [compactItems_cons, compactItems_cons] at same
      exact congrArg (',' :: ·) same

theorem members_separated {as bs : List (String × Json)} {x y : List Char}
    (same : compactMembers as ++ '\x7d' :: x = compactMembers bs ++ '\x7d' :: y) :
    as.flatMap (',' :: memberText ·) ++ '\x7d' :: x =
      bs.flatMap (',' :: memberText ·) ++ '\x7d' :: y := by
  have opened : ∀ (e : String × Json) (x y : List Char), memberText e ++ x ≠ '\x7d' :: y :=
    fun e x y same => absurd (List.cons.inj same).1 (by decide)
  cases as with
  | nil => cases bs with
    | nil => exact same
    | cons b bs =>
      rw [compactMembers_cons, List.append_assoc] at same
      exact absurd same.symm (opened b _ _)
  | cons a as => cases bs with
    | nil =>
      rw [compactMembers_cons, List.append_assoc] at same
      exact absurd same (opened a _ _)
    | cons b bs =>
      rw [compactMembers_cons, compactMembers_cons] at same
      exact congrArg (',' :: ·) same

mutual

/-- Two values with one text, whatever comes behind them, agree up to floating point numbers. -/
theorem text_tells : ∀ (a b : Json) {x y : List Char}, Ends x → Ends y →
    compactText a ++ x = compactText b ++ y →
    a.mapFloats standIn = b.mapFloats standIn ∧ x = y
  | a, b, x, y, endsX, endsY, same => by
    have shapes := shape_eq same
    match a, b, shapes with
    | .null, .null, _ => exact ⟨rfl, List.append_cancel_left same⟩
    | .bool b, .bool c, _ =>
      cases b <;> cases c
      · exact ⟨rfl, List.append_cancel_left same⟩
      · cases same
      · cases same
      · exact ⟨rfl, List.append_cancel_left same⟩
    | .num n, .num m, _ =>
      have texts : n.text = m.text := by
        rw [← takeWhile_text n endsX, ← takeWhile_text m endsY]
        exact congrArg _ same
      rw [compactText, compactText, ← texts] at same
      exact ⟨congrArg Json.num (number_told texts), List.append_cancel_left same⟩
    | .str s, .str t, _ =>
      obtain ⟨rfl, behind⟩ := stringText_append_inj same
      exact ⟨rfl, behind⟩
    | .arr items, .arr items', _ =>
      simp only [compactText, List.cons_append, List.append_assoc, List.cons.injEq, true_and,
        List.nil_append] at same
      obtain ⟨mapped, behind⟩ := items_tell items items' (items_separated same)
      exact ⟨congrArg Json.arr mapped, behind⟩
    | .obj members, .obj members', _ =>
      simp only [compactText, List.cons_append, List.append_assoc, List.cons.injEq, true_and,
        List.nil_append] at same
      obtain ⟨mapped, behind⟩ := members_tell members members' (members_separated same)
      exact ⟨congrArg Json.obj mapped, behind⟩

theorem items_tell : ∀ (as bs : List Json) {x y : List Char},
    as.flatMap (',' :: compactText ·) ++ ']' :: x = bs.flatMap (',' :: compactText ·) ++ ']' :: y →
    mapFloatItems standIn as = mapFloatItems standIn bs ∧ x = y
  | [], [], _, _, same => ⟨rfl, (List.cons.inj same).2⟩
  | [], _ :: _, _, _, same => absurd (List.cons.inj same).1 (by decide)
  | _ :: _, [], _, _, same => absurd (List.cons.inj same).1 (by decide)
  | a :: as, b :: bs, x, y, same => by
    simp only [List.flatMap_cons, List.cons_append, List.append_assoc, List.cons.injEq,
      true_and] at same
    obtain ⟨first, later⟩ := text_tells a b (ends_separated _ as (by decide) x)
      (ends_separated _ bs (by decide) y) same
    obtain ⟨rest, behind⟩ := items_tell as bs later
    exact ⟨by rw [mapFloatItems, mapFloatItems, first, rest], behind⟩

theorem members_tell : ∀ (as bs : List (String × Json)) {x y : List Char},
    as.flatMap (',' :: memberText ·) ++ '\x7d' :: x =
      bs.flatMap (',' :: memberText ·) ++ '\x7d' :: y →
    mapFloatMembers standIn as = mapFloatMembers standIn bs ∧ x = y
  | [], [], _, _, same => ⟨rfl, (List.cons.inj same).2⟩
  | [], _ :: _, _, _, same => absurd (List.cons.inj same).1 (by decide)
  | _ :: _, [], _, _, same => absurd (List.cons.inj same).1 (by decide)
  | (k, a) :: as, (l, b) :: bs, x, y, same => by
    simp only [List.flatMap_cons, memberText, List.cons_append, List.append_assoc,
      List.cons.injEq, true_and] at same
    obtain ⟨rfl, value⟩ := stringText_append_inj same
    obtain ⟨first, later⟩ := text_tells a b (ends_separated memberText as (by decide) x)
      (ends_separated memberText bs (by decide) y) (List.cons.inj value).2
    obtain ⟨rest, behind⟩ := members_tell as bs later
    exact ⟨by rw [mapFloatMembers, mapFloatMembers, first, rest], behind⟩

end

/-- The text without white space tells the document up to floating point numbers with one text. -/
theorem compact_tells {a b : Json} (same : a.compact = b.compact) :
    a.mapFloats standIn = b.mapFloats standIn := by
  have texts : compactText a = compactText b := String.ofList_injective same
  have ends : Ends [] := rfl
  exact (text_tells a b ends ends (congrArg (· ++ []) texts)).1

end MachineFleet.Json
