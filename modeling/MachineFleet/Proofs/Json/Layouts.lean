import MachineFleet.Proofs.Json.Spelling

/-!
Texts of a document with white space between its parts. The two printers write such texts, one
without any white space and one with a line for every item and member.
-/

namespace MachineFleet.Json

def isSpace (c : Char) : Bool := c == ' ' || c == '\n' || c == '\t' || c == '\r'

/-- The white space in a text. -/
structure Layout where
  /-- What stands before items, members and closing brackets inside so many arrays and objects. -/
  gap : Nat → List Char
  colon : List Char
  gap_spaces : ∀ depth, ∀ c ∈ gap depth, isSpace c = true
  colon_spaces : ∀ c ∈ colon, isSpace c = true

namespace Layout

mutual

def text (l : Layout) (depth : Nat) : Json → List Char
  | .null => "null".toList
  | .bool b => (if b then "true" else "false").toList
  | .num n => n.text
  | .str s => stringText s
  | .arr [] => ['[', ']']
  | .arr (j :: rest) => '[' :: (l.gap (depth + 1) ++ (l.text (depth + 1) j ++
      (l.items (depth + 1) rest ++ (l.gap depth ++ [']']))))
  | .obj [] => ['\x7b', '\x7d']
  | .obj ((k, j) :: rest) => '\x7b' :: (l.gap (depth + 1) ++ (stringText k ++
      (':' :: (l.colon ++ (l.text (depth + 1) j ++
        (l.members (depth + 1) rest ++ (l.gap depth ++ ['\x7d'])))))))

/-- The items of an array behind the first one. -/
def items (l : Layout) (depth : Nat) : List Json → List Char
  | [] => []
  | j :: rest => ',' :: (l.gap depth ++ (l.text depth j ++ l.items depth rest))

def members (l : Layout) (depth : Nat) : List (String × Json) → List Char
  | [] => []
  | (k, j) :: rest => ',' :: (l.gap depth ++ (stringText k ++
      (':' :: (l.colon ++ (l.text depth j ++ l.members depth rest)))))

end

def compact : Layout where
  gap _ := []
  colon := []
  gap_spaces := nofun
  colon_spaces := nofun

mutual

theorem compact_text (depth : Nat) : ∀ j : Json, compact.text depth j = compactText j
  | .null => rfl
  | .bool _ => rfl
  | .num _ => rfl
  | .str _ => rfl
  | .arr [] => rfl
  | .arr (j :: rest) => by
    rw [text, compact_text (depth + 1) j, compact_items (depth + 1) rest, compactText,
      compactItems_cons]
    simp [compact]
  | .obj [] => rfl
  | .obj ((k, j) :: rest) => by
    rw [text, compact_text (depth + 1) j, compact_members (depth + 1) rest, compactText,
      compactMembers_cons]
    simp [compact, memberText]

theorem compact_items (depth : Nat) : ∀ items : List Json,
    compact.items depth items = items.flatMap (',' :: compactText ·)
  | [] => rfl
  | j :: rest => by
    rw [items, compact_text depth j, compact_items depth rest]
    simp [compact]

theorem compact_members (depth : Nat) : ∀ members : List (String × Json),
    compact.members depth members = members.flatMap (',' :: memberText ·)
  | [] => rfl
  | (k, j) :: rest => by
    rw [members, compact_text depth j, compact_members depth rest]
    simp [compact, memberText]

end

def pretty : Layout where
  gap := newline
  colon := [' ']
  gap_spaces depth c member := by
    rcases List.mem_cons.mp member with rfl | member
    · decide
    · rw [List.eq_of_mem_replicate member]
      decide
  colon_spaces := List.all_eq_true.mp (by decide)

theorem prettyItems_cons (depth : Nat) (j : Json) (rest : List Json) :
    prettyItems depth (j :: rest) = newline (depth + 1) ++ prettyText (depth + 1) j ++
      rest.flatMap fun j => ',' :: (newline (depth + 1) ++ prettyText (depth + 1) j) := by
  induction rest generalizing j with
  | nil => simp [prettyItems]
  | cons k rest ih =>
    rw [prettyItems, ih, List.flatMap_cons, List.cons_append]
    exact fun none => List.cons_ne_nil _ _ none

def prettyMember (depth : Nat) (e : String × Json) : List Char :=
  newline depth ++ (stringText e.1 ++ ':' :: ' ' :: prettyText depth e.2)

theorem prettyMembers_cons (depth : Nat) (e : String × Json) (rest : List (String × Json)) :
    prettyMembers depth (e :: rest) = prettyMember (depth + 1) e ++
      rest.flatMap (',' :: prettyMember (depth + 1) ·) := by
  induction rest generalizing e with
  | nil => simp [prettyMembers, prettyMember]
  | cons d rest ih =>
    rw [prettyMembers, ih, List.flatMap_cons, List.cons_append]
    · simp [prettyMember]
    · exact fun none => List.cons_ne_nil _ _ none

mutual

theorem pretty_text (depth : Nat) : ∀ j : Json, pretty.text depth j = prettyText depth j
  | .null => rfl
  | .bool _ => rfl
  | .num _ => rfl
  | .str _ => rfl
  | .arr [] => rfl
  | .arr (j :: rest) => by
    rw [text, pretty_text (depth + 1) j, pretty_items (depth + 1) rest, prettyText,
      prettyItems_cons]
    simp [pretty]
  | .obj [] => rfl
  | .obj ((k, j) :: rest) => by
    rw [text, pretty_text (depth + 1) j, pretty_members (depth + 1) rest, prettyText,
      prettyMembers_cons]
    simp [pretty, prettyMember]

theorem pretty_items (depth : Nat) : ∀ items : List Json, pretty.items depth items =
    items.flatMap fun j => ',' :: (newline depth ++ prettyText depth j)
  | [] => rfl
  | j :: rest => by
    rw [items, pretty_text depth j, pretty_items depth rest]
    simp [pretty]

theorem pretty_members (depth : Nat) : ∀ members : List (String × Json),
    pretty.members depth members = members.flatMap (',' :: prettyMember depth ·)
  | [] => rfl
  | (k, j) :: rest => by
    rw [members, pretty_text depth j, pretty_members depth rest]
    simp [pretty, prettyMember]

end

end Layout

end MachineFleet.Json
