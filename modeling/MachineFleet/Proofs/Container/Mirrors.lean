import MachineFleet.Container.Mirror
import MachineFleet.Proofs.Dict
import MachineFleet.Proofs.Outcome
import MachineFleet.Proofs.Text.Blank
import MachineFleet.Proofs.Text.Lines

/-!
How mirrors accumulate. An option is read entry by entry, so that two options joined by a comma give
the mirrors of the first and behind them, registry by registry, those of the second.
-/

namespace MachineFleet.Mirrors

/-- The pieces of an option between its commas, without the blanks around them. -/
def pieces (input : String) : List String := (Text.split ',' input).map Text.trim

theorem tokens_eq (input : String) :
    tokens input = ((pieces input).filter (· ≠ "")).map String.toList := by
  have trimmed : (Text.splitOn ',' input.toList).map Text.trimChars =
      (pieces input).map String.toList := by
    simp [pieces, Text.split, Text.trim, Function.comp_def]
  rw [tokens, trimmed, List.filter_map]
  refine congrArg _ (List.filter_congr fun t _ => Bool.eq_iff_iff.mpr ?_)
  simp

theorem tokens_append (a b : String) : tokens (a ++ "," ++ b) = tokens a ++ tokens b := by
  have chars : (a ++ "," ++ b).toList = a.toList ++ ',' :: b.toList := by
    simp [String.toList_append]
  rw [tokens, chars, Text.splitOn_append_sep, List.map_append, List.filter_append]
  rfl

theorem comma_not_mem_blank {w : List Char} (blank : ∀ c ∈ w, Text.isBlank c = true) : ',' ∉ w :=
  fun member => absurd (blank ',' member) (by decide)

theorem trimmed_blank_append {w : List Char} (blank : ∀ c ∈ w, Text.isBlank c = true)
    (cs : List Char) : (Text.splitOn ',' (w ++ cs)).map Text.trimChars =
      (Text.splitOn ',' cs).map Text.trimChars := by
  obtain ⟨l, ls, pieces⟩ := Text.exists_splitOn ',' cs
  rw [Text.splitOn_append (comma_not_mem_blank blank) pieces, pieces, List.map_cons,
    Text.trimChars_blank_append blank, List.map_cons]

theorem trimmed_append_blank {w : List Char} (blank : ∀ c ∈ w, Text.isBlank c = true)
    (cs : List Char) : (Text.splitOn ',' (cs ++ w)).map Text.trimChars =
      (Text.splitOn ',' cs).map Text.trimChars := by
  -- only the last piece has the blanks behind it
  have last : ∀ v : List Char, ',' ∉ v →
      (Text.splitOn ',' (v ++ w)).map Text.trimChars = [Text.trimChars v] := by
    intro v free
    rw [Text.splitOn_of_not_mem (by simp [free, comma_not_mem_blank blank]), List.map_singleton,
      Text.trimChars_append_blank blank]
  rcases Text.last_line ',' cs with free | ⟨u, v, rfl, free⟩
  · rw [last cs free, Text.splitOn_of_not_mem free, List.map_singleton]
  · rw [List.append_assoc, List.cons_append, Text.splitOn_append_sep, Text.splitOn_append_sep,
      List.map_append, last v free, Text.splitOn_of_not_mem free, List.map_append,
      List.map_singleton]

theorem tokens_blank_append {w : String} (blank : Text.isAllBlank w = true) (a : String) :
    tokens (w ++ a) = tokens a := by
  rw [tokens, String.toList_append, trimmed_blank_append (List.all_eq_true.mp blank)]
  rfl

theorem tokens_append_blank {w : String} (blank : Text.isAllBlank w = true) (a : String) :
    tokens (a ++ w) = tokens a := by
  rw [tokens, String.toList_append, trimmed_append_blank (List.all_eq_true.mp blank)]
  rfl

theorem tokens_blank {w : String} (blank : Text.isAllBlank w = true) : tokens w = [] := by
  have whole := tokens_blank_append blank ""
  rwa [String.append_empty] at whole

def addAll (m : Mirrors) (es : List (String × String)) : Mirrors :=
  es.foldl (fun m e => m.add e.1 e.2) m

/-- The mirrors of a registry among some entries, in their order. -/
def listed (es : List (String × String)) (registry : String) : Option (List String) :=
  match (es.filter (·.1 == registry)).map (·.2) with
  | [] => none
  | us => some us

theorem addTokens_eq (m : Mirrors) (ts : List (List Char)) :
    addTokens m ts = (ts.mapM entry).map m.addAll := by
  induction ts generalizing m with
  | nil => rfl
  | cons t rest ih =>
    rw [addTokens, List.mapM_cons]
    cases entry t with
    | error e => rfl
    | ok e =>
      simp only [bind, Except.bind, ih]
      cases rest.mapM entry with
      | error e => rfl
      | ok es => rfl

theorem read_eq (input : String) :
    read input = ((tokens input).mapM entry).map (addAll .empty) :=
  addTokens_eq .empty (tokens input)

theorem get?_add (m : Mirrors) (k u r : String) :
    (m.add k u).get? r = if r = k then some ((m.get? r).getD [] ++ [u]) else m.get? r := by
  rw [add, Dict.get?_insert]
  split
  · rename_i same
    rw [same]
  · rfl

theorem listed_nil (r : String) : listed [] r = none := rfl

theorem listed_cons (e : String × String) (es : List (String × String)) (r : String) :
    listed (e :: es) r = if r = e.1 then some (e.2 :: (listed es r).getD []) else listed es r := by
  unfold listed
  by_cases same : r = e.1
  · rw [if_pos same, List.filter_cons_of_pos (by simp [same]), List.map_cons]
    cases (es.filter (·.1 == r)).map (·.2) <;> rfl
  · rw [if_neg same, List.filter_cons_of_neg (by simpa using Ne.symm same)]

theorem listed_append (es fs : List (String × String)) (r : String) :
    listed (es ++ fs) r = Option.merge (· ++ ·) (listed es r) (listed fs r) := by
  induction es with
  | nil => simp [listed_nil]
  | cons e es ih =>
    rw [List.cons_append, listed_cons, listed_cons, ih]
    split
    · cases listed es r <;> cases listed fs r <;> simp
    · rfl

theorem get?_addAll (m : Mirrors) (es : List (String × String)) (r : String) :
    (m.addAll es).get? r = Option.merge (· ++ ·) (m.get? r) (listed es r) := by
  induction es generalizing m with
  | nil => simp [addAll, listed_nil]
  | cons e es ih =>
    have step : m.addAll (e :: es) = (m.add e.1 e.2).addAll es := rfl
    rw [step, ih, get?_add, listed_cons]
    split
    · cases m.get? r <;> cases listed es r <;> simp
    · rfl

theorem get?_addAll_empty (es : List (String × String)) (r : String) :
    (addAll .empty es).get? r = listed es r := by
  have absent : (Dict.empty : Mirrors).get? r = none := rfl
  rw [get?_addAll, absent, Option.merge_none_left]

theorem eq_addAll_iff {m : Mirrors} {es : List (String × String)} :
    addAll .empty es = m ↔ ∀ r, m.get? r = listed es r := by
  constructor
  · rintro rfl
    exact get?_addAll_empty es
  · intro same
    exact Dict.ext_get? fun r => (get?_addAll_empty es r).trans (same r).symm

theorem read_eq_ok_iff_entries {input : String} {m : Mirrors} :
    read input = .ok m ↔ ∃ es, (tokens input).mapM entry = .ok es ∧
      ∀ r, m.get? r = listed es r := by
  rw [read_eq]
  constructor
  · intro accepted
    obtain ⟨es, entries, same⟩ := ok_of_map accepted
    exact ⟨es, entries, eq_addAll_iff.mp same⟩
  · rintro ⟨es, entries, same⟩
    rw [entries]
    exact congrArg Except.ok (eq_addAll_iff.mpr same)

/-- What is read is told by the pieces with something in them, one by one. -/
theorem read_eq_ok_iff {input : String} {m : Mirrors} :
    read input = .ok m ↔ ∃ es,
      List.Forall₂ (fun t e => entry t.toList = .ok e) ((pieces input).filter (· ≠ "")) es ∧
        ∀ r, m.get? r = listed es r := by
  simp only [read_eq_ok_iff_entries, mapM_eq_ok_iff, tokens_eq, List.forall₂_map_left_iff]

/-- The failure is that of the first piece that is neither empty nor an entry. -/
theorem read_eq_error_iff {input : String} {e : RuntimeError} :
    read input = .error e ↔ ∃ before t after, pieces input = before ++ t :: after ∧ t ≠ "" ∧
      (∀ s ∈ before, s ≠ "" → ∃ x, entry s.toList = .ok x) ∧ entry t.toList = .error e := by
  have filled : ∀ {s : String} {ss : List String}, s ∈ ss.filter (· ≠ "") ↔ s ∈ ss ∧ s ≠ "" := by
    simp
  rw [read_eq, map_eq_error_iff, tokens_eq, List.mapM_map, mapM_eq_error_iff]
  constructor
  · rintro ⟨before, t, after, split, sound, fault⟩
    obtain ⟨front, back, whole, rfl, later⟩ := List.filter_eq_append_iff.mp split
    obtain ⟨skipped, after', rfl, empty, named, -⟩ := List.filter_eq_cons_iff.mp later
    refine ⟨front ++ skipped, t, after', by rw [whole, List.append_assoc], by simpa using named,
      fun s member some => ?_, fault⟩
    rcases List.mem_append.mp member with early | late
    · exact sound s (filled.mpr ⟨early, some⟩)
    · exact absurd some (by simpa using empty s late)
  · rintro ⟨before, t, after, split, named, sound, fault⟩
    refine ⟨before.filter (· ≠ ""), t, after.filter (· ≠ ""), ?_, fun s member => ?_, fault⟩
    · rw [split, List.filter_append, List.filter_cons_of_pos (by simpa using named)]
    · exact sound s (filled.mp member).1 (filled.mp member).2

/-- The mirrors of one more registry, behind those that it has. -/
def extend (m : Mirrors) (e : String × List String) : Mirrors :=
  m.insert e.1 ((m.get? e.1).getD [] ++ e.2)

/-- The mirrors of both, those of the first before those of the second. -/
def merge (m n : Mirrors) : Mirrors := n.entries.foldl extend m

theorem get?_foldl_extend {es : List (String × List String)} (ordered : Dict.Ordered es)
    (m : Mirrors) (r : String) :
    (es.foldl extend m).get? r = Option.merge (· ++ ·) (m.get? r) (es.lookup r) := by
  induction es generalizing m with
  | nil => simp
  | cons e es ih =>
    obtain ⟨first, ordered⟩ := List.pairwise_cons.mp ordered
    rw [List.foldl_cons, ih ordered, extend, Dict.get?_insert]
    by_cases same : r = e.1
    · subst same
      rw [if_pos rfl, Dict.lookup_of_lt first, List.lookup_cons, beq_self_eq_true]
      cases m.get? e.1 <;> simp
    · rw [if_neg same, Dict.lookup_cons_of_ne e.2 es same]

theorem get?_merge (m n : Mirrors) (r : String) :
    (m.merge n).get? r = Option.merge (· ++ ·) (m.get? r) (n.get? r) :=
  get?_foldl_extend n.ordered m r

theorem addAll_append (es fs : List (String × String)) :
    addAll .empty (es ++ fs) = (addAll .empty es).merge (addAll .empty fs) := by
  refine Dict.ext_get? fun r => ?_
  rw [get?_merge, get?_addAll_empty, get?_addAll_empty, get?_addAll_empty, listed_append]

theorem read_append (a b : String) :
    read (a ++ "," ++ b) = do
      let m ← read a
      let n ← read b
      return m.merge n := by
  simp only [read_eq, tokens_append, List.mapM_append]
  cases (tokens a).mapM entry with
  | error e => rfl
  | ok es =>
    cases (tokens b).mapM entry with
    | error e => rfl
    | ok fs => exact congrArg Except.ok (addAll_append es fs)

/-- Two options joined by a comma are read one after the other, and what was read is merged registry
by registry. Blanks add nothing, each registry has the mirrors of just its entries in their order,
and the failure is that of the first bad entry. -/
theorem options_accumulate (a b : String) :
    (read (a ++ "," ++ b) = do
      let m ← read a
      let n ← read b
      return m.merge n) ∧
    (∀ (m n : Mirrors) r, (m.merge n).get? r = Option.merge (· ++ ·) (m.get? r) (n.get? r)) ∧
    (∀ w, Text.isAllBlank w = true → read w = .ok .empty ∧ read (w ++ a) = read a ∧
      read (a ++ w) = read a ∧ read (a ++ "," ++ w ++ "," ++ b) = read (a ++ "," ++ b)) ∧
    (∀ m, read a = .ok m ↔ ∃ es,
      List.Forall₂ (fun t e => entry t.toList = .ok e) ((pieces a).filter (· ≠ "")) es ∧
        ∀ r, m.get? r = listed es r) ∧
    ∀ e, read a = .error e ↔ ∃ before t after, pieces a = before ++ t :: after ∧ t ≠ "" ∧
      (∀ s ∈ before, s ≠ "" → ∃ x, entry s.toList = .ok x) ∧ entry t.toList = .error e := by
  refine ⟨read_append a b, get?_merge, fun w blank => ⟨?_, ?_, ?_, ?_⟩, fun m => read_eq_ok_iff,
    fun e => read_eq_error_iff⟩
  · rw [read, tokens_blank blank]
    rfl
  · rw [read, tokens_blank_append blank, read]
  · rw [read, tokens_append_blank blank, read]
  · rw [read, tokens_append, tokens_append, tokens_blank blank, List.append_nil, ← tokens_append,
      read]

example : (read " ghcr.io = b.example ,, https://a.example/?v=1,\tghcr.io=http://c.example , ").map
    (fun m => (m.get? "ghcr.io", m.get? "docker.io")) =
      .ok (some ["https://b.example", "http://c.example"], some ["https://a.example/?v=1"]) := by
  rfl

end MachineFleet.Mirrors
