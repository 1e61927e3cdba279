import MachineFleet.Proofs.Json.Sorting
import MachineFleet.Proofs.Json.Spelling

/-!
Documents that say the same, whatever the order of their members. What a sorted document is but for
the choice of its floating point numbers tells such documents from all others, and so does its text.
-/

namespace MachineFleet.Json

/-- Both documents say the same: numbers are compared by their texts, arrays item by item, and
objects by the value of each name, which is that of its last member. -/
inductive Same : Json → Json → Prop
  | null : Same .null .null
  | bool (b : Bool) : Same (.bool b) (.bool b)
  | num {n m : Number} (text : n.text = m.text) : Same (.num n) (.num m)
  | str (s : String) : Same (.str s) (.str s)
  | arr {items items' : List Json} (length : items.length = items'.length)
      (each : ∀ (i : Nat) (j j' : Json), items[i]? = some j → items'[i]? = some j' → Same j j') :
      Same (.arr items) (.arr items')
  | obj {members members' : List (String × Json)}
      (names : ∀ k, (member? k (.obj members)).isSome = (member? k (.obj members')).isSome)
      (each : ∀ k j j', member? k (.obj members) = some j → member? k (.obj members') = some j' →
        Same j j') :
      Same (.obj members) (.obj members')

theorem mapFloatItems_eq (f : Binary64 → Binary64) (items : List Json) :
    mapFloatItems f items = items.map (mapFloats f) := by
  induction items with
  | nil => rfl
  | cons j rest ih => rw [mapFloatItems, ih, List.map_cons]

theorem mapFloatMembers_eq (f : Binary64 → Binary64) (members : List (String × Json)) :
    mapFloatMembers f members = members.map fun e => (e.1, e.2.mapFloats f) := by
  induction members with
  | nil => rfl
  | cons e rest ih => rw [mapFloatMembers, ih, List.map_cons]

section Texts

variable {f : Binary64 → Binary64}

theorem text_mapFloat (texts : ∀ x, Decimal.format (f x) = Decimal.format x) (n : Number) :
    (n.mapFloat f).text = n.text := by
  cases n with
  | int n => rfl
  | float x => exact texts x

mutual

theorem compactText_mapFloats (texts : ∀ x, Decimal.format (f x) = Decimal.format x) :
    ∀ j : Json, compactText (j.mapFloats f) = compactText j
  | .null => rfl
  | .bool _ => rfl
  | .num n => text_mapFloat texts n
  | .str _ => rfl
  | .arr [] => rfl
  | .arr (j :: rest) => by
    rw [mapFloats, mapFloatItems, compactText, compactText, compactItems_cons, compactItems_cons,
      compactText_mapFloats texts j, laterItems_mapFloats texts rest]
  | .obj [] => rfl
  | .obj (e :: rest) => by
    rw [mapFloats, mapFloatMembers, compactText, compactText, compactMembers_cons,
      compactMembers_cons, memberText, memberText, compactText_mapFloats texts e.2,
      laterMembers_mapFloats texts rest]

theorem laterItems_mapFloats (texts : ∀ x, Decimal.format (f x) = Decimal.format x) :
    ∀ items : List Json,
    (mapFloatItems f items).flatMap (',' :: compactText ·) = items.flatMap (',' :: compactText ·)
  | [] => rfl
  | j :: rest => by
    rw [mapFloatItems, List.flatMap_cons, List.flatMap_cons, compactText_mapFloats texts j,
      laterItems_mapFloats texts rest]

theorem laterMembers_mapFloats (texts : ∀ x, Decimal.format (f x) = Decimal.format x) :
    ∀ members : List (String × Json),
    (mapFloatMembers f members).flatMap (',' :: memberText ·) =
      members.flatMap (',' :: memberText ·)
  | [] => rfl
  | e :: rest => by
    rw [mapFloatMembers, List.flatMap_cons, List.flatMap_cons, memberText, memberText,
      compactText_mapFloats texts e.2, laterMembers_mapFloats texts rest]

end

end Texts

/-- The document in key order, with one floating point number for all that have one text. -/
noncomputable def told (j : Json) : Json := j.sorted.mapFloats standIn

theorem compact_sorted_eq_iff {a b : Json} :
    a.sorted.compact = b.sorted.compact ↔ told a = told b := by
  constructor
  · exact compact_tells
  · intro same
    have shown := fun j : Json => compactText_mapFloats format_standIn j.sorted
    exact congrArg String.ofList
      ((shown a).symm.trans ((congrArg compactText same).trans (shown b)))

theorem told_arr (items : List Json) : told (.arr items) = .arr (items.map told) := by
  rw [told, sorted, mapFloats, sortedItems_eq, mapFloatItems_eq, List.map_map]
  rfl

/-- The members in key order, as a dictionary. -/
noncomputable def toldMembers (members : List (String × Json)) : Dict Json :=
  (Dict.mk (sortedMembers members [])
    (membersInOrder_sorted members [] List.Pairwise.nil trivial).1).mapValues (mapFloats standIn)

theorem told_obj (members : List (String × Json)) :
    told (.obj members) = .obj (toldMembers members).entries := by
  rw [told, sorted, mapFloats, mapFloatMembers_eq]
  rfl

theorem get?_toldMembers (members : List (String × Json)) (k : String) :
    (toldMembers members).get? k = (member? k (.obj members)).map told := by
  rw [toldMembers, Dict.get?_mapValues, Dict.get?, lookup_sortedMembers, List.lookup_nil,
    Option.or_none, Option.map_map]
  rfl

theorem told_obj_eq_iff {members members' : List (String × Json)} :
    told (.obj members) = told (.obj members') ↔
      ∀ k, (member? k (.obj members)).map told = (member? k (.obj members')).map told := by
  simp only [told_obj, Json.obj.injEq, ← get?_toldMembers]
  exact ⟨fun same k => congrArg (List.lookup k) same, fun same => congrArg _ (Dict.ext_get? same)⟩

theorem told_of_same {a b : Json} (same : Same a b) : told a = told b := by
  induction same with
  | null => rfl
  | bool => rfl
  | num text => exact congrArg Json.num (number_told text)
  | str => rfl
  | @arr items items' length each ih =>
    rw [told_arr, told_arr]
    refine congrArg Json.arr (List.ext_getElem (by simpa using length) fun i first second => ?_)
    rw [List.getElem_map, List.getElem_map]
    rw [List.length_map] at first second
    exact ih i _ _ (List.getElem?_eq_getElem first) (List.getElem?_eq_getElem second)
  | @obj members members' names each ih =>
    refine told_obj_eq_iff.mpr fun k => ?_
    have known := names k
    cases first : member? k (.obj members) with
    | none =>
      rw [first, Option.isSome_none, eq_comm, Option.isSome_eq_false_iff,
        Option.isNone_iff_eq_none] at known
      rw [known]
    | some j =>
      rw [first, Option.isSome_some, eq_comm, Option.isSome_iff_exists] at known
      obtain ⟨j', second⟩ := known
      rw [second]
      exact congrArg some (ih k j j' first second)

theorem mem_of_member? {members : List (String × Json)} {k : String} {j : Json}
    (found : member? k (.obj members) = some j) : (k, j) ∈ members :=
  List.mem_reverse.mp (Dict.mem_of_lookup found)

-- By the size of the first document: its members are found by name here, so they are not parts of
-- it that a structural recursion would see.
theorem same_of_told : ∀ (a b : Json), told a = told b → Same a b
  | .null, b, same => by
    cases b with
    | null => exact .null
    | _ => cases same
  | .bool x, b, same => by
    cases b with
    | bool y =>
      cases same
      exact .bool x
    | _ => cases same
  | .num n, b, same => by
    cases b with
    | num m =>
      have text := congrArg Number.text (Json.num.inj same)
      rw [text_mapFloat format_standIn, text_mapFloat format_standIn] at text
      exact .num text
    | _ => cases same
  | .str s, b, same => by
    cases b with
    | str t =>
      cases same
      exact .str s
    | _ => cases same
  | .arr items, b, same => by
    cases b with
    | arr items' =>
      rw [told_arr, told_arr] at same
      have lists := Json.arr.inj same
      refine .arr (by simpa using congrArg List.length lists) fun i j j' first second => ?_
      have member := List.mem_of_getElem? first
      have values := congrArg (·[i]?) lists
      simp only [List.getElem?_map, first, second, Option.map_some, Option.some.injEq] at values
      exact same_of_told j j' values
    | _ => cases same
  | .obj members, b, same => by
    cases b with
    | obj members' =>
      have values := told_obj_eq_iff.mp same
      refine .obj (fun k => ?_) fun k j j' first second => ?_
      · simpa using congrArg Option.isSome (values k)
      · have member := mem_of_member? first
        have value := values k
        rw [first, second] at value
        exact same_of_told j j' (Option.some.inj value)
    | _ => cases same
termination_by a => sizeOf a
decreasing_by
  · have smaller := List.sizeOf_lt_of_mem member
    simp only [Json.arr.sizeOf_spec]
    omega
  · have smaller := List.sizeOf_lt_of_mem member
    simp only [Json.obj.sizeOf_spec, Prod.mk.sizeOf_spec] at smaller ⊢
    omega

/-- Sorted documents have one text exactly if the documents say the same. -/
theorem same_iff_compact_sorted {a b : Json} : Same a b ↔ a.sorted.compact = b.sorted.compact :=
  ⟨fun same => compact_sorted_eq_iff.mpr (told_of_same same),
    fun text => same_of_told a b (compact_sorted_eq_iff.mp text)⟩

end MachineFleet.Json
