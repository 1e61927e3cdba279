import MachineFleet.Machine.Meta
import MachineFleet.Proofs.Json.Built
import MachineFleet.Proofs.Outcome
import Mathlib.Data.List.Nodup

/-!
Records as objects. A record is read from an object whatever the order of its members, and it is
read back where each of its fields has been written as it is read, or left out at its default.
-/

namespace MachineFleet.Json

namespace Document

theorem ofItems_eq (items : List Json) : ofItems items = items.map ofJson := by
  induction items with
  | nil => rfl
  | cons j rest ih => rw [ofItems, ih, List.map_cons]

theorem ofMembers_eq (members : List (String × Json)) :
    ofMembers members = members.map fun e => (e.1, ofJson e.2) := by
  induction members with
  | nil => rfl
  | cons e rest ih => rw [ofMembers, ih, List.map_cons]

mutual

theorem isSound_ofJson : ∀ j : Json, (ofJson j).isSound = true
  | .null => rfl
  | .bool _ => rfl
  | .num _ => rfl
  | .str _ => rfl
  | .arr items => allSound_ofItems items
  | .obj members => allMembersSound_ofMembers members

theorem allSound_ofItems : ∀ items : List Json, allSound (ofItems items) = true
  | [] => rfl
  | j :: rest => by rw [ofItems, allSound, isSound_ofJson j, allSound_ofItems rest]; rfl

theorem allMembersSound_ofMembers : ∀ members : List (String × Json),
    allMembersSound (ofMembers members) = true
  | [] => rfl
  | (k, j) :: rest => by
    rw [ofMembers, allMembersSound, isSound_ofJson j, allMembersSound_ofMembers rest]; rfl

end

end Document

theorem lookup_reverse {α : Type} {es : List (String × α)} (apart : (es.map (·.1)).Nodup)
    (k : String) : es.reverse.lookup k = es.lookup k := by
  induction es with
  | nil => rfl
  | cons e rest ih =>
    obtain ⟨fresh, apart⟩ := List.nodup_cons.mp apart
    rw [List.reverse_cons, List.lookup_append, ih apart]
    by_cases same : k = e.1
    · have absent : rest.lookup k = none := by
        refine List.lookup_eq_none_iff.mpr fun e' member => bne_iff_ne.mpr fun equal => fresh ?_
        exact List.mem_map.mpr ⟨e', member, equal.symm.trans same⟩
      rw [absent, Option.none_or, List.lookup_cons, List.lookup_cons, same, beq_self_eq_true]
    · rw [Dict.lookup_cons_of_ne e.2 [] same, Dict.lookup_cons_of_ne e.2 rest same,
        List.lookup_nil, Option.or_none]

namespace RecordReader

variable {α β : Type} {known : List (String × (Document → Except DecodeError Unit))}
  {repeats : Bool} {members : List (String × Json)} {seen : List String}

/-- A member can be read, if it is known. -/
def Passes (known : List (String × (Document → Except DecodeError Unit)))
    (e : String × Json) : Prop :=
  ∀ check, known.lookup e.1 = some check → check (.ofJson e.2) = .ok ()

theorem visit_of_passes (passes : ∀ e ∈ members, Passes known e)
    (apart : (members.map (·.1)).Nodup) (fresh : ∀ e ∈ members, e.1 ∉ seen) :
    visit known repeats (Document.ofMembers members) seen = .ok () := by
  induction members generalizing seen with
  | nil => rfl
  | cons e rest ih =>
    obtain ⟨k, j⟩ := e
    obtain ⟨other, apart⟩ := List.nodup_cons.mp apart
    have later := fun e' member => passes e' (List.mem_cons_of_mem _ member)
    have unseen := fun e' member => fresh e' (List.mem_cons_of_mem _ member)
    rw [Document.ofMembers, visit]
    cases found : known.lookup k with
    | none =>
      dsimp only
      rw [if_pos (Document.isSound_ofJson j)]
      exact ih later apart unseen
    | some check =>
      have new : seen.contains k = false := by
        simpa using fresh (k, j) List.mem_cons_self
      have readable : check (.ofJson j) = .ok () := passes (k, j) List.mem_cons_self check found
      dsimp only
      rw [new, Bool.and_false, if_neg Bool.false_ne_true, readable]
      refine ih later apart fun e' member again => ?_
      rcases List.mem_cons.mp again with same | before
      · exact other (List.mem_map.mpr ⟨e', member, same⟩)
      · exact unseen e' member before

theorem passes_of_visit (visited : visit known repeats (Document.ofMembers members) seen = .ok ()) :
    ∀ e ∈ members, Passes known e := by
  induction members generalizing seen with
  | nil => exact fun _ member => absurd member List.not_mem_nil
  | cons e rest ih =>
    obtain ⟨k, j⟩ := e
    rw [Document.ofMembers, visit] at visited
    intro e' member check stands
    cases found : known.lookup k with
    | none =>
      rw [found] at visited
      dsimp only at visited
      rw [if_pos (Document.isSound_ofJson j)] at visited
      rcases List.mem_cons.mp member with rfl | later
      · cases found.symm.trans stands
      · exact ih visited e' later check stands
    | some first =>
      rw [found] at visited
      dsimp only at visited
      split at visited
      · cases visited
      obtain ⟨_, readable, visited⟩ := ok_of_bind visited
      rcases List.mem_cons.mp member with rfl | later
      · cases found.symm.trans stands
        exact readable
      · exact ih visited e' later check stands

theorem decode_obj_iff {r : RecordReader α} {name : String} {a : α} :
    decode (r.read name) (.obj members) = .ok a ↔
      visit r.members false (Document.ofMembers members) [] = .ok () ∧
        r.build "" (.named (Document.ofMembers members)) = .ok a := by
  constructor
  · intro read
    obtain ⟨_, visited, read⟩ := ok_of_bind read
    obtain ⟨_, -, built⟩ := ok_of_bind read
    exact ⟨visited, built⟩
  · rintro ⟨visited, built⟩
    show (visit r.members false (Document.ofMembers members) [] >>= _) = _
    rw [visited]
    exact built

/-- A field stands as a member that is read as its value, or it is left out at its default. -/
inductive Field (name : String) (read : Reader α) (absent : Option α) :
    Option (String × Json) → α → Prop
  | present {j : Json} {a : α} (value : decode read j = .ok a) :
      Field name read absent (some (name, j)) a
  | missing {a : α} (default : absent = some a) : Field name read absent none a

theorem Field.required {read : Reader α} {j : Json} {a : α} (name : String)
    (value : decode read j = .ok a) : Field name read none (some (name, j)) a :=
  .present value

theorem Field.orElse {read : Reader α} {j : Json} {a : α} (name : String) (default : α)
    (value : decode read j = .ok a) : Field name read (some default) (some (name, j)) a :=
  .present value

theorem Field.optional {read : Reader α} {write : α → Json}
    (reads : ∀ a, decode read (write a) = .ok a) (present : ∀ a, write a ≠ .null) (name : String)
    (o : Option α) :
    Field name (.option read) (some none) (Json.optional name (o.map write)) o := by
  cases o with
  | none => exact .missing rfl
  | some a => exact .present (decode_option (reads a) (present a))

theorem Field.unless {read : Reader α} {name : String} {default a : α} {j : Json} {left : Bool}
    (value : decode read j = .ok a) (out : left = true → default = a) :
    Field name read (some default) (if left then none else some (name, j)) a := by
  cases left with
  | true => exact .missing (congrArg some (out rfl))
  | false => exact .present value

theorem Field.lookup_of_ne {name known : String} {read : Reader α} {absent : Option α}
    {field : Option (String × Json)} {a : α} (value : Field name read absent field a)
    (other : known ≠ name) : ([field].filterMap id).lookup known = none := by
  cases value with
  | missing default => rfl
  | present value => exact Dict.lookup_cons_of_ne _ [] other

theorem names_member (r : RecordReader (α → β)) (name : String) (read : Reader α)
    (absent : Option α) :
    (r.member name read absent).members.map (·.1) = r.members.map (·.1) ++ [name] :=
  List.map_append

/-- A record is built with one more field where the field is what is found under its name. -/
theorem build_member {r : RecordReader (α → β)} {wanted name : String} {read : Reader α}
    {absent : Option α} {field : Option (String × Json)} {g : α → β} {a : α}
    {ms : List (String × Document)} (built : r.build wanted (.named ms) = .ok g)
    (value : Field name read absent field a)
    (looked : ms.reverse.lookup name = (([field].filterMap id).lookup name).map .ofJson) :
    (r.member name read absent).build wanted (.named ms) = .ok (g a) := by
  unfold RecordReader.member
  dsimp only
  rw [built]
  cases value with
  | @present j a value =>
    have stands : Lookup.find (.named ms) name r.members.length = .ok (.ofJson j) := by
      simp [Lookup.find, looked]
    have read : read (.ofJson j) = .ok a := value
    rw [stands]
    dsimp only [bind, Except.bind]
    rw [read]
    rfl
  | missing default =>
    have stands : Lookup.find (.named ms) name r.members.length = .error .name := by
      simp [Lookup.find, looked]
    rw [stands, default]
    rfl

/-- Fields of which the reader makes the record, whatever the order of the members. -/
structure Spells (r : RecordReader α) (fields : List (Option (String × Json))) (a : α) : Prop where
  names : ((fields.filterMap id).map (·.1)).Sublist (r.members.map (·.1))
  reads : ∀ e ∈ fields.filterMap id, ∃ check, (e.1, check) ∈ r.members ∧
    check (.ofJson e.2) = .ok ()
  builds : (r.members.map (·.1)).Nodup → ∀ wanted ms,
    (∀ name ∈ r.members.map (·.1), ms.reverse.lookup name =
      ((fields.filterMap id).lookup name).map .ofJson) → r.build wanted (.named ms) = .ok a

theorem Spells.of (a : α) : Spells (of a) [] a where
  names := .slnil
  reads := fun _ member => absurd member List.not_mem_nil
  builds := fun _ _ _ _ => rfl

theorem Spells.member {r : RecordReader (α → β)} {fields : List (Option (String × Json))}
    {g : α → β} {name : String} {read : Reader α} {absent : Option α}
    {field : Option (String × Json)} {a : α} (before : Spells r fields g)
    (value : Field name read absent field a) :
    Spells (r.member name read absent) (fields ++ [field]) (g a) := by
  constructor
  case names =>
    rw [List.filterMap_append, List.map_append, names_member]
    refine before.names.append ?_
    cases value with
    | present value => exact .refl _
    | missing default => exact List.nil_sublist _
  case reads =>
    intro e member
    rw [List.filterMap_append] at member
    rcases List.mem_append.mp member with earlier | last
    · obtain ⟨check, known, readable⟩ := before.reads e earlier
      exact ⟨check, List.mem_append_left _ known, readable⟩
    · cases value with
      | missing default => cases last
      | present value =>
        obtain rfl := List.mem_singleton.mp last
        exact ⟨_, List.mem_append_right _ List.mem_cons_self,
          congrArg (Except.map fun _ => ()) value⟩
  case builds =>
    intro apart wanted ms found
    rw [names_member] at apart found
    obtain ⟨apart, -, others⟩ := List.nodup_append.mp apart
    have fresh : name ∉ r.members.map (·.1) := fun member =>
      others name member name List.mem_cons_self rfl
    have absentBefore : (fields.filterMap id).lookup name = none := by
      refine List.lookup_eq_none_iff.mpr fun e member => bne_iff_ne.mpr fun same => fresh ?_
      exact before.names.subset (List.mem_map.mpr ⟨e, member, same.symm⟩)
    have built : r.build wanted (.named ms) = .ok g := by
      refine before.builds apart wanted ms fun known member => ?_
      have other : known ≠ name := fun same => fresh (same ▸ member)
      rw [found known (List.mem_append_left _ member), List.filterMap_append, List.lookup_append,
        value.lookup_of_ne other, Option.or_none]
    refine build_member built value ?_
    rw [found name (List.mem_append_right _ List.mem_cons_self), List.filterMap_append,
      List.lookup_append, absentBefore, Option.none_or]

theorem Spells.read {r : RecordReader α} {fields : List (Option (String × Json))} {a : α}
    (spells : Spells r fields a) (apart : (r.members.map (·.1)).Nodup) (name : String) :
    decode (r.read name) (.objOf fields) = .ok a := by
  have distinct := spells.names.nodup apart
  refine decode_obj_iff.mpr ⟨visit_of_passes (fun e member check known => ?_) distinct ?_, ?_⟩
  · obtain ⟨check', stands, readable⟩ := spells.reads e member
    have same : (e.1, check) = (e.1, check') :=
      List.inj_on_of_nodup_map apart (Dict.mem_of_lookup known) stands rfl
    rw [(Prod.mk.inj same).2]
    exact readable
  · exact fun _ _ => List.not_mem_nil
  · refine spells.builds apart "" _ fun name _ => ?_
    rw [Document.ofMembers_eq, ← List.map_reverse, Dict.lookup_mapValues, lookup_reverse distinct]

end RecordReader

end MachineFleet.Json
