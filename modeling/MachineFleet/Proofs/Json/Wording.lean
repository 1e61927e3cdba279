import MachineFleet.ConfigVar
import MachineFleet.Machine.Meta
import MachineFleet.Proofs.Dict
import MachineFleet.Proofs.Json.Spelling
import Mathlib.Logic.Relator

/-!
Readers see of a floating point number no more than its text: with another number of the same text
in its place, a document is read as before or refused in the same words.
-/

namespace MachineFleet.Json

open Relator

variable {f : Binary64 → Binary64}

namespace Document

mutual

def mapFloats (f : Binary64 → Binary64) : Document → Document
  | .num n => .num (n.mapFloat f)
  | .arr items ending => .arr (mapFloatItems f items) ending
  | .obj members ending => .obj (mapFloatMembers f members) ending
  | .sequence items => .sequence (mapFloatItems f items)
  | d => d

def mapFloatItems (f : Binary64 → Binary64) : List Document → List Document
  | [] => []
  | d :: rest => d.mapFloats f :: mapFloatItems f rest

def mapFloatMembers (f : Binary64 → Binary64) :
    List (String × Document) → List (String × Document)
  | [] => []
  | (k, d) :: rest => (k, d.mapFloats f) :: mapFloatMembers f rest

end

mutual

theorem ofJson_mapFloats : ∀ j : Json, ofJson (j.mapFloats f) = (ofJson j).mapFloats f
  | .null => rfl
  | .bool _ => rfl
  | .num _ => rfl
  | .str _ => rfl
  | .arr items => congrArg (Document.arr · .closed) (ofItems_mapFloats items)
  | .obj members => congrArg (Document.obj · .closed) (ofMembers_mapFloats members)

theorem ofItems_mapFloats : ∀ items : List Json,
    ofItems (Json.mapFloatItems f items) = mapFloatItems f (ofItems items)
  | [] => rfl
  | j :: rest => by
    rw [Json.mapFloatItems, ofItems, ofItems, mapFloatItems, ofJson_mapFloats j,
      ofItems_mapFloats rest]

theorem ofMembers_mapFloats : ∀ members : List (String × Json),
    ofMembers (Json.mapFloatMembers f members) = mapFloatMembers f (ofMembers members)
  | [] => rfl
  | (k, j) :: rest => by
    rw [Json.mapFloatMembers, ofMembers, ofMembers, mapFloatMembers, ofJson_mapFloats j,
      ofMembers_mapFloats rest]

end

mutual

theorem isSound_mapFloats : ∀ d : Document, (d.mapFloats f).isSound = d.isSound
  | .null => rfl
  | .bool _ => rfl
  | .num _ => rfl
  | .str _ => rfl
  | .refused => rfl
  | .broken => rfl
  | .blank => rfl
  | .special _ => rfl
  | .arr items ending => by rw [mapFloats, isSound, isSound, allSound_mapFloats items]
  | .obj members ending => by rw [mapFloats, isSound, isSound, allMembersSound_mapFloats members]
  | .sequence items => allSound_mapFloats items

theorem allSound_mapFloats : ∀ items : List Document,
    allSound (mapFloatItems f items) = allSound items
  | [] => rfl
  | d :: rest => by
    rw [mapFloatItems, allSound, allSound, isSound_mapFloats d, allSound_mapFloats rest]

theorem allMembersSound_mapFloats : ∀ members : List (String × Document),
    allMembersSound (mapFloatMembers f members) = allMembersSound members
  | [] => rfl
  | (k, d) :: rest => by
    rw [mapFloatMembers, allMembersSound, allMembersSound, isSound_mapFloats d,
      allMembersSound_mapFloats rest]

end

theorem mapFloatItems_eq (items : List Document) :
    mapFloatItems f items = items.map (mapFloats f) := by
  induction items with
  | nil => rfl
  | cons d rest ih => rw [mapFloatItems, ih, List.map_cons]

theorem length_mapFloatItems (items : List Document) :
    (mapFloatItems f items).length = items.length := by
  rw [mapFloatItems_eq, List.length_map]

theorem mapFloatMembers_eq (members : List (String × Document)) :
    mapFloatMembers f members = members.map fun e => (e.1, e.2.mapFloats f) := by
  induction members with
  | nil => rfl
  | cons e rest ih => rw [mapFloatMembers, ih, List.map_cons]

end Document

/-- Both give a value, and the values are related, or both fail with one message. -/
def Agrees {α β : Type} (R : α → β → Prop) :
    Except DecodeError α → Except DecodeError β → Prop
  | .ok a, .ok b => R a b
  | .error e, .error e' => e.message = e'.message
  | _, _ => False

namespace Agrees

variable {α β γ δ : Type} {R : α → β → Prop} {S : γ → δ → Prop}

theorem cases {x : Except DecodeError α} {y : Except DecodeError β} (agrees : Agrees R x y) :
    (∃ a b, x = .ok a ∧ y = .ok b ∧ R a b) ∨
      ∃ e e', x = .error e ∧ y = .error e' ∧ e.message = e'.message := by
  cases x with
  | error e => cases y with
    | error e' => exact .inr ⟨e, e', rfl, rfl, agrees⟩
    | ok b => exact agrees.elim
  | ok a => cases y with
    | error e' => exact agrees.elim
    | ok b => exact .inl ⟨a, b, rfl, rfl, agrees⟩

theorem bind {x : Except DecodeError α} {y : Except DecodeError β}
    {g : α → Except DecodeError γ} {h : β → Except DecodeError δ} (first : Agrees R x y)
    (later : ∀ a b, R a b → Agrees S (g a) (h b)) : Agrees S (x >>= g) (y >>= h) := by
  rcases first.cases with ⟨a, b, rfl, rfl, related⟩ | ⟨e, e', rfl, rfl, words⟩
  · exact later a b related
  · exact words

theorem map {x : Except DecodeError α} {y : Except DecodeError β} {g : α → γ} {h : β → δ}
    (agrees : Agrees R x y) (related : (R ⇒ S) g h) : Agrees S (x.map g) (y.map h) := by
  rcases agrees.cases with ⟨a, b, rfl, rfl, before⟩ | ⟨e, e', rfl, rfl, words⟩
  · exact related before
  · exact words

theorem mono {T : α → β → Prop} {x : Except DecodeError α} {y : Except DecodeError β}
    (agrees : Agrees R x y) (weaker : ∀ a b, R a b → T a b) : Agrees T x y := by
  rcases agrees.cases with ⟨a, b, rfl, rfl, related⟩ | ⟨e, e', rfl, rfl, words⟩
  · exact weaker a b related
  · exact words

theorem refl {R : α → α → Prop} (related : ∀ a, R a a) (x : Except DecodeError α) :
    Agrees R x x := by
  cases x with
  | error e => exact rfl
  | ok a => exact related a

theorem toOption_eq {x y : Except DecodeError α} (agrees : Agrees Eq x y) :
    x.toOption = y.toOption := by
  rcases agrees.cases with ⟨a, _, rfl, rfl, rfl⟩ | ⟨e, e', rfl, rfl, -⟩
  · rfl
  · rfl

end Agrees

/-- What a reader finds in a document and in that with other floating point numbers is related. -/
def Faithful {α : Type} (f : Binary64 → Binary64) (R : α → α → Prop) (r : Reader α) : Prop :=
  ∀ d, Agrees R (r d) (r (d.mapFloats f))

theorem Faithful.decode {α : Type} {R : α → α → Prop} {r : Reader α} (faithful : Faithful f R r)
    (j : Json) : Agrees R (Json.decode r j) (Json.decode r (j.mapFloats f)) := by
  have read := faithful (.ofJson j)
  rw [← Document.ofJson_mapFloats] at read
  exact read

section Values

variable {α : Type} {R : α → α → Prop} {r : Reader α}
variable (texts : ∀ x, Decimal.format (f x) = Decimal.format x)
include texts

theorem mismatch_message (wanted : String) (d : Document) :
    (d.mismatch wanted).message = ((d.mapFloats f).mismatch wanted).message := by
  cases d with
  | num n => cases n with
    | int n => exact rfl
    | float x =>
      -- Rewriting with `texts` would unfold the printing of numbers to find a place for it.
      have found : (Found.float x).message = (Found.float (f x)).message :=
        congrArg (fun t => "floating point `" ++ String.ofList t ++ "`") (texts x).symm
      exact congrArg (fun s => "invalid type: " ++ s ++ ", expected " ++ wanted) found
  | _ => rfl

theorem faithful_string : Faithful f Eq Reader.string := by
  intro d
  cases d with
  | str s => exact rfl
  | _ => exact mismatch_message texts "a string" _

theorem faithful_bool : Faithful f Eq Reader.bool := by
  intro d
  cases d with
  | bool b => exact rfl
  | _ => exact mismatch_message texts "a boolean" _

theorem faithful_integer (low high : Int) (wanted : String) :
    Faithful f Eq (.integer low high wanted) := by
  intro d
  cases d with
  | num n => cases n with
    | int n => exact .refl (fun _ => rfl) _
    | float x => exact mismatch_message texts wanted (.num (.float x))
  | _ => exact mismatch_message texts wanted _

theorem faithful_natural (bits : Nat) (wanted : String) :
    Faithful f Eq (.natural bits wanted) := fun d =>
  (faithful_integer texts _ _ wanted d).map fun _ _ same => congrArg Int.toNat same

omit texts in
theorem Faithful.option (faithful : Faithful f Eq r) : Faithful f Eq (.option r) := by
  intro d
  cases d with
  | null => exact rfl
  | blank => exact rfl
  | _ => exact (faithful _).map fun _ _ same => congrArg some same

omit texts in
theorem Faithful.items (faithful : Faithful f Eq r) (ds : List Document) :
    Agrees Eq (Reader.items r ds) (Reader.items r (Document.mapFloatItems f ds)) := by
  induction ds with
  | nil => exact rfl
  | cons d rest ih =>
    refine (faithful d).bind fun a b first => ?_
    refine ih.bind fun as bs later => ?_
    exact congrArg₂ List.cons first later

theorem Faithful.list (faithful : Faithful f Eq r) : Faithful f Eq (.list r) := by
  intro d
  cases d with
  | arr ds ending =>
    refine (faithful.items ds).bind fun as bs same => ?_
    exact (Agrees.refl (fun _ => trivial) (Reader.finish ending)).bind
      (R := fun _ _ => True) fun _ _ _ => same
  | sequence ds => exact faithful.items ds
  | blank => exact rfl
  | _ => exact mismatch_message texts "a sequence" _

theorem faithful_oneOf (names : List (String × α)) : Faithful f Eq (.oneOf names) := by
  intro d
  cases d with
  | str s => exact .refl (fun _ => rfl) _
  | obj ms ending =>
    match ms, ending with
    | [(s, d)], .closed =>
      refine (Agrees.refl (fun _ => rfl) (Reader.oneOf.find names s)).bind fun a b same => ?_
      cases d with
      | null => exact same
      | _ => exact mismatch_message texts "unit" _
    | [_], .refused => exact rfl
    | [_], .broken => exact rfl
    | [], _ => exact rfl
    | _ :: _ :: _, _ => exact rfl
  | _ => exact mismatch_message texts "string or map" _

end Values

/-- The same document but for its floating point numbers. -/
def Refloated (f : Binary64 → Binary64) (j j' : Json) : Prop := j' = j.mapFloats f

theorem mapFloatMembers_insertEntry (k : String) (j : Json) (done : List (String × Json)) :
    Json.mapFloatMembers f (Dict.insertEntry k j done) =
      Dict.insertEntry k (j.mapFloats f) (Json.mapFloatMembers f done) := by
  induction done with
  | nil => rfl
  | cons e rest ih =>
    simp only [Dict.insertEntry, Json.mapFloatMembers]
    split
    · rfl
    split
    · rfl
    · rw [Json.mapFloatMembers, ih]

mutual

theorem faithful_any : ∀ d : Document,
    Agrees (Refloated f) (Reader.any d) (Reader.any (d.mapFloats f))
  | .null => rfl
  | .bool _ => rfl
  | .num _ => rfl
  | .str _ => rfl
  | .refused => rfl
  | .broken => rfl
  | .blank => rfl
  | .special _ => rfl
  | .arr ds ending => by
    refine (agrees_anyItems ds).bind fun js js' items => ?_
    exact (Agrees.refl (fun _ => trivial) (Reader.finish ending)).bind
      (R := fun _ _ => True) fun _ _ _ => congrArg Json.arr items
  | .obj ms ending => by
    refine (agrees_anyMembers ms []).bind fun js js' members => ?_
    exact (Agrees.refl (fun _ => trivial) (Reader.finish ending)).bind
      (R := fun _ _ => True) fun _ _ _ => congrArg Json.obj members
  | .sequence ds => (agrees_anyItems ds).bind fun _ _ items => congrArg Json.arr items

theorem agrees_anyItems : ∀ ds : List Document,
    Agrees (fun js js' => js' = Json.mapFloatItems f js) (Reader.anyItems ds)
      (Reader.anyItems (Document.mapFloatItems f ds))
  | [] => rfl
  | d :: rest => by
    refine (faithful_any d).bind fun j j' first => ?_
    exact (agrees_anyItems rest).bind fun _ _ later => congrArg₂ List.cons first later

theorem agrees_anyMembers : ∀ (ms : List (String × Document)) (done : List (String × Json)),
    Agrees (fun js js' => js' = Json.mapFloatMembers f js) (Reader.anyMembers ms done)
      (Reader.anyMembers (Document.mapFloatMembers f ms) (Json.mapFloatMembers f done))
  | [], _ => rfl
  | (k, d) :: rest, done => by
    refine (faithful_any d).bind fun j j' first => ?_
    rw [first, ← mapFloatMembers_insertEntry]
    exact agrees_anyMembers rest (Dict.insertEntry k j done)

end

theorem faithful_variable {α : Type} {type : String} {empty : α} {literal : Reader α}
    {record : RecordReader α} (first : Faithful f Eq literal)
    (second : Faithful f Eq (record.read "Variable")) :
    Faithful f Eq (readVariable type empty literal record) := by
  intro d
  have tried : (Reader.attempt literal d).or (Reader.attempt (record.read "Variable") d) =
      (Reader.attempt literal (d.mapFloats f)).or
        (Reader.attempt (record.read "Variable") (d.mapFloats f)) :=
    congrArg₂ Option.or (first d).toOption_eq (second d).toOption_eq
  cases d with
  | null => exact rfl
  | _ =>
    refine (faithful_any _).bind fun _ _ _ => ?_
    rw [← tried]
    exact .refl (fun _ => rfl) _

def Lookup.mapFloats (f : Binary64 → Binary64) : Lookup → Lookup
  | .named members => .named (Document.mapFloatMembers f members)
  | .placed items => .placed (Document.mapFloatItems f items)

theorem Lookup.find_mapFloats (l : Lookup) (name : String) (index : Nat) :
    (l.mapFloats f).find name index = (l.find name index).map (Document.mapFloats f) := by
  cases l with
  | named members =>
    simp only [Lookup.mapFloats, Lookup.find, Document.mapFloatMembers_eq, ← List.map_reverse,
      Dict.lookup_mapValues]
    cases members.reverse.lookup name <;> rfl
  | placed items =>
    simp only [Lookup.mapFloats, Lookup.find, Document.mapFloatItems_eq, List.getElem?_map]
    cases items[index]? <;> rfl

/-- Each member is checked, and the record built, alike from both documents. -/
structure RecordReader.Faithful {α : Type} (f : Binary64 → Binary64) (R : α → α → Prop)
    (r : RecordReader α) : Prop where
  checks : ∀ m ∈ r.members, ∀ d, Agrees (fun _ _ => True) (m.2 d) (m.2 (d.mapFloats f))
  builds : ∀ wanted l, Agrees R (r.build wanted l) (r.build wanted (l.mapFloats f))

namespace RecordReader

variable {α β : Type} {R : α → α → Prop} {S : β → β → Prop}

theorem Faithful.of {a : α} (related : R a a) : RecordReader.Faithful f R (.of a) where
  checks := fun _ member => absurd member List.not_mem_nil
  builds := fun _ _ => related

theorem Faithful.member {r : RecordReader (α → β)} {read : Reader α} {absent : Option α}
    (record : r.Faithful f (R ⇒ S)) (value : Json.Faithful f R read)
    (default : ∀ a, absent = some a → R a a) (name : String) :
    (r.member name read absent).Faithful f S where
  checks := by
    intro m member d
    rcases List.mem_append.mp member with before | last
    · exact record.checks m before d
    · obtain rfl := List.mem_singleton.mp last
      exact (value d).map fun _ _ _ => trivial
  builds := by
    intro wanted l
    refine (record.builds wanted l).bind fun g h related => ?_
    rw [Lookup.find_mapFloats]
    cases found : l.find name r.members.length with
    | ok d => exact (value d).bind fun a b same => related same
    | error missing =>
      cases absent with
      | some a => exact related (default a rfl)
      | none => cases missing with
        | name => exact rfl
        | place n => exact rfl

theorem Faithful.required {r : RecordReader (α → β)} {read : Reader α}
    (record : r.Faithful f (R ⇒ S)) (value : Json.Faithful f R read) (name : String) :
    (r.required name read).Faithful f S :=
  record.member value (fun _ same => by cases same) name

theorem Faithful.orElse {r : RecordReader (α → β)} {read : Reader α} {absent : α}
    (record : r.Faithful f (R ⇒ S)) (value : Json.Faithful f R read) (default : R absent absent)
    (name : String) : (r.orElse name read absent).Faithful f S :=
  record.member value (fun _ same => Option.some.inj same ▸ default) name

/-- A record of which nothing shows floating point numbers is read as it was. -/
theorem Faithful.orElse_eq {r : RecordReader (α → β)} {read : Reader α} {absent : α}
    (record : r.Faithful f Eq) (value : Json.Faithful f Eq read) (name : String) :
    (r.orElse name read absent).Faithful f Eq := by
  have pointwise : r.Faithful f (Eq ⇒ Eq) :=
    ⟨record.checks, fun wanted l => (record.builds wanted l).mono fun _ _ same _ _ args =>
      congr same args⟩
  exact pointwise.orElse value rfl name

theorem agrees_visit {known : List (String × (Document → Except DecodeError Unit))}
    (checks : ∀ m ∈ known, ∀ d, Agrees (fun _ _ => True) (m.2 d) (m.2 (d.mapFloats f)))
    (repeats : Bool) (ms : List (String × Document)) (seen : List String) :
    Agrees (fun _ _ => True) (visit known repeats ms seen)
      (visit known repeats (Document.mapFloatMembers f ms) seen) := by
  induction ms generalizing seen with
  | nil => exact trivial
  | cons e rest ih =>
    obtain ⟨k, d⟩ := e
    rw [Document.mapFloatMembers, visit, visit]
    cases found : known.lookup k with
    | none =>
      dsimp only
      rw [Document.isSound_mapFloats]
      split
      · exact ih seen
      · exact rfl
    | some check =>
      dsimp only
      split
      · exact rfl
      · exact (checks _ (Dict.mem_of_lookup found) d).bind fun _ _ _ => ih (k :: seen)

theorem Faithful.read {r : RecordReader α} (texts : ∀ x, Decimal.format (f x) = Decimal.format x)
    (record : r.Faithful f R) (name : String) : Json.Faithful f R (r.read name) := by
  intro d
  cases d with
  | obj ms ending =>
    refine (agrees_visit record.checks false ms []).bind fun _ _ _ => ?_
    refine (Agrees.refl (fun _ => trivial) (Reader.finish ending)).bind
      (R := fun _ _ => True) fun _ _ _ => ?_
    exact record.builds "" (.named ms)
  | arr ds ending =>
    have placed := record.builds (lengthWanted name r.members.length)
      (.placed (ds.take r.members.length))
    rw [Lookup.mapFloats, Document.mapFloatItems_eq, List.map_take,
      ← Document.mapFloatItems_eq] at placed
    refine placed.bind fun a b related => ?_
    rw [Document.length_mapFloatItems]
    split
    · exact rfl
    split
    · exact rfl
    · exact related
  | blank => exact record.builds "" (.named [])
  | _ => exact mismatch_message texts ("struct " ++ name) _

end RecordReader

end MachineFleet.Json
