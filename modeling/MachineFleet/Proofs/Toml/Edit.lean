import MachineFleet.Proofs.Toml.Statement

/-!
Documents of TOML. Each header with the entries behind it is a change of the table it names, and
the tables on the way to it are there from the first time they are named; no key is given a second
value, and no table a second header.
-/

namespace MachineFleet.Toml

abbrev Entries := List (String × Toml)

/-- A change of a table that can be refused. -/
abbrev Edit := Entries → Option Entries

namespace Edit

/-- One change and then another. -/
def andThen (f g : Edit) : Edit := fun es => (f es).bind g

def put (e : String × Toml) : Edit := fun es =>
  if e.1 ∈ es.map (·.1) then none else some (es ++ [e])

def fill : Entries → Edit
  | [] => some
  | e :: own => andThen (put e) (fill own)

end Edit

def table? : Toml → Option Entries
  | .table entries => some entries
  | _ => none

/-- What stands at a path. -/
def find? : Toml → List String → Option Toml
  | v, [] => some v
  | v, k :: path => (v.table?.bind (·.lookup k)).bind (·.find? path)

/-- Changes a table in another one; it is made if it is missing. -/
def inTable (k : String) (f : Edit) : Edit
  | [] => (f []).map fun t => [(k, .table t)]
  | e :: rest =>
    if e.1 = k then (e.2.table?.bind f).map fun t => (k, .table t) :: rest
    else (inTable k f rest).map (e :: ·)

def within (path : List String) (f : Edit) : Edit := path.foldr inTable f

/-- A header and the entries behind it. -/
abbrev Part := List String × Entries

/-- The entries before the first header, and each header with those behind it. -/
def grouped : List Statement → Entries × List Part
  | [] => ([], [])
  | .entry e :: rest => (e :: (grouped rest).1, (grouped rest).2)
  | .header path :: rest => ([], (path, (grouped rest).1) :: (grouped rest).2)

def build : List Part → Edit
  | [] => some
  | p :: parts => (within p.1 (.fill p.2)).andThen (build parts)

def read (cs : List Char) : Option Entries := do
  let whole := grouped (← statements cs)
  if (whole.2.map (·.1)).Nodup then (Edit.fill whole.1).andThen (build whole.2) [] else none

variable {f g h : Edit} {es : Entries} {k : String} {path : List String}

theorem Edit.andThen_assoc : (f.andThen g).andThen h = f.andThen (g.andThen h) :=
  funext fun es => Option.bind_assoc (f es) g h

theorem Edit.andThen_some : f.andThen some = f := funext fun es => Option.bind_fun_some (f es)

theorem Edit.some_andThen : Edit.andThen some f = f := rfl

theorem inTable_andThen :
    (inTable k f).andThen (inTable k g) = inTable k (f.andThen g) := by
  funext es
  unfold Edit.andThen
  induction es with
  | nil => cases made : f [] <;> simp [inTable, table?, made]
  | cons e rest ih =>
    by_cases same : e.1 = k
    · rw [inTable, if_pos same, inTable, if_pos same]
      cases e.2.table? with
      | none => rfl
      | some t => cases made : f t <;> simp [inTable, table?, made]
    · rw [inTable, if_neg same, inTable, if_neg same, ← ih]
      cases inTable k f rest <;> simp [inTable, same]

theorem within_andThen :
    (within path f).andThen (within path g) = within path (f.andThen g) := by
  induction path with
  | nil => rfl
  | cons k path ih => exact inTable_andThen.trans (congrArg (inTable k) ih)

theorem within_concat : within (path ++ [k]) f = within path (inTable k f) :=
  List.foldr_append

theorem build_append (a b : List Part) : build (a ++ b) = (build a).andThen (build b) := by
  induction a with
  | nil => rfl
  | cons p a ih => rw [List.cons_append, build, build, ih, Edit.andThen_assoc]

theorem fresh_of_nodup {t rest : Entries} {e : String × Toml}
    (distinct : ((t ++ e :: rest).map (·.1)).Nodup) : e.1 ∉ t.map (·.1) := by
  rw [List.map_append, List.map_cons] at distinct
  exact fun member => (List.nodup_append.mp distinct).2.2 _ member _ List.mem_cons_self rfl

theorem fill_eq {own t : Entries} (distinct : ((t ++ own).map (·.1)).Nodup) :
    Edit.fill own t = some (t ++ own) := by
  induction own generalizing t with
  | nil => rw [List.append_nil]; rfl
  | cons e own ih =>
    have fresh := fresh_of_nodup distinct
    rw [List.append_cons] at distinct ⊢
    rw [Edit.fill, Edit.andThen, Edit.put, if_neg fresh, Option.bind_some, ih distinct]

theorem inTable_fresh (fresh : k ∉ es.map (·.1)) :
    inTable k f es = (f []).map fun t => es ++ [(k, .table t)] := by
  induction es with
  | nil => rfl
  | cons e es ih =>
    obtain ⟨other, fresh⟩ := List.ne_and_not_mem_of_not_mem_cons fresh
    rw [inTable, if_neg other.symm, ih fresh, Option.map_map]
    rfl

end MachineFleet.Toml
