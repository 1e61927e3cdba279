/-!
Dictionaries with text keys. The entries are kept in strictly ascending order of their keys, so
two dictionaries with the same entries are equal, and a listing is always in key order. The order
on keys is that of their code points, which is also the order of their UTF-8 bytes.
-/

namespace MachineFleet

namespace Dict

def insertEntry {α : Type} (k : String) (v : α) : List (String × α) → List (String × α)
  | [] => [(k, v)]
  | e :: rest =>
    if k < e.1 then (k, v) :: e :: rest
    else if k = e.1 then (k, v) :: rest
    else e :: insertEntry k v rest

/-- The entries are in strictly ascending order of their keys. -/
def Ordered {α : Type} (es : List (String × α)) : Prop := es.Pairwise fun a b => a.1 < b.1

theorem mem_insertEntry {α : Type} {k : String} {v : α} {es : List (String × α)}
    {e : String × α} (h : e ∈ insertEntry k v es) : e = (k, v) ∨ e ∈ es := by
  induction es with
  | nil => simpa [insertEntry] using h
  | cons a rest ih =>
    unfold insertEntry at h
    split at h
    · simpa using h
    · split at h
      · rcases List.mem_cons.1 h with h | h
        · exact .inl h
        · exact .inr (List.mem_cons_of_mem _ h)
      · rcases List.mem_cons.1 h with h | h
        · exact .inr (h ▸ List.mem_cons_self)
        · exact (ih h).imp_right (List.mem_cons_of_mem _)

theorem key_lt_of_not {a b : String} (h : ¬ a < b) (n : a ≠ b) : b < a := by
  refine Decidable.byContradiction fun g => n ?_
  exact String.le_antisymm (String.not_lt.1 g) (String.not_lt.1 h)

theorem ordered_insertEntry {α : Type} (k : String) (v : α) {es : List (String × α)}
    (h : Ordered es) : Ordered (insertEntry k v es) := by
  induction es with
  | nil => simp [insertEntry, Ordered]
  | cons a rest ih =>
    have tail := List.pairwise_cons.1 h
    unfold insertEntry
    split
    · rename_i lt
      refine List.pairwise_cons.2 ⟨fun e he => ?_, h⟩
      rcases List.mem_cons.1 he with he | he
      · exact he ▸ lt
      · exact String.lt_trans lt (tail.1 e he)
    · split
      · rename_i eq
        exact List.pairwise_cons.2 ⟨fun e he => eq ▸ tail.1 e he, tail.2⟩
      · rename_i lt ne
        refine List.pairwise_cons.2 ⟨fun e he => ?_, ih tail.2⟩
        rcases mem_insertEntry he with he | he
        · exact he ▸ key_lt_of_not lt ne
        · exact tail.1 e he

end Dict

structure Dict (α : Type) where
  entries : List (String × α)
  ordered : Dict.Ordered entries

namespace Dict

variable {α β : Type}

def empty : Dict α := ⟨[], List.Pairwise.nil⟩

instance : Inhabited (Dict α) := ⟨empty⟩

@[ext] theorem ext {a b : Dict α} (h : a.entries = b.entries) : a = b := by
  cases a; cases b; cases h; rfl

instance [DecidableEq α] : DecidableEq (Dict α) := fun a b =>
  if h : a.entries = b.entries then isTrue (ext h) else isFalse fun e => h (e ▸ rfl)

def insert (d : Dict α) (k : String) (v : α) : Dict α :=
  ⟨insertEntry k v d.entries, ordered_insertEntry k v d.ordered⟩

def get? (d : Dict α) (k : String) : Option α := d.entries.lookup k

def contains (d : Dict α) (k : String) : Bool := (d.get? k).isSome

def erase (d : Dict α) (k : String) : Dict α :=
  ⟨d.entries.filter (·.1 != k), d.ordered.filter _⟩

/-- The dictionary of a list of entries; of two entries with one key the later counts. -/
def ofList (es : List (String × α)) : Dict α := es.foldl (fun d e => d.insert e.1 e.2) empty

def isEmpty (d : Dict α) : Bool := d.entries.isEmpty

def size (d : Dict α) : Nat := d.entries.length

def keys (d : Dict α) : List String := d.entries.map (·.1)

def values (d : Dict α) : List α := d.entries.map (·.2)

def filterValues (p : α → Bool) (d : Dict α) : Dict α :=
  ⟨d.entries.filter fun e => p e.2, d.ordered.filter _⟩

def mapValues (f : α → β) (d : Dict α) : Dict β :=
  ⟨d.entries.map fun e => (e.1, f e.2), by
    simpa only [Ordered, List.pairwise_map] using d.ordered⟩

end Dict

end MachineFleet
