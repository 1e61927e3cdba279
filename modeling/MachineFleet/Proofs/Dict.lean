import MachineFleet.Dict

/-!
What a dictionary holds after a key has been set, and that a listing of its entries makes the same
dictionary again.
-/

namespace MachineFleet.Dict

variable {α : Type}

theorem lookup_insertEntry_self (k : String) (v : α) (es : List (String × α)) :
    (insertEntry k v es).lookup k = some v := by
  induction es with
  | nil => simp [insertEntry]
  | cons e rest ih =>
    unfold insertEntry
    split
    · simp
    · split
      · simp
      · rename_i differs
        rw [List.lookup_cons, beq_false_of_ne differs]
        exact ih

theorem get?_insert_self (d : Dict α) (k : String) (v : α) : (d.insert k v).get? k = some v :=
  lookup_insertEntry_self k v d.entries

theorem lookup_cons_of_ne {k k' : String} (v : α) (es : List (String × α)) (other : k' ≠ k) :
    List.lookup k' ((k, v) :: es) = es.lookup k' := by
  rw [List.lookup_cons, beq_false_of_ne other]

theorem lookup_insertEntry_of_ne {k k' : String} (v : α) (es : List (String × α))
    (other : k' ≠ k) : (insertEntry k v es).lookup k' = es.lookup k' := by
  induction es with
  | nil => exact lookup_cons_of_ne v [] other
  | cons e rest ih =>
    unfold insertEntry
    split
    · exact lookup_cons_of_ne v (e :: rest) other
    · split
      · rename_i same
        rw [lookup_cons_of_ne v rest other, lookup_cons_of_ne e.2 rest (same ▸ other)]
      · rw [List.lookup_cons, List.lookup_cons, ih]

theorem lookup_mapValues {β : Type} (g : α → β) (k : String) (es : List (String × α)) :
    (es.map fun e => (e.1, g e.2)).lookup k = (es.lookup k).map g := by
  induction es with
  | nil => rfl
  | cons e rest ih =>
    rw [List.map_cons, List.lookup_cons, List.lookup_cons, ih]
    split <;> rfl

theorem mem_of_lookup {k : String} {v : α} {es : List (String × α)} (found : es.lookup k = some v) :
    (k, v) ∈ es := by
  obtain ⟨before, after, rfl, -⟩ := List.lookup_eq_some_iff.mp found
  exact List.mem_append_right before List.mem_cons_self

theorem get?_insert (d : Dict α) (k k' : String) (v : α) :
    (d.insert k v).get? k' = if k' = k then some v else d.get? k' := by
  by_cases same : k' = k
  · rw [same, if_pos rfl]
    exact get?_insert_self d k v
  · rw [if_neg same]
    exact lookup_insertEntry_of_ne v d.entries same

theorem get?_erase (d : Dict α) (k k' : String) :
    (d.erase k).get? k' = if k' = k then none else d.get? k' := by
  unfold get? erase
  dsimp only
  induction d.entries with
  | nil => simp
  | cons e rest ih =>
    rw [List.filter_cons]
    by_cases erased : e.1 = k
    · have differs : k' ≠ k → (k' == e.1) = false := fun other => beq_false_of_ne (erased ▸ other)
      rw [if_neg (by simp [erased]), ih]
      split
      · rfl
      · rename_i other
        rw [List.lookup_cons, differs other]
    · rw [if_pos (by simpa using erased), List.lookup_cons, List.lookup_cons, ih]
      split
      · rename_i found
        rw [if_neg (fun same => erased ((beq_iff_eq.mp found).symm.trans same))]
      · rfl

theorem contains_insert (d : Dict α) (k k' : String) (v : α) :
    (d.insert k v).contains k' = true ↔ k' = k ∨ d.contains k' = true := by
  unfold contains
  rw [get?_insert]
  split <;> simp [*]

theorem contains_erase (d : Dict α) (k k' : String) :
    (d.erase k).contains k' = true ↔ k' ≠ k ∧ d.contains k' = true := by
  unfold contains
  rw [get?_erase]
  split <;> simp [*]

/-- A key before all others is not there. -/
theorem lookup_of_lt {k : String} {es : List (String × α)} (before : ∀ e ∈ es, k < e.1) :
    es.lookup k = none := by
  induction es with
  | nil => rfl
  | cons e rest ih =>
    have other : k ≠ e.1 := by
      intro same
      exact String.lt_irrefl k (same ▸ before e List.mem_cons_self)
    rw [lookup_cons_of_ne e.2 rest other]
    exact ih fun e' member => before e' (List.mem_cons_of_mem e member)

theorem nodup_keys (d : Dict α) : d.keys.Nodup := by
  refine List.pairwise_map.mpr (d.ordered.imp fun {a b} below same => ?_)
  rw [same] at below
  exact String.lt_irrefl b.1 below

theorem lookup_of_mem {k : String} {v : α} {es : List (String × α)}
    (distinct : (es.map (·.1)).Nodup) (member : (k, v) ∈ es) : es.lookup k = some v := by
  induction es with
  | nil => cases member
  | cons e rest ih =>
    obtain ⟨fresh, distinct⟩ := List.nodup_cons.mp distinct
    rcases List.mem_cons.mp member with rfl | later
    · exact List.lookup_cons_self
    · have other : k ≠ e.1 := by
        rintro rfl
        exact fresh (List.mem_map.mpr ⟨_, later, rfl⟩)
      rw [lookup_cons_of_ne e.2 rest other]
      exact ih distinct later

theorem mem_entries_iff {d : Dict α} {k : String} {v : α} :
    (k, v) ∈ d.entries ↔ d.get? k = some v :=
  ⟨lookup_of_mem d.nodup_keys, mem_of_lookup⟩

theorem get?_filterValues (p : α → Bool) (d : Dict α) (k : String) :
    (d.filterValues p).get? k = (d.get? k).filter p := by
  apply Option.ext
  intro v
  rw [← mem_entries_iff, Option.filter_eq_some_iff, ← mem_entries_iff]
  exact List.mem_filter

theorem nodup_entries (d : Dict α) : d.entries.Nodup := by
  have apart := List.pairwise_map.mp d.nodup_keys
  exact apart.imp fun differ same => differ (congrArg Prod.fst same)

theorem mem_keys_iff {d : Dict α} {k : String} : k ∈ d.keys ↔ d.contains k = true := by
  unfold keys contains
  rw [List.mem_map, Option.isSome_iff_exists]
  constructor
  · rintro ⟨⟨k', v⟩, member, rfl⟩
    exact ⟨v, mem_entries_iff.mp member⟩
  · rintro ⟨v, present⟩
    exact ⟨(k, v), mem_entries_iff.mpr present, rfl⟩

/-- A dictionary with one key more than another one has the entry of that key more. -/
theorem perm_cons {d d' : Dict α} {k : String} {v : α} (absent : d'.get? k = none)
    (more : ∀ k', d.get? k' = if k' = k then some v else d'.get? k') :
    d.entries.Perm ((k, v) :: d'.entries) := by
  have fresh : (k, v) ∉ d'.entries := by
    intro member
    cases absent.symm.trans (mem_entries_iff.mp member)
  have distinct : ((k, v) :: d'.entries).Nodup := List.nodup_cons.mpr ⟨fresh, d'.nodup_entries⟩
  refine (List.perm_ext_iff_of_nodup d.nodup_entries distinct).mpr ?_
  rintro ⟨k', v'⟩
  rw [mem_entries_iff, List.mem_cons, mem_entries_iff, more k']
  by_cases same : k' = k
  · simp [same, absent, eq_comm]
  · simp [same]

theorem perm_insert (d : Dict α) (k : String) (v : α) :
    (d.insert k v).entries.Perm ((k, v) :: (d.erase k).entries) := by
  refine perm_cons (by simp [get?_erase]) fun k' => ?_
  rw [get?_insert, get?_erase]
  by_cases same : k' = k
  · simp [same]
  · simp [same]

theorem erase_of_absent {d : Dict α} {k : String} (absent : d.get? k = none) : d.erase k = d := by
  refine ext (List.filter_eq_self.mpr ?_)
  rintro ⟨k', v⟩ member
  have other : k' ≠ k := by
    rintro rfl
    cases absent.symm.trans (mem_entries_iff.mp member)
  simpa using other

theorem perm_erase (d : Dict α) (k : String) :
    d.entries.Perm ((d.get? k).toList.map (Prod.mk k) ++ (d.erase k).entries) := by
  cases present : d.get? k with
  | none =>
    rw [erase_of_absent present]
    exact .refl _
  | some v =>
    refine perm_cons (by simp [get?_erase]) fun k' => ?_
    rw [get?_erase]
    by_cases same : k' = k
    · simp [same, present]
    · simp [same]

/-- A key beyond all others is set at the end. -/
theorem insertEntry_last (k : String) (v : α) {es : List (String × α)}
    (beyond : ∀ e ∈ es, e.1 < k) : insertEntry k v es = es ++ [(k, v)] := by
  induction es with
  | nil => rfl
  | cons e rest ih =>
    have first : e.1 < k := beyond e List.mem_cons_self
    have differs : k ≠ e.1 := by
      intro same
      rw [same] at first
      exact String.lt_irrefl e.1 first
    unfold insertEntry
    rw [if_neg (String.lt_asymm first), if_neg differs,
      ih fun e' member => beyond e' (List.mem_cons_of_mem e member)]
    rfl

theorem entries_foldl_insert (d : Dict α) (es : List (String × α))
    (ordered : Ordered (d.entries ++ es)) :
    (es.foldl (fun d e => d.insert e.1 e.2) d).entries = d.entries ++ es := by
  induction es generalizing d with
  | nil => simp
  | cons e rest ih =>
    have beyond : ∀ e' ∈ d.entries, e'.1 < e.1 := by
      intro e' member
      exact (List.pairwise_append.mp ordered).2.2 e' member e List.mem_cons_self
    have inserted : (d.insert e.1 e.2).entries = d.entries ++ [e] :=
      insertEntry_last e.1 e.2 beyond
    rw [List.append_cons] at ordered ⊢
    rw [← inserted] at ordered ⊢
    exact ih (d.insert e.1 e.2) ordered

theorem ofList_entries (d : Dict α) : ofList d.entries = d :=
  ext (entries_foldl_insert empty d.entries d.ordered)

/-- A dictionary is what is found in it. -/
theorem ext_get? {d d' : Dict α} (same : ∀ k, d.get? k = d'.get? k) : d = d' := by
  have members : d.entries.Perm d'.entries := by
    refine (List.perm_ext_iff_of_nodup d.nodup_entries d'.nodup_entries).mpr ?_
    rintro ⟨k, v⟩
    rw [mem_entries_iff, mem_entries_iff, same k]
  refine ext (members.eq_of_pairwise (fun a b _ _ below above => ?_) d.ordered d'.ordered)
  exact absurd (String.lt_trans below above) (String.lt_irrefl a.1)

theorem get?_mapValues {β : Type} (g : α → β) (d : Dict α) (k : String) :
    (d.mapValues g).get? k = (d.get? k).map g :=
  lookup_mapValues g k d.entries

end MachineFleet.Dict
