import MachineFleet.Proofs.Toml.Edit

/-!
What is written for a document is read as that document, if in each of its tables the values stand
before the tables.
-/

namespace MachineFleet.Toml

variable {f : Edit} {es : Entries} {k : String} {path : List String}

def own (entries : Entries) : Entries := entries.filter fun e => !e.2.isTable

def tables (entries : Entries) : Entries := entries.filter fun e => e.2.isTable

theorem split_of_single (single : ∀ e ∈ es, e.2.isTable = false) :
    own es = es ∧ tables es = [] :=
  ⟨List.filter_eq_self.mpr fun e member => by simp [single e member],
    List.filter_eq_nil_iff.mpr fun e member => by simp [single e member]⟩

theorem split_of_table (kind : ∀ e ∈ es, e.2.isTable = true) : own es = [] ∧ tables es = es :=
  ⟨List.filter_eq_nil_iff.mpr fun e member => by simp [kind e member],
    List.filter_eq_self.mpr fun e member => by simp [kind e member]⟩

mutual

def parts (path : List String) : Toml → List Part
  | .table entries =>
    (if hasHeader entries then [(path, own entries)] else []) ++ partsBelow path entries
  | _ => []

def partsBelow (path : List String) : List (String × Toml) → List Part
  | [] => []
  | (k, v) :: rest => parts (path ++ [k]) v ++ partsBelow path rest

end

def Part.text (p : Part) : List Char := header p.1 ++ ownLines p.2

def Part.statements (p : Part) : List Statement := .header p.1 :: p.2.map .entry

theorem ownLines_own (entries : Entries) : ownLines (own entries) = ownLines entries := by
  induction entries with
  | nil => rfl
  | cons e rest ih =>
    obtain ⟨k, v⟩ := e
    unfold own at ih ⊢
    cases single : v.isTable <;> simp [ownLines, single, ih]

mutual

theorem sections_eq : ∀ (path : List String) (v : Toml),
    sections path v = (parts path v).map Part.text
  | path, .table entries => by
    rw [sections, parts, subsections_eq path entries, List.map_append]
    split
    · rw [List.map_singleton, Part.text, ownLines_own]
    · rfl
  | _, .str _ => rfl
  | _, .int _ => rfl
  | _, .bool _ => rfl
  | _, .strings _ => rfl

theorem subsections_eq : ∀ (path : List String) (entries : List (String × Toml)),
    subsections path entries = (partsBelow path entries).map Part.text
  | _, [] => rfl
  | path, (k, v) :: rest => by
    rw [subsections, partsBelow, sections_eq (path ++ [k]) v, subsections_eq path rest,
      List.map_append]

end

/-- Under the header there are values only, and the table of that header is in the one of the
path. -/
structure Part.Fits (path : List String) (p : Part) : Prop where
  inner : path <+: p.1
  single : ∀ e ∈ p.2, e.2.isTable = false
  fit : fitsAll p.2 = true

theorem fitsAll_own (fit : fitsAll es = true) : fitsAll (own es) = true := by
  induction es with
  | nil => rfl
  | cons e es ih =>
    obtain ⟨k, v⟩ := e
    rw [fitsAll, Bool.and_eq_true] at fit
    unfold own at ih ⊢
    cases single : v.isTable <;> simp [single, fitsAll, fit.1, ih fit.2]

theorem single_own {e : String × Toml} (member : e ∈ own es) : e.2.isTable = false := by
  simpa using (List.mem_filter.mp member).2

mutual

theorem parts_fit : ∀ (path : List String) (v : Toml), fits v = true →
    ∀ p ∈ parts path v, p.Fits path
  | path, .table entries, fit, p, member => by
    rw [parts, List.mem_append] at member
    rcases member with here | below
    · split at here
      · rw [List.mem_singleton.mp here]
        exact ⟨List.prefix_refl path, fun e => single_own, fitsAll_own fit⟩
      · cases here
    · obtain ⟨k, _, fits⟩ := partsBelow_fit path entries fit p below
      exact { fits with inner := (List.prefix_append path [k]).trans fits.inner }
  | _, .str _, _, _, member => by cases member
  | _, .int _, _, _, member => by cases member
  | _, .bool _, _, _, member => by cases member
  | _, .strings _, _, _, member => by cases member

theorem partsBelow_fit : ∀ (path : List String) (entries : List (String × Toml)),
    fitsAll entries = true → ∀ p ∈ partsBelow path entries,
      ∃ k ∈ entries.map (·.1), p.Fits (path ++ [k])
  | _, [], _, _, member => by cases member
  | path, (k, v) :: rest, fit, p, member => by
    rw [fitsAll, Bool.and_eq_true] at fit
    rw [partsBelow, List.mem_append] at member
    rcases member with first | later
    · exact ⟨k, List.mem_cons_self, parts_fit (path ++ [k]) v fit.1 p first⟩
    · obtain ⟨k', known, fits⟩ := partsBelow_fit path rest fit.2 p later
      exact ⟨k', List.mem_cons_of_mem k known, fits⟩

end

theorem states_part {p : Part} (filled : path ≠ []) (fits : p.Fits path) :
    States p.text p.statements := by
  have named : p.1 ≠ [] := by
    intro none
    exact filled (List.prefix_nil.mp (none ▸ fits.inner))
  exact (states_header named).append (states_ownLines fits.single fits.fit)

theorem states_documentText (fit : fitsAll es = true) : States (documentText es)
    ((own es).map .entry ++ (partsBelow [] es).flatMap Part.statements) := by
  have lines := states_ownLines (fun e => single_own) (fitsAll_own fit)
  rw [ownLines_own] at lines
  have below : ∀ p ∈ partsBelow [] es, States p.text p.statements := by
    intro p member
    obtain ⟨k, _, fits⟩ := partsBelow_fit [] es fit p member
    exact states_part (List.concat_ne_nil k []) fits
  rw [documentText, subsections_eq]
  by_cases empty : ownLines es = []
  · rw [empty] at lines ⊢
    rw [lines.unique states_nil]
    exact states_joinWith below
  · have each : ∀ x ∈ (ownLines es, (own es).map Statement.entry) ::
        (partsBelow [] es).map fun p => (p.text, p.statements), States x.1 x.2 := by
      refine List.forall_mem_cons.mpr ⟨lines, fun x member => ?_⟩
      obtain ⟨p, known, rfl⟩ := List.mem_map.mp member
      exact below p known
    have whole := states_joinWith each
    simpa [empty, Function.comp_def, List.flatMap_map] using whole

theorem grouped_entries (values : Entries) (rest : List Statement) :
    grouped (values.map .entry ++ rest) = (values ++ (grouped rest).1, (grouped rest).2) := by
  induction values with
  | nil => rfl
  | cons e values ih => rw [List.map_cons, List.cons_append, grouped, ih]; rfl

theorem grouped_parts (parts : List Part) :
    grouped (parts.flatMap Part.statements) = ([], parts) := by
  induction parts with
  | nil => rfl
  | cons p parts ih =>
    rw [List.flatMap_cons, Part.statements, List.cons_append, grouped, grouped_entries, ih,
      List.append_nil]

mutual

/-- The change of a table that the parts of a table make. -/
def content : Toml → Edit
  | .table entries => (Edit.fill (own entries)).andThen (contentBelow entries)
  | _ => some

def contentBelow : List (String × Toml) → Edit
  | [] => some
  | (k, v) :: rest =>
    Edit.andThen (if v.isTable then inTable k (content v) else some) (contentBelow rest)

end

theorem tables_of_headless (headless : ¬ hasHeader es = true) :
    ∃ e rest, es = e :: rest ∧ e.2.isTable = true ∧ own es = [] := by
  simp only [hasHeader, Bool.or_eq_true, not_or, List.any_eq_true, not_exists, not_and,
    Bool.not_eq_true', Bool.not_eq_false, List.isEmpty_iff] at headless
  obtain ⟨e, rest, rfl⟩ := List.exists_cons_of_ne_nil headless.1
  exact ⟨e, rest, rfl, headless.2 e List.mem_cons_self, (split_of_table headless.2).1⟩

theorem parts_of_single {v : Toml} (single : v.isTable = false) : parts path v = [] := by
  cases v with
  | table => cases single
  | _ => rfl

mutual

theorem build_parts : ∀ (path : List String) (v : Toml), v.isTable = true →
    build (parts path v) = within path (content v)
  | path, .table entries, _ => by
    rw [parts, content]
    split
    · rw [List.singleton_append, build, (build_partsBelow path entries).1]
    · rename_i headless
      obtain ⟨e, rest, rfl, single, flat⟩ := tables_of_headless headless
      rw [List.nil_append, (build_partsBelow path (e :: rest)).2 e rest rfl single, flat]
      rfl
  | _, .str _, kind => by cases kind
  | _, .int _, kind => by cases kind
  | _, .bool _, kind => by cases kind
  | _, .strings _, kind => by cases kind

/-- The tables below one that is there already, or that the first of them makes. -/
theorem build_partsBelow : ∀ (path : List String) (entries : List (String × Toml)),
    (∀ f, (within path f).andThen (build (partsBelow path entries)) =
      within path (f.andThen (contentBelow entries))) ∧
    ∀ e rest, entries = e :: rest → e.2.isTable = true →
      build (partsBelow path entries) = within path (contentBelow entries)
  | _, [] => by
    refine ⟨fun f => ?_, fun _ _ => nofun⟩
    rw [partsBelow, build, contentBelow, Edit.andThen_some, Edit.andThen_some]
  | path, (k, v) :: rest => by
    -- Whatever the first table needs, the table of the path is there for the others.
    have later := (build_partsBelow path rest).1
    cases kind : v.isTable with
    | false =>
      refine ⟨fun f => ?_, ?_⟩
      · rw [partsBelow, parts_of_single kind, List.nil_append, contentBelow,
          if_neg (by simp [kind])]
        exact later f
      · rintro _ _ ⟨⟩ single
        cases kind.symm.trans single
    | true =>
      have whole : build (partsBelow path ((k, v) :: rest)) =
          (within path (inTable k (content v))).andThen (build (partsBelow path rest)) := by
        rw [partsBelow, build_append, build_parts (path ++ [k]) v kind, within_concat]
      rw [whole, contentBelow, if_pos kind]
      refine ⟨fun f => ?_, fun _ _ _ _ => later _⟩
      rw [← Edit.andThen_assoc, within_andThen, later, Edit.andThen_assoc]

end

mutual

/-- In every table no key stands twice, and the values stand before the tables. -/
def Arranged : Toml → Prop
  | .table entries =>
    (entries.map (·.1)).Nodup ∧ own entries ++ tables entries = entries ∧ ArrangedBelow entries
  | _ => True

def ArrangedBelow : List (String × Toml) → Prop
  | [] => True
  | (_, v) :: rest => Arranged v ∧ ArrangedBelow rest

end

theorem arrangedBelow_iff {entries : Entries} :
    ArrangedBelow entries ↔ ∀ e ∈ entries, Arranged e.2 := by
  induction entries with
  | nil => simp [ArrangedBelow]
  | cons e rest ih => rw [ArrangedBelow, ih, List.forall_mem_cons]

theorem arranged_of_single {v : Toml} (single : v.isTable = false) : Arranged v := by
  cases v with
  | table => cases single
  | _ => trivial

theorem arranged_append {a b : Entries} (single : ∀ e ∈ a, e.2.isTable = false)
    (kind : ∀ e ∈ b, e.2.isTable = true) (below : ∀ e ∈ b, Arranged e.2)
    (distinct : ((a ++ b).map (·.1)).Nodup) : Arranged (.table (a ++ b)) := by
  refine ⟨distinct, ?_, arrangedBelow_iff.mpr fun e member => ?_⟩
  · obtain ⟨values, none⟩ := split_of_single single
    obtain ⟨none', subs⟩ := split_of_table kind
    unfold own tables at *
    rw [List.filter_append, List.filter_append, values, none, none', subs, List.append_nil,
      List.nil_append]
  · rcases List.mem_append.mp member with first | later
    · exact arranged_of_single (single e first)
    · exact below e later

theorem arranged_singleton (k : String) {v : Toml} (arranged : Arranged v) :
    Arranged (.table [(k, v)]) := by
  cases kind : v.isTable with
  | false =>
    exact arranged_append (a := [(k, v)]) (b := []) (by simpa using kind) (by simp) (by simp)
      (by simp)
  | true =>
    exact arranged_append (a := []) (b := [(k, v)]) (by simp) (by simpa using kind)
      (by simpa using arranged) (by simp)

mutual

theorem content_eq : ∀ v : Toml, v.isTable = true → Arranged v →
    (content v []).map .table = some v
  | .table entries, _, arranged => by
    obtain ⟨distinct, order, below⟩ := arranged
    have whole : ((own entries ++ tables entries).map (·.1)).Nodup := by rwa [order]
    have first : ((([] : Entries) ++ own entries).map (·.1)).Nodup := by
      rw [List.map_append] at whole
      exact (List.nodup_append.mp whole).1
    rw [content, Edit.andThen, fill_eq first, Option.bind_some, List.nil_append,
      contentBelow_eq entries (own entries) below whole, order]
    rfl
  | .str _, kind, _ => by cases kind
  | .int _, kind, _ => by cases kind
  | .bool _, kind, _ => by cases kind
  | .strings _, kind, _ => by cases kind

theorem contentBelow_eq : ∀ (entries : List (String × Toml)) (t : Entries),
    ArrangedBelow entries → ((t ++ tables entries).map (·.1)).Nodup →
      contentBelow entries t = some (t ++ tables entries)
  | [], t, _, _ => by rw [contentBelow, tables, List.filter_nil, List.append_nil]
  | (k, v) :: rest, t, arranged, distinct => by
    cases kind : v.isTable with
    | false =>
      have skipped : tables ((k, v) :: rest) = tables rest := by simp [tables, kind]
      rw [skipped] at distinct ⊢
      rw [contentBelow, if_neg (by simp [kind]), Edit.some_andThen]
      exact contentBelow_eq rest t arranged.2 distinct
    | true =>
      have first : tables ((k, v) :: rest) = (k, v) :: tables rest := by simp [tables, kind]
      rw [first] at distinct ⊢
      have fresh := fresh_of_nodup distinct
      have made : inTable k (content v) t = some (t ++ [(k, v)]) := by
        have inner := congrArg (Option.map fun u => t ++ [(k, u)])
          (content_eq v kind arranged.1)
        rw [Option.map_map] at inner
        exact (inTable_fresh fresh).trans inner
      rw [List.append_cons] at distinct ⊢
      rw [contentBelow, if_pos kind, Edit.andThen, made, Option.bind_some]
      exact contentBelow_eq rest _ arranged.2 distinct

end

theorem content_table {entries : Entries} (arranged : Arranged (.table entries)) :
    content (.table entries) [] = some entries := by
  obtain ⟨t, made, same⟩ := Option.map_eq_some_iff.mp (content_eq (.table entries) rfl arranged)
  cases same
  exact made

mutual

theorem nodup_parts : ∀ (path : List String) (v : Toml), Arranged v → fits v = true →
    ((parts path v).map (·.1)).Nodup
  | path, .table entries, arranged, fit => by
    have below := nodup_partsBelow path entries arranged.1 arranged.2.2 fit
    rw [parts]
    split
    · refine List.nodup_cons.mpr ⟨fun member => ?_, below⟩
      obtain ⟨p, known, same⟩ := List.mem_map.mp member
      obtain ⟨k, _, fits⟩ := partsBelow_fit path entries fit p known
      change p.1 = path at same
      have longer := fits.inner.length_le
      rw [same, List.length_append, List.length_singleton] at longer
      omega
    · exact below
  | _, .str _, _, _ => List.nodup_nil
  | _, .int _, _, _ => List.nodup_nil
  | _, .bool _, _, _ => List.nodup_nil
  | _, .strings _, _, _ => List.nodup_nil

theorem nodup_partsBelow : ∀ (path : List String) (entries : List (String × Toml)),
    (entries.map (·.1)).Nodup → ArrangedBelow entries → fitsAll entries = true →
      ((partsBelow path entries).map (·.1)).Nodup
  | _, [], _, _, _ => List.nodup_nil
  | path, (k, v) :: rest, distinct, arranged, fit => by
    obtain ⟨fresh, distinct⟩ := List.nodup_cons.mp distinct
    rw [fitsAll, Bool.and_eq_true] at fit
    rw [partsBelow, List.map_append]
    refine List.nodup_append.mpr ⟨nodup_parts (path ++ [k]) v arranged.1 fit.1,
      nodup_partsBelow path rest distinct arranged.2 fit.2, ?_⟩
    rintro _ first _ later rfl
    obtain ⟨p, here, rfl⟩ := List.mem_map.mp first
    obtain ⟨p', there, same⟩ := List.mem_map.mp later
    have inner := (parts_fit (path ++ [k]) v fit.1 p here).inner
    obtain ⟨k', known, fits⟩ := partsBelow_fit path rest fit.2 p' there
    have equal := List.prefix_of_prefix_length_le inner (same ▸ fits.inner) (by simp)
    have key : k = k' := by simpa using equal.eq_of_length (by simp)
    exact fresh (key ▸ known)

end

/-- What is written for a document is read as that document. -/
theorem read_documentText {entries : Entries} (arranged : Arranged (.table entries))
    (fit : fitsAll entries = true) : read (documentText entries) = some entries := by
  have whole : grouped ((own entries).map .entry ++
      (partsBelow [] entries).flatMap Part.statements) = (own entries, partsBelow [] entries) := by
    rw [grouped_entries, grouped_parts, List.append_nil]
  have distinct := nodup_partsBelow [] entries arranged.1 arranged.2.2 fit
  have built := (build_partsBelow [] entries).1 (.fill (own entries))
  rw [read, (states_documentText fit).whole]
  simp only [Option.bind_eq_bind, Option.bind_some, whole, if_pos distinct]
  exact (congrFun built []).trans (content_table arranged)

example : read "[a.'b c']\nd = [\"x\", 'y',] # e".toList =
    some [("a", .table [("b c", .table [("d", .strings ["x", "y"])])])] := by cbv

example : read "[a]\nb = 'c'\nb = 'd'".toList = none := by cbv

end MachineFleet.Toml
