import MachineFleet.Proofs.Config.Sources

/-!
The value of a variable, resolved. A text and a switch follow their sources through every entry
point, with an environment variable and without: the first source that sets the variable or fails
decides, and what comes after it makes no difference.
-/

namespace MachineFleet.Resolver

variable {α : Type} {s : Source}

theorem first_text (v : StringVar) (r : Resolver) (rest : List Source) :
    Source.first (text v r) (.literal :: (v.refs.sources ++ rest)) =
      (r.string v).bind fun s => Source.orNext (Source.first (text v r) rest) (filled s) := by
  unfold string
  by_cases literal : v.value = ""
  · have unset : text v r .literal = .ok none := by rw [text, literal, filled_empty]
    rw [Source.first_of_unset unset, if_neg (by simp [literal])]
    rcases sources_cases r v.refs with ⟨none, referenced⟩ | ⟨s, t, one, referenced, given, -⟩
    · rw [none, referenced]
      rfl
    · rw [one, referenced, List.singleton_append, Source.first_cons, given]
      cases t <;> rfl
  · have set : text v r .literal = .ok (some v.value) := by rw [text, filled_of_ne literal]
    rw [Source.first_of_set set, if_pos (by simpa using literal)]
    exact congrArg (Source.orNext _) (filled_of_ne literal).symm

theorem string_follows (v : StringVar) :
    Follows (text v) (v.refs.order none) (·.getD "") (·.string v) := by
  refine .of (fun _ _ _ => text_congr) fun r => ?_
  rw [References.order, first_text]
  cases r.string v with
  | error e => rfl
  | ok s =>
    by_cases empty : s = ""
    · rw [empty]
      rfl
    · simp only [Except.bind, filled_of_ne empty, Source.orNext, Except.map, Option.getD_some]

theorem stringOrEnv_follows (v : StringVar) (name : String) :
    Follows (text v) (v.refs.order (some name)) (·.getD "") (·.stringOrEnv v name) := by
  refine .of (fun _ _ _ => text_congr) fun r => ?_
  rw [References.order, first_text, stringOrEnv]
  cases r.string v with
  | error e => rfl
  | ok s =>
    by_cases empty : s = ""
    · subst empty
      have last : Source.first (text v r) ((some name).map Source.environment).toList =
          .ok ((r.environment name).bind filled) := by
        refine (Source.first_cons _ _).trans ?_
        rw [text]
        cases (r.environment name).bind filled <;> rfl
      simp only [Except.bind, filled_empty, Source.orNext, last, Except.map]
      cases r.environment name with
      | none => rfl
      | some raw => exact congrArg Except.ok (getD_filled raw).symm
    · have kept : s.isEmpty = false := by simpa using empty
      simp only [Except.bind, filled_of_ne empty, Source.orNext, Except.map, Option.getD_some, bind,
        kept]
      rfl

theorem first_switch (b : BoolVar) (r : Resolver) (rest : List Source) :
    Source.first (switch b r) (.literal :: (b.refs.sources ++ rest)) =
      (r.bool? b).bind (Source.orNext (Source.first (switch b r) rest)) := by
  unfold bool?
  cases literal : b.value with
  | some x => exact Source.first_of_set (congrArg Except.ok literal)
  | none =>
    have unset : switch b r .literal = .ok none := congrArg Except.ok literal
    rw [Source.first_of_unset unset]
    rcases sources_cases r b.refs with ⟨none, referenced⟩ | ⟨s, t, one, referenced, -, given⟩
    · rw [none, referenced]
      rfl
    · rw [one, referenced, List.singleton_append, Source.first_cons, given]
      cases t with
      | error e => rfl
      | ok raw => dsimp only [Except.map, bind, Except.bind]

theorem bool?_eq (b : BoolVar) (r : Resolver) :
    r.bool? b = Source.first (switch b r) (b.refs.order none) := by
  rw [References.order, first_switch]
  cases r.bool? b with
  | error e => rfl
  | ok x => cases x <;> rfl

theorem boolOrEnv?_eq (b : BoolVar) (name : String) (r : Resolver) :
    r.boolOrEnv? b name =
      Source.first (switch b r) (b.refs.order (some name)) := by
  rw [References.order, first_switch, boolOrEnv?]
  cases r.bool? b with
  | error e => rfl
  | ok x =>
    cases x with
    | some x => rfl
    | none =>
      dsimp only [bind, Except.bind, Source.orNext, Option.map, Option.toList]
      rw [Source.first_cons, switch]
      cases r.environment name with
      | none => rfl
      | some raw =>
        by_cases empty : raw = ""
        · subst empty
          rfl
        · have kept : raw.isEmpty = false := by simpa using empty
          simp only [Option.bind, filled_of_ne empty, kept]
          cases parseBool raw <;> rfl

/-- The two entry points of a switch over some sources, without and with the report whether one of
them sets it. -/
theorem follows_found {ss : List Source} {entry : Resolver → Except ConfigError (Option Bool)}
    (decided : ∀ r, entry r = Source.first (switch b r) ss) :
    Follows (switch b) ss (·.getD false) (fun r => ((entry r).map found).map (·.1)) ∧
      Follows (switch b) ss found (fun r => (entry r).map found) := by
  refine ⟨.of (fun _ _ _ => switch_congr) fun r => ?_,
    .of (fun _ _ _ => switch_congr) fun r => congrArg (Except.map found) (decided r)⟩
  rw [← decided]
  cases entry r <;> rfl

theorem map_found_iff {m : Except ConfigError (Option Bool)} {x : Bool} :
    m.map found = .ok (x, false) ↔ x = false ∧ m = .ok none := by
  cases m with
  | error e => simp [Except.map]
  | ok y => cases y <;> simp [Except.map, found, eq_comm]

/-- A reference is never passed over: it fails, or it sets the switch. -/
theorem unset_sources_iff (b : BoolVar) (r : Resolver) :
    (∀ s ∈ b.refs.sources, switch b r s = .ok none) ↔ b.hasReference = false := by
  rw [BoolVar.hasReference, ← sources_eq_nil_iff]
  rcases sources_cases r b.refs with ⟨none, -⟩ | ⟨s, t, one, -, -, given⟩
  · simp [none]
  · have sets : switch b r s ≠ .ok none := by
      rw [given]
      cases t with
      | error e => exact nofun
      | ok raw =>
        dsimp only [bind, Except.bind]
        cases parseBool raw <;> exact nofun
    simp [one, sets]

theorem unset_environment_iff (b : BoolVar) (r : Resolver) (name : String) :
    switch b r (.environment name) = .ok none ↔ (r.environment name).getD "" = "" := by
  rw [switch]
  cases r.environment name with
  | none => exact ⟨fun _ => rfl, fun _ => rfl⟩
  | some raw =>
    by_cases empty : raw = ""
    · subst empty
      exact ⟨fun _ => rfl, fun _ => rfl⟩
    · simp only [Option.bind, filled_of_ne empty, Option.getD_some, empty, iff_false]
      cases parseBool raw with
      | error e =>
        intro unset
        cases unset
      | ok x =>
        intro unset
        cases unset

/-- Behind an unset literal, the reference that counts comes first. -/
theorem first_of_reference {read : Source → Except ConfigError (Option α)} {refs : References}
    (unset : read .literal = .ok none) (member : s ∈ refs.sources) (name : Option String) :
    Source.first read (refs.order name) =
      (read s).bind (Source.orNext (Source.first read (name.map Source.environment).toList)) := by
  rw [References.order, Source.first_of_unset unset, sources_eq_of_mem member,
    List.singleton_append, Source.first_cons]

/-- How a text is resolved, with an environment variable and without. -/
structure TextOrder (v : StringVar) (name : String) : Prop where
  bare : Follows (text v) (v.refs.order none) (·.getD "") (·.string v)
  withEnvironment : Follows (text v) (v.refs.order (some name)) (·.getD "") (·.stringOrEnv v name)
  /-- The failure of the reference that counts is final. -/
  failing : ∀ (r : Resolver) s e, v.value = "" → s ∈ v.refs.sources → text v r s = .error e →
    r.string v = .error e ∧ r.stringOrEnv v name = .error e
  /-- Behind a reference to an empty text comes the environment. -/
  passing : ∀ (r : Resolver) s, v.value = "" → s ∈ v.refs.sources → text v r s = .ok none →
    r.string v = .ok "" ∧ r.stringOrEnv v name = .ok ((r.environment name).getD "")

/-- How a switch is resolved, with an environment variable and without. -/
structure SwitchOrder (b : BoolVar) (name : String) : Prop where
  bare : Follows (switch b) (b.refs.order none) (·.getD false) (·.bool b)
  bareFound : Follows (switch b) (b.refs.order none) found (·.boolFound b)
  withEnvironment : Follows (switch b) (b.refs.order (some name)) (·.getD false)
    (·.boolOrEnv b name)
  withEnvironmentFound : Follows (switch b) (b.refs.order (some name)) found
    (·.boolOrEnvFound b name)
  /-- The failure of the reference that counts is final. -/
  failing : ∀ (r : Resolver) s e, b.value = none → s ∈ b.refs.sources → switch b r s = .error e →
    r.bool b = .error e ∧ r.boolFound b = .error e ∧
      r.boolOrEnv b name = .error e ∧ r.boolOrEnvFound b name = .error e
  /-- Only a switch that no source sets is reported as not found, and it is off. -/
  missing : ∀ (r : Resolver) x,
    (r.boolFound b = .ok (x, false) ↔ x = false ∧ b.value = none ∧ b.hasReference = false) ∧
    (r.boolOrEnvFound b name = .ok (x, false) ↔
      x = false ∧ b.value = none ∧ b.hasReference = false ∧ (r.environment name).getD "" = "")
  /-- A literal is found, off as well as on. -/
  literal : ∀ (r : Resolver) x, b.value = some x →
    r.boolFound b = .ok (x, true) ∧ r.boolOrEnvFound b name = .ok (x, true)
  /-- What is referenced is found, off as well as on. -/
  resolved : ∀ (r : Resolver) s x, b.value = none → s ∈ b.refs.sources →
    switch b r s = .ok (some x) →
      r.boolFound b = .ok (x, true) ∧ r.boolOrEnvFound b name = .ok (x, true)

theorem text_order (v : StringVar) (name : String) : TextOrder v name where
  bare := string_follows v
  withEnvironment := stringOrEnv_follows v name
  failing := by
    intro r s e literal member failed
    have unset : text v r .literal = .ok none := by rw [text, literal, filled_empty]
    rw [(string_follows v).decided, (stringOrEnv_follows v name).decided,
      first_of_reference unset member, first_of_reference unset member, failed]
    exact ⟨rfl, rfl⟩
  passing := by
    intro r s literal member empty
    have unset : text v r .literal = .ok none := by rw [text, literal, filled_empty]
    have plain : r.string v = .ok "" := by
      rw [(string_follows v).decided, first_of_reference unset member, empty]
      rfl
    refine ⟨plain, ?_⟩
    rw [stringOrEnv, plain]
    rfl

theorem switch_order (b : BoolVar) (name : String) : SwitchOrder b name where
  bare := (follows_found (bool?_eq b)).1
  bareFound := (follows_found (bool?_eq b)).2
  withEnvironment := (follows_found (boolOrEnv?_eq b name)).1
  withEnvironmentFound := (follows_found (boolOrEnv?_eq b name)).2
  failing := by
    intro r s e literal member failed
    have unset : switch b r .literal = .ok none := congrArg Except.ok literal
    rw [bool, boolOrEnv, boolFound, boolOrEnvFound, bool?_eq, boolOrEnv?_eq,
      first_of_reference unset member, first_of_reference unset member, failed]
    exact ⟨rfl, rfl, rfl, rfl⟩
  missing := by
    intro r x
    have literal : switch b r .literal = .ok none ↔ b.value = none := by simp [switch]
    rw [boolFound, boolOrEnvFound, bool?_eq, boolOrEnv?_eq, map_found_iff, map_found_iff,
      Source.first_eq_none_iff, Source.first_eq_none_iff, References.order, References.order]
    simp only [List.forall_mem_cons, List.forall_mem_append, literal, unset_sources_iff]
    simp [unset_environment_iff]
  literal := by
    intro r x literal
    have set : switch b r .literal = .ok (some x) := congrArg Except.ok literal
    rw [boolFound, boolOrEnvFound, bool?_eq, boolOrEnv?_eq, References.order, References.order,
      Source.first_of_set set, Source.first_of_set set]
    exact ⟨rfl, rfl⟩
  resolved := by
    intro r s x literal member set
    have unset : switch b r .literal = .ok none := congrArg Except.ok literal
    rw [boolFound, boolOrEnvFound, bool?_eq, boolOrEnv?_eq, first_of_reference unset member,
      first_of_reference unset member, set]
    exact ⟨rfl, rfl⟩

/-- A variable takes its value from the first of its sources that sets it: the literal, the secret,
the config map where no secret is referenced, the environment. Where that source fails so does the
resolution, and nothing behind it counts. -/
theorem sources_decide_in_order (v : StringVar) (b : BoolVar) (name : String) :
    TextOrder v name ∧ SwitchOrder b name :=
  ⟨text_order v name, switch_order b name⟩

/-- A secret with an empty text before a config map and an environment with one. -/
def shadowing : Resolver where
  store := some (.ofObjects
    [⟨"kube-system", "cloud", .ofTexts "Opaque" (.ofList [("token", "")])⟩]
    [⟨"kube-system", "cloud", ⟨.ofList [("token", "from-map")]⟩⟩])
  environment _ := some "from-environment"

def shadowedToken : StringVar where
  refs := { secret := some ⟨"kube-system", "cloud", "token"⟩
            configMap := some ⟨"kube-system", "cloud", "token"⟩ }

theorem empty_secret_leaves_environment :
    text shadowedToken shadowing (.secret ⟨"kube-system", "cloud", "token"⟩) = .ok none ∧
      shadowing.stringOrEnv shadowedToken "TOKEN" = .ok "from-environment" := by
  have empty : text shadowedToken shadowing (.secret ⟨"kube-system", "cloud", "token"⟩) =
      .ok none := by decide +kernel
  have passed := (sources_decide_in_order shadowedToken {} "TOKEN").1.passing shadowing _ rfl
    List.mem_cons_self empty
  exact ⟨empty, passed.2⟩

end MachineFleet.Resolver
