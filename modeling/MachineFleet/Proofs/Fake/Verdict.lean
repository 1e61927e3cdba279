import MachineFleet.Fake
import MachineFleet.Proofs.Cloud.Section
import MachineFleet.Proofs.Cloud.ValidationCache

/-!
What the validation of the cloud in memory depends on. Its verdict is a function of the text that
identifies the provider section, but for the name that it shows of a machine without one.
-/

namespace MachineFleet.Fake

open Json

variable {f : Binary64 → Binary64} {r : Resolver} {s s' : MachineSpec} {v v' : Json}

section Readers

variable (texts : ∀ x, Decimal.format (f x) = Decimal.format x)
include texts

theorem faithful_keyRef : Faithful f Eq KeyRef.reader := by
  have strings : Faithful f Eq Reader.string := faithful_string texts
  exact (((RecordReader.Faithful.of rfl).orElse_eq strings "namespace").orElse_eq strings
    "name").orElse_eq strings "key" |>.read texts "KeySelector"

theorem faithful_switch : Faithful f Eq BoolVar.reader := by
  have bools : Faithful f Eq Reader.bool := faithful_bool texts
  have refs : Faithful f Eq KeyRef.reader := faithful_keyRef texts
  have literals : Faithful f Eq (fun d => (Reader.bool d).map BoolVar.literal) := fun d =>
    (bools d).map fun _ _ same => congrArg BoolVar.literal same
  refine faithful_variable literals ?_
  exact (((RecordReader.Faithful.of rfl).orElse_eq bools.option "value").orElse_eq refs.option
    "secretKeyRef").orElse_eq refs.option "configMapKeyRef" |>.read texts "Variable"

theorem faithful_spec : Faithful f Eq Spec.reader := by
  have reasons : Faithful f Eq ErrorReason.reader := faithful_oneOf texts _
  exact (((RecordReader.Faithful.of rfl).orElse_eq (faithful_switch texts)
    "passValidation").orElse_eq (faithful_natural texts 32 "u32")
    "addressAfterPolls").orElse_eq reasons.option "createError" |>.read texts "FakeProviderSpec"

end Readers

/-- The verdict on a provider section. -/
def verdict (r : Resolver) (v : Json) : Except CloudError Unit := check r { provider := some v }

theorem check_eq_verdict (present : s.provider = some v) : check r s = verdict r v := by
  simp only [verdict, check, payload, ProviderConfig.requirePayload, ProviderConfig.require,
    ProviderConfig.ofSpec, present]

/-- The verdict on an envelope that has been read. -/
def inspect (r : Resolver) (c : ProviderConfig) : Except CloudError Unit :=
  if c.operatingSystem.isSupported then
    match decode Spec.reader (ProviderConfig.payload c.cloudProviderSpec) with
    | .error e => .error (.invalidConfiguration ("failed to parse fake spec: " ++
        (SpecError.invalidCloudProviderSpec c.cloudProvider.name e).message))
    | .ok s =>
      match r.bool? s.passValidation with
      | .error e => .error (.config e)
      | .ok (some false) => .error (.invalidConfiguration "failing validation as requested")
      | .ok _ => .ok ()
  else
    .error (.invalidConfiguration
      ("unsupported operating system '" ++ c.operatingSystem.name ++ "'"))

theorem verdict_of_refused {e : DecodeError} (refused : decode ProviderConfig.reader v = .error e) :
    verdict r v = .error (.invalidConfiguration ("failed to parse provider config: " ++
      ("failed to decode providerSpec: " ++ e.message))) := by
  simp only [verdict, check, ProviderConfig.require, ProviderConfig.ofSpec, refused]
  rfl

theorem verdict_of_read {c : ProviderConfig} (read : decode ProviderConfig.reader v = .ok c) :
    verdict r v = inspect r c := by
  have envelope : ProviderConfig.require { provider := some v } = .ok c := by
    simp only [ProviderConfig.require, ProviderConfig.ofSpec, read]
    rfl
  unfold verdict check inspect payload ProviderConfig.requirePayload ProviderConfig.readCloudSpec
  rw [envelope]
  simp only [bind, Except.bind]
  cases c.operatingSystem.isSupported with
  | false => rfl
  | true =>
    cases decode Spec.reader (ProviderConfig.payload c.cloudProviderSpec) with
    | error e => rfl
    | ok s =>
      simp only [Except.mapError, pure, Except.pure, Bool.not_true, Bool.false_eq_true, if_false,
        if_true]
      cases r.bool? s.passValidation with
      | error e => rfl
      | ok pass => rcases pass with _ | _ | _ <;> rfl

theorem inspect_refloated (texts : ∀ x, Decimal.format (f x) = Decimal.format x)
    {c c' : ProviderConfig} (related : ProviderConfig.Refloated f c c') :
    inspect r c' = inspect r c := by
  obtain rfl := related
  have payload_mapFloats : ProviderConfig.payload (c.cloudProviderSpec.mapFloats f) =
      (ProviderConfig.payload c.cloudProviderSpec).mapFloats f := by
    cases c.cloudProviderSpec <;> rfl
  have payloads := (faithful_spec texts).decode (ProviderConfig.payload c.cloudProviderSpec)
  unfold inspect
  dsimp only
  rw [payload_mapFloats]
  rcases payloads.cases with ⟨s, _, read, read', rfl⟩ | ⟨e, e', refused, refused', words⟩
  · rw [read', read]
  · rw [refused', refused]
    dsimp only
    have same : (SpecError.invalidCloudProviderSpec c.cloudProvider.name e').message =
        (SpecError.invalidCloudProviderSpec c.cloudProvider.name e).message :=
      congrArg (_ ++ ·) words.symm
    rw [same]

theorem verdict_mapFloats (texts : ∀ x, Decimal.format (f x) = Decimal.format x) (v : Json) :
    verdict r (v.mapFloats f) = verdict r v := by
  rcases ((ProviderConfig.faithful_reader texts).decode v).cases with
    ⟨c, c', read, read', related⟩ | ⟨e, e', refused, refused', words⟩
  · rw [verdict_of_read read, verdict_of_read read', inspect_refloated texts related]
  · rw [verdict_of_refused refused, verdict_of_refused refused', words]

/-- Sections in order with one text have one verdict. -/
theorem check_eq_of_text (order : s.InOrder) (order' : s'.InOrder) (present : s.provider = some v)
    (present' : s'.provider = some v')
    (same : ValidationCache.canonicalText s = ValidationCache.canonicalText s') :
    check r s = check r s' := by
  have told := ValidationCache.section_tells order order' present present' same
  calc
    check r s = verdict r (v.mapFloats standIn) := by
      rw [check_eq_verdict present, verdict_mapFloats format_standIn]
    _ = check r s' := by rw [told, verdict_mapFloats format_standIn, check_eq_verdict present']

theorem check_of_missing (missing : s.provider = none) :
    check r s = .error (.invalidConfiguration ("failed to parse provider config: " ++
      ("machine " ++ s.metadata.name.getD "<unnamed>" ++ " has no providerSpec.value"))) := by
  simp only [check, ProviderConfig.require, ProviderConfig.ofSpec, missing]
  rfl

theorem inspect_shape (r : Resolver) (c : ProviderConfig) :
    inspect r c = .ok () ∨ (∃ m, inspect r c = .error (.invalidConfiguration m)) ∨
      ∃ e, inspect r c = .error (.config e) := by
  unfold inspect
  split
  · split
    · exact .inr (.inl ⟨_, rfl⟩)
    split
    · exact .inr (.inr ⟨_, rfl⟩)
    · exact .inr (.inl ⟨_, rfl⟩)
    · exact .inl rfl
  · exact .inr (.inl ⟨_, rfl⟩)

/-- A rejection is an invalid configuration, unless a value behind a reference is missing. -/
theorem check_shape (r : Resolver) (s : MachineSpec) :
    check r s = .ok () ∨ (∃ m, check r s = .error (.invalidConfiguration m)) ∨
      ∃ e, check r s = .error (.config e) := by
  cases section_ : s.provider with
  | none => exact .inr (.inl ⟨_, check_of_missing section_⟩)
  | some v =>
    rw [check_eq_verdict section_]
    cases read : decode ProviderConfig.reader v with
    | error e => exact .inr (.inl ⟨_, verdict_of_refused read⟩)
    | ok c =>
      rw [verdict_of_read read]
      exact inspect_shape r c

/-- What a cache keeps of a verdict is all of it. -/
theorem answer_of_outcome? {o : ValidationOutcome}
    (kept : ValidationCache.outcome? (check r s) = some o) : o.answer = check r s := by
  rcases check_shape r s with passed | ⟨m, rejected⟩ | ⟨e, deferred⟩
  · rw [passed] at kept ⊢
    cases kept
    rfl
  · rw [rejected] at kept ⊢
    cases kept
    rfl
  · rw [deferred] at kept
    cases kept

/-- The name that the verdict on a machine without a provider section shows. -/
def shownName? (s : MachineSpec) : Option String :=
  match s.provider with
  | none => some (s.metadata.name.getD "<unnamed>")
  | some _ => none

/-- What a failure means, whatever its words. -/
def blame? : Except CloudError Unit → Option (ErrorClass × Option ErrorReason)
  | .ok () => none
  | .error e => some (e.classify, e.terminal?.map TerminalError.reason)

theorem blame?_rejected (m : String) : blame? (.error (.invalidConfiguration m)) =
    some (.terminal, some .invalidConfiguration) := rfl

/-- How the answers about two specifications compare, also where that about the first is kept in a
cache and repeated about the second. -/
structure Alike (r : Resolver) (s s' : MachineSpec) (state state' : State) : Prop where
  blame : blame? (validate r s state).1 = blame? (validate r s' state').1
  words : (validate r s state).1 = (validate r s' state').1 ↔ shownName? s = shownName? s'
  repeated : ∀ (c : ValidationCache) (now later : Nat) (kept o : ValidationOutcome), now ≤ later →
    ValidationCache.outcome? (validate r s state).1 = some kept →
    ((c.record now s (validate r s state).1).get later s').1 = some o →
    (o.answer = (validate r s' state').1 ↔ shownName? s = shownName? s')

theorem validate_fst {state : State} (quiet : state.failNext = false) :
    (validate r s state).1 = check r s := by
  simp only [validate, quiet, Bool.false_eq_true, if_false]

/-- A section with the text of a missing one is `null`. -/
theorem eq_null_of_text (missing : s.provider = none) (present : s'.provider = some v)
    (same : ValidationCache.canonicalText s = ValidationCache.canonicalText s') : v = .null := by
  simp only [ValidationCache.canonicalText, missing, present] at same
  have told : Json.null.mapFloats standIn = v.sorted.mapFloats standIn := compact_tells same
  cases v with
  | null => rfl
  | _ => cases told

theorem verdict_null : verdict r .null = .error (.invalidConfiguration
    ("failed to parse provider config: " ++ ("failed to decode providerSpec: " ++
      (DecodeError.invalidType .null "struct ProviderConfig").message))) :=
  verdict_of_refused rfl

theorem refusal_inj {a b : String}
    (same : (.error (.invalidConfiguration ("failed to parse provider config: " ++ a)) :
      Except CloudError Unit) =
      .error (.invalidConfiguration ("failed to parse provider config: " ++ b))) : a = b := by
  have terminal := CloudError.terminal.inj (Except.error.inj same)
  exact (String.append_right_inj _).mp (TerminalError.mk.inj terminal).2

theorem check_missing_inj (missing : s.provider = none) (missing' : s'.provider = none) :
    check r s = check r s' ↔
      s.metadata.name.getD "<unnamed>" = s'.metadata.name.getD "<unnamed>" := by
  rw [check_of_missing missing, check_of_missing missing']
  constructor
  · intro same
    have texts := refusal_inj same
    exact (String.append_right_inj _).mp ((String.append_left_inj _).mp texts)
  · intro names
    rw [names]

/-- A section that is missing and one that is `null` are refused in other words. -/
theorem check_missing_ne (missing : s.provider = none) (present : s'.provider = some .null) :
    check r s ≠ check r s' := by
  rw [check_of_missing missing, check_eq_verdict present, verdict_null]
  intro same
  have heads := congrArg (fun t => t.toList.head?) (refusal_inj same)
  simp at heads

/-- Only a missing section and one that is `null` have the text of a missing one. -/
theorem check_compares_of_missing (missing : s.provider = none)
    (same : ValidationCache.canonicalText s = ValidationCache.canonicalText s') :
    blame? (check r s) = blame? (check r s') ∧
      (check r s = check r s' ↔ shownName? s = shownName? s') := by
  cases second : s'.provider with
  | none =>
    constructor
    · rw [check_of_missing missing, check_of_missing second, blame?_rejected, blame?_rejected]
    · simp only [check_missing_inj missing second, shownName?, missing, second,
        Option.some.injEq]
  | some v =>
    obtain rfl := eq_null_of_text missing second same
    constructor
    · rw [check_of_missing missing, check_eq_verdict second, verdict_null, blame?_rejected,
        blame?_rejected]
    · simp only [check_missing_ne missing second, shownName?, missing, second, reduceCtorEq]

theorem check_compares (order : s.InOrder) (order' : s'.InOrder)
    (same : ValidationCache.canonicalText s = ValidationCache.canonicalText s') :
    blame? (check r s) = blame? (check r s') ∧
      (check r s = check r s' ↔ shownName? s = shownName? s') := by
  cases first : s.provider with
  | none => exact check_compares_of_missing first same
  | some v => cases second : s'.provider with
    | none =>
      obtain ⟨blame, words⟩ := check_compares_of_missing (r := r) second same.symm
      exact ⟨blame.symm, eq_comm.trans (words.trans eq_comm)⟩
    | some v' =>
      have equal : check r s = check r s' := check_eq_of_text order order' first second same
      exact ⟨congrArg blame? equal, by simp only [equal, shownName?, first, second]⟩

/-- With one key, the verdicts on two specifications mean the same, and they are the same, also
where one is repeated for the other, exactly if the specifications show no name or one name. -/
theorem verdict_is_keyed (r : Resolver) (order : s.InOrder) (order' : s'.InOrder)
    (separates :
      Digest.Separates [ValidationCache.canonicalText s, ValidationCache.canonicalText s'])
    (same : ValidationCache.key s = ValidationCache.key s') {state state' : State}
    (quiet : state.failNext = false) (quiet' : state'.failNext = false) :
    Alike r s s' state state' := by
  have texts := separates _ (by simp) _ (by simp) same
  obtain ⟨blame, words⟩ := check_compares (r := r) order order' texts
  rw [← validate_fst (r := r) quiet, ← validate_fst (r := r) quiet'] at blame words
  refine ⟨blame, words, ?_⟩
  intro c now later kept o ordered final found
  have repeated : o = kept := by
    rw [ValidationCache.get_record ordered same final] at found
    split at found
    · exact (Option.some.inj found).symm
    · cases found
  rw [repeated, answer_of_outcome? (r := r) (s := s) (by rwa [validate_fst quiet] at final),
    ← validate_fst (r := r) quiet]
  exact words

/-- A machine that asks for a failing validation. -/
def rejected (name : String) : MachineSpec where
  metadata := { name := some name }
  provider := some (.obj [("cloudProvider", .str "fake"),
    ("cloudProviderSpec", .obj [("passValidation", .bool false)]),
    ("operatingSystem", .str "ubuntu")])

theorem rejected_inOrder (name : String) : (rejected name).InOrder :=
  MachineSpec.reader_inOrder (.ofJson (rejected name).toJson) _ rfl

theorem rejection_is_shared :
    check {} (rejected "node-b") =
      .error (.invalidConfiguration "failing validation as requested") ∧
    Alike {} (rejected "node-a") (rejected "node-b") {} {} :=
  ⟨rfl, verdict_is_keyed {} (rejected_inOrder "node-a") (rejected_inOrder "node-b")
    (by simp [Digest.Separates, ValidationCache.canonicalText, rejected]) rfl rfl rfl⟩

/-- Without provider sections, two machines have one key, but each is refused by its name. -/
theorem missing_section_shows_the_name :
    let a : MachineSpec := { metadata := { name := some "node-a" } }
    let b : MachineSpec := { metadata := { name := some "node-b" } }
    ValidationCache.key a = ValidationCache.key b ∧
    (validate {} b {}).1 = .error (.invalidConfiguration
      "failed to parse provider config: machine node-b has no providerSpec.value") ∧
    (validate {} a {}).1 = .error (.invalidConfiguration
      "failed to parse provider config: machine node-a has no providerSpec.value") ∧
    (validate {} a {}).1 ≠ (validate {} b {}).1 ∧
    ((({ ttl := ValidationCache.defaultTtl : ValidationCache }).record 0 a (validate {} a {}).1).get
      0 b).1.map ValidationOutcome.answer = some (validate {} a {}).1 := by
  intro a b
  refine ⟨rfl, rfl, rfl, fun same => ?_, ?_⟩
  · have verdicts : check {} a = check {} b := same
    have names := (check_missing_inj rfl rfl).mp verdicts
    exact absurd names (by decide)
  · have shared : ValidationCache.key a = ValidationCache.key b := rfl
    rw [ValidationCache.get_record (Nat.le_refl 0) shared
      (o := .rejected ⟨.invalidConfiguration, _⟩) rfl]
    rfl

end MachineFleet.Fake
