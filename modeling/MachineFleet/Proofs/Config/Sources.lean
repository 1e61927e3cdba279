import MachineFleet.Config.Resolver
import MachineFleet.Proofs.Outcome

/-!
The sources of a variable in the order in which they are read: the literal, the reference, and where
it is asked for an environment variable. Each of them sets the variable, leaves it unset or fails.
-/

namespace MachineFleet

inductive Source where
  | literal
  | secret (k : KeyRef)
  | configMap (k : KeyRef)
  | environment (name : String)

namespace Source

variable {ε α : Type} {read read' : Source → Except ε (Option α)} {s : Source} {ss : List Source}

/-- What the first source gives that sets the value or fails. -/
def first (read : Source → Except ε (Option α)) : List Source → Except ε (Option α)
  | [] => .ok none
  | s :: rest =>
    match read s with
    | .error e => .error e
    | .ok (some a) => .ok (some a)
    | .ok none => first read rest

/-- What has been found, or else what comes next. -/
def orNext (next : Except ε (Option α)) : Option α → Except ε (Option α)
  | some a => .ok (some a)
  | none => next

/-- The sources up to the one that decides. -/
def consulted (read : Source → Except ε (Option α)) : List Source → List Source
  | [] => []
  | s :: rest =>
    match read s with
    | .error _ => [s]
    | .ok (some _) => [s]
    | .ok none => s :: consulted read rest

theorem first_of_unset (unset : read s = .ok none) : first read (s :: ss) = first read ss := by
  rw [first, unset]

theorem first_of_set {a : α} (set : read s = .ok (some a)) :
    first read (s :: ss) = .ok (some a) := by
  rw [first, set]

theorem first_of_failed {e : ε} (failed : read s = .error e) :
    first read (s :: ss) = .error e := by
  rw [first, failed]

theorem first_cons (s : Source) (ss : List Source) :
    first read (s :: ss) = (read s).bind (orNext (first read ss)) := by
  cases result : read s with
  | error e => exact first_of_failed result
  | ok value =>
    cases value with
    | some a => exact first_of_set result
    | none => exact first_of_unset result

theorem mem_consulted_self : s ∈ consulted read (s :: ss) := by
  unfold consulted
  split <;> exact List.mem_cons_self

/-- Nothing behind the source that decides counts. -/
theorem first_congr (same : ∀ s ∈ consulted read ss, read' s = read s) :
    first read' ss = first read ss := by
  induction ss with
  | nil => rfl
  | cons s rest ih =>
    have here : read' s = read s := same s mem_consulted_self
    cases result : read s with
    | error e => rw [first_of_failed result, first_of_failed (here.trans result)]
    | ok value =>
      cases value with
      | some a => rw [first_of_set result, first_of_set (here.trans result)]
      | none =>
        rw [first_of_unset result, first_of_unset (here.trans result)]
        refine ih fun s' member => same s' ?_
        rw [consulted, result]
        exact List.mem_cons_of_mem s member

theorem first_eq_none_iff : first read ss = .ok none ↔ ∀ s ∈ ss, read s = .ok none := by
  induction ss with
  | nil => simp [first]
  | cons s rest ih =>
    rw [List.forall_mem_cons]
    cases result : read s with
    | error e => simp [first_of_failed result]
    | ok value =>
      cases value with
      | some a => simp [first_of_set result]
      | none => simp [first_of_unset result, ih]

end Source

/-- The reference that counts, that to a secret before that to a config map. -/
def References.sources (refs : References) : List Source :=
  match refs.secret, refs.configMap with
  | some k, _ => [.secret k]
  | none, some k => [.configMap k]
  | none, none => []

/-- The sources of a variable in the order of reading, the last one where it is asked for. -/
def References.order (refs : References) (name : Option String) : List Source :=
  .literal :: (refs.sources ++ (name.map Source.environment).toList)

namespace Resolver

/-- An empty text sets nothing. -/
def filled (s : String) : Option String := if s.isEmpty then none else some s

/-- The text of a variable in one of its sources. -/
def text (v : StringVar) (r : Resolver) : Source → Except ConfigError (Option String)
  | .literal => .ok (filled v.value)
  | .secret k => (r.secretValue k).map filled
  | .configMap k => (r.configMapValue k).map filled
  | .environment name => .ok ((r.environment name).bind filled)

/-- The position of a switch in one of its sources. -/
def switch (v : BoolVar) (r : Resolver) : Source → Except ConfigError (Option Bool)
  | .literal => .ok v.value
  | .secret k => do return some (← parseBool (← r.secretValue k))
  | .configMap k => do return some (← parseBool (← r.configMapValue k))
  | .environment name =>
    match (r.environment name).bind filled with
    | none => .ok none
    | some raw => ((parseBool raw).mapError fun _ => .invalidEnvBool name raw).map some

/-- What a resolver has of a key in a secret: nothing at all without a store, else the failure to
find the secret, or the value if there is one. -/
def secretEntry (r : Resolver) (k : KeyRef) : Option (Except ConfigError (Option ByteArray)) :=
  r.store.map fun o => (o.secret k.namespaceName k.name).map (·.value? k.key)

def configMapEntry (r : Resolver) (k : KeyRef) : Option (Except ConfigError (Option String)) :=
  r.store.map fun o => (o.configMap k.namespaceName k.name).map (·.data.get? k.key)

/-- Two resolvers have the same in a source. -/
def Agrees (r r' : Resolver) : Source → Prop
  | .literal => True
  | .secret k => r.secretEntry k = r'.secretEntry k
  | .configMap k => r.configMapEntry k = r'.configMapEntry k
  | .environment name => r.environment name = r'.environment name

variable {α β : Type} {r r' : Resolver} {v : StringVar} {b : BoolVar} {s : Source} {k : KeyRef}

/-- The text of a key, by what there is of it. -/
def entryText (kind : ObjectKind) (k : KeyRef) (read : α → Except ConfigError String) :
    Option (Except ConfigError (Option α)) → Except ConfigError String
  | none => .error (.noObjectStore kind k.namespaceName k.name)
  | some (.error e) => .error e
  | some (.ok none) => .error (.keyMissing kind k.namespaceName k.name k.key)
  | some (.ok (some a)) => read a

def bytesText (k : KeyRef) (bytes : ByteArray) : Except ConfigError String :=
  match String.fromUTF8? bytes with
  | some s => .ok s
  | none => .error (.invalidUtf8 k.namespaceName k.name k.key)

theorem secretValue_eq (r : Resolver) (k : KeyRef) :
    r.secretValue k = entryText .secret k (bytesText k) (r.secretEntry k) := by
  unfold secretValue secretEntry
  cases r.store with
  | none => rfl
  | some o =>
    dsimp only [Option.map]
    cases o.secret k.namespaceName k.name with
    | error e => rfl
    | ok secret =>
      dsimp only [Except.map, bind, Except.bind]
      cases secret.value? k.key with
      | none => rfl
      | some bytes =>
        dsimp only [entryText, bytesText]
        cases String.fromUTF8? bytes <;> rfl

theorem configMapValue_eq (r : Resolver) (k : KeyRef) :
    r.configMapValue k = entryText .configMap k .ok (r.configMapEntry k) := by
  unfold configMapValue configMapEntry
  cases r.store with
  | none => rfl
  | some o =>
    dsimp only [Option.map]
    cases o.configMap k.namespaceName k.name with
    | error e => rfl
    | ok configMap =>
      dsimp only [Except.map, bind, Except.bind]
      cases configMap.data.get? k.key <;> rfl

theorem text_congr (same : r.Agrees r' s) : text v r' s = text v r s := by
  cases s with
  | literal => rfl
  | secret k => rw [text, text, secretValue_eq, secretValue_eq, show _ = _ from same]
  | configMap k => rw [text, text, configMapValue_eq, configMapValue_eq, show _ = _ from same]
  | environment name => rw [text, text, show _ = _ from same]

theorem switch_congr (same : r.Agrees r' s) : switch b r' s = switch b r s := by
  cases s with
  | literal => rfl
  | secret k => rw [switch, switch, secretValue_eq, secretValue_eq, show _ = _ from same]
  | configMap k => rw [switch, switch, configMapValue_eq, configMapValue_eq, show _ = _ from same]
  | environment name => rw [switch, switch, show _ = _ from same]

theorem filled_empty : filled "" = none := rfl

theorem filled_of_ne {s : String} (some : s ≠ "") : filled s = Option.some s :=
  if_neg fun empty => some (String.isEmpty_iff.mp empty)

theorem getD_filled (s : String) : (filled s).getD "" = s := by
  by_cases empty : s = ""
  · rw [empty, filled_empty, Option.getD_none]
  · rw [filled_of_ne empty, Option.getD_some]

/-- There is no reference, or what is referenced is what the source gives that counts. -/
theorem sources_cases (r : Resolver) (refs : References) :
    (refs.sources = [] ∧ r.referenced refs = .ok none) ∨
    ∃ s t, refs.sources = [s] ∧ r.referenced refs = t.map some ∧
      (∀ v, text v r s = t.map filled) ∧
      ∀ b, switch b r s = do return some (← parseBool (← t)) := by
  obtain ⟨secret, configMap⟩ := refs
  cases secret with
  | some k => exact .inr ⟨.secret k, r.secretValue k, rfl, rfl, fun _ => rfl, fun _ => rfl⟩
  | none =>
    cases configMap with
    | some k => exact .inr ⟨.configMap k, r.configMapValue k, rfl, rfl, fun _ => rfl, fun _ => rfl⟩
    | none => exact .inl ⟨rfl, rfl⟩

theorem sources_eq_nil_iff {refs : References} : refs.sources = [] ↔ (!refs.isNone) = false := by
  obtain ⟨secret, configMap⟩ := refs
  cases secret <;> cases configMap <;> simp [References.sources, References.isNone]

theorem sources_eq_of_mem {refs : References} (member : s ∈ refs.sources) :
    refs.sources = [s] := by
  obtain ⟨secret, configMap⟩ := refs
  cases secret <;> cases configMap <;> simp_all [References.sources]

/-- An entry point gives what the first source gives that decides, and a resolver that has the same
in the sources up to that one gives the same. -/
structure Follows (read : Resolver → Source → Except ConfigError (Option α)) (ss : List Source)
    (out : Option α → β) (entry : Resolver → Except ConfigError β) : Prop where
  decided : ∀ r, entry r = (Source.first (read r) ss).map out
  independent : ∀ r r', (∀ s ∈ Source.consulted (read r) ss, r.Agrees r' s) → entry r' = entry r

theorem Follows.of {read : Resolver → Source → Except ConfigError (Option α)} {ss : List Source}
    {out : Option α → β} {entry : Resolver → Except ConfigError β}
    (congr : ∀ r r' s, r.Agrees r' s → read r' s = read r s)
    (decided : ∀ r, entry r = (Source.first (read r) ss).map out) :
    Follows read ss out entry where
  decided := decided
  independent := by
    intro r r' same
    rw [decided, decided, Source.first_congr fun s member => congr r r' s (same s member)]

end Resolver

end MachineFleet
