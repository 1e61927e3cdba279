import MachineFleet.Container.Credentials
import MachineFleet.Proofs.Encoding.Utf8
import MachineFleet.Proofs.Json.Built
import MachineFleet.Proofs.Json.Reading
import MachineFleet.Proofs.Json.Records

/-!
Registry credentials in secrets. A dictionary is gone through entry by entry, so that what comes out
of it has the same names; and credentials are read back from the documents that hold them, in
either layout of a secret.
-/

namespace MachineFleet

open Json RecordReader

namespace AuthConfig

/-- The member of a field that has a value. -/
def fieldOf (f : String × String) : Option (String × Json) :=
  if f.2.isEmpty then none else some (f.1, .str f.2)

theorem toJson_eq (a : AuthConfig) : a.toJson = .objOf
    [fieldOf ("username", a.username), fieldOf ("password", a.password), fieldOf ("auth", a.auth),
      fieldOf ("identitytoken", a.identityToken), fieldOf ("registrytoken", a.registryToken)] := by
  have filled : ∀ fs : List (String × String),
      (fs.filter fun f => !f.2.isEmpty).map (fun f => (f.1, Json.str f.2)) =
        (fs.map fieldOf).filterMap id := by
    intro fs
    induction fs with
    | nil => rfl
    | cons f rest ih =>
      cases empty : f.2.isEmpty with
      | true =>
        rw [List.filter_cons_of_neg (by simp [empty]), ih]
        simp [fieldOf, empty]
      | false =>
        rw [List.filter_cons_of_pos (by simp [empty]), List.map_cons, ih]
        simp [fieldOf, empty]
  exact congrArg Json.obj (filled _)

theorem field_string (name s : String) : Field name .string (some "") (fieldOf (name, s)) s :=
  .unless (decode_str s) fun empty => (String.isEmpty_iff.mp empty).symm

theorem decode_toJson (a : AuthConfig) : decode reader a.toJson = .ok a := by
  have spells := (((((Spells.of AuthConfig.mk).member (field_string "username" a.username)).member
    (field_string "password" a.password)).member (field_string "auth" a.auth)).member
    (field_string "identitytoken" a.identityToken)).member
    (field_string "registrytoken" a.registryToken)
  rw [toJson_eq]
  exact spells.read (by decide) "AuthConfig"

theorem readable (a : AuthConfig) (levels : Nat) : Readable (levels + 1) a.toJson := by
  rw [toJson_eq]
  refine readable_objOf ?_
  simp only [List.forall_mem_cons]
  exact ⟨.unless (readable_str _ _), .unless (readable_str _ _), .unless (readable_str _ _),
    .unless (readable_str _ _), .unless (readable_str _ _), nofun⟩

end AuthConfig

namespace Credentials

theorem decode_toJson (c : Credentials) :
    decode configReader (.obj [("auths", c.toJson)]) = .ok c := by
  have auths : decode (.dict AuthConfig.reader) c.toJson = .ok c :=
    decode_dict AuthConfig.decode_toJson c
  exact ((Spells.of id).member (.orElse "auths" .empty auths)).read (by decide) "DockerConfigJson"

theorem readable (c : Credentials) (levels : Nat) :
    Readable (levels + 3) (.obj [("auths", c.toJson)]) := by
  have auths : Readable (levels + 2) c.toJson := by
    refine ⟨Nat.succ_pos _, membersReadable_iff.mpr fun e member => ?_⟩
    obtain ⟨entry, -, rfl⟩ := List.mem_map.mp member
    exact entry.2.readable levels
  exact ⟨Nat.succ_pos _, auths, trivial⟩

section Entries

variable {α β : Type} {f : String → α → Except RuntimeError β}

theorem forEntries_eq (f : String → α → Except RuntimeError β) (es : List (String × α)) :
    forEntries f es = es.mapM fun e => (f e.1 e.2).map fun b => (e.1, b) := by
  induction es with
  | nil => rfl
  | cons e rest ih =>
    rw [forEntries, List.mapM_cons, ih]
    cases f e.1 e.2 with
    | error e => rfl
    | ok b => rfl

theorem forEntries_ok {es : List (String × α)} {bs : List (String × β)}
    (result : forEntries f es = .ok bs) : bs.map (·.1) = es.map (·.1) ∧
      ∀ k, Option.Rel (fun a b => f k a = .ok b) (es.lookup k) (bs.lookup k) := by
  rw [forEntries_eq, mapM_eq_ok_iff] at result
  induction result with
  | nil => exact ⟨rfl, fun _ => .none⟩
  | @cons e e' es bs first later ih =>
    obtain ⟨b, value, rfl⟩ := ok_of_map first
    refine ⟨congrArg (e.1 :: ·) ih.1, fun k => ?_⟩
    by_cases same : k = e.1
    · subst same
      rw [List.lookup_cons, List.lookup_cons, beq_self_eq_true]
      exact .some value
    · rw [Dict.lookup_cons_of_ne e.2 es same, Dict.lookup_cons_of_ne b bs same]
      exact ih.2 k

theorem forDict_ok {d : Dict α} {c : Dict β} (result : forDict f d = .ok c) : c.keys = d.keys ∧
    ∀ k, Option.Rel (fun a b => f k a = .ok b) (d.get? k) (c.get? k) := by
  obtain ⟨bs, entries, rfl⟩ := ok_of_map result
  have ok := forEntries_ok entries
  have ordered : Dict.Ordered bs := by
    have before := List.pairwise_map.mpr d.ordered
    rw [← ok.1] at before
    exact List.pairwise_map.mp before
  have whole : Dict.ofList bs = ⟨bs, ordered⟩ := Dict.ofList_entries ⟨bs, ordered⟩
  rw [whole]
  exact ok

/-- What fails for a dictionary fails for a value in it. -/
theorem forDict_error {d : Dict α} {e : RuntimeError} (failed : forDict f d = .error e) :
    ∃ k a, d.get? k = some a ∧ f k a = .error e := by
  rw [forDict, map_eq_error_iff, forEntries_eq] at failed
  obtain ⟨before, x, after, split, -, fault⟩ := mapM_eq_error_iff.mp failed
  have member : (x.1, x.2) ∈ d.entries := by simp [split]
  exact ⟨x.1, x.2, Dict.mem_entries_iff.mp member, map_eq_error_iff.mp fault⟩

/-- A dictionary is gone through if each value in it is. -/
theorem forDict_isOk_iff {d : Dict α} :
    (∃ c, forDict f d = .ok c) ↔ ∀ k a, d.get? k = some a → ∃ b, f k a = .ok b := by
  constructor
  · rintro ⟨c, result⟩ k a found
    have value := (forDict_ok result).2 k
    rw [found] at value
    generalize c.get? k = o at value
    cases value with
    | some b => exact ⟨_, b⟩
  · intro each
    cases result : forDict f d with
    | ok c => exact ⟨c, rfl⟩
    | error e =>
      obtain ⟨k, a, found, fault⟩ := forDict_error result
      obtain ⟨b, value⟩ := each k a found
      cases value.symm.trans fault

/-- What comes out of a dictionary has the same names, each with what comes out of its value. -/
theorem forDict_eq_ok_iff {d : Dict α} {c : Dict β} : forDict f d = .ok c ↔
    ∀ k, Option.Rel (fun a b => f k a = .ok b) (d.get? k) (c.get? k) := by
  refine ⟨fun result => (forDict_ok result).2, fun values => ?_⟩
  obtain ⟨c', result⟩ : ∃ c', forDict f d = .ok c' := by
    refine forDict_isOk_iff.mpr fun k a found => ?_
    have value := values k
    rw [found] at value
    generalize c.get? k = o at value
    cases value with
    | some first => exact ⟨_, first⟩
  rw [result]
  refine congrArg Except.ok (Dict.ext_get? fun k => ?_)
  have found := (forDict_ok result).2 k
  have wanted := values k
  generalize d.get? k = o, c.get? k = o', c'.get? k = o'' at found wanted
  cases wanted with
  | none =>
    cases found
    rfl
  | some first =>
    cases found with
    | some second => exact congrArg some (Except.ok.inj (second.symm.trans first))

end Entries

/-- The bytes are a text of the document, with any white space. -/
def Holds (bytes : ByteArray) (j : Json) : Prop :=
  ∃ l : Layout, bytes = (String.ofList (l.text 0 j)).toUTF8

theorem decodeBytes_of_holds {α : Type} {r : Reader α} {bytes : ByteArray} {j : Json} {a : α}
    (holds : Holds bytes j) (readable : Readable Document.maxDepth j)
    (value : decode r j = .ok a) : decodeBytes r bytes = .ok a := by
  obtain ⟨l, rfl⟩ := holds
  rw [decodeBytes, bytesText, fromUTF8?_eq_some_iff.mpr rfl]
  exact decodeText_text l readable value

theorem holds_compact (j : Json) : Holds j.compact.toUTF8 j :=
  ⟨.compact, by rw [Layout.compact_text]; rfl⟩

theorem holds_pretty (j : Json) : Holds j.pretty.toUTF8 j :=
  ⟨.pretty, by rw [Layout.pretty_text]; rfl⟩

/-- A secret with a document for each registry. -/
structure Flat (c : Credentials) (s : Secret) : Prop where
  type : s.type ≠ some configType
  values : ∀ registry, Option.Rel (fun bytes a => Holds bytes (AuthConfig.toJson a))
    (s.data.get? registry) (c.get? registry)

/-- A secret with one document for all registries. -/
structure Wrapped (c : Credentials) (s : Secret) : Prop where
  type : s.type = some configType
  value : ∃ bytes, s.data.get? configKey = some bytes ∧ Holds bytes (.obj [("auths", c.toJson)])

variable {c : Credentials} {s : Secret}

theorem Flat.written_eq (flat : Flat c s) (apart : c.get? configKey = none) (secretName : String) :
    written secretName s = .ok c := by
  have absent : s.data.contains configKey = false := by
    have value := flat.values configKey
    rw [apart] at value
    unfold Dict.contains
    generalize s.data.get? configKey = o at value
    cases value
    rfl
  unfold written
  rw [if_neg (by simp [absent, flat.type])]
  refine forDict_eq_ok_iff.mpr fun registry => ?_
  have value := flat.values registry
  generalize s.data.get? registry = o, c.get? registry = o' at value ⊢
  cases value with
  | none => exact .none
  | some holds =>
    refine .some ?_
    rw [decodeBytes_of_holds holds (AuthConfig.readable _ 126) (AuthConfig.decode_toJson _)]
    rfl

/-- A document for all registries is read whatever else the secret holds. -/
theorem written_of_holds {bytes : ByteArray} {j : Json}
    (found : s.data.get? configKey = some bytes) (holds : Holds bytes j)
    (readable : Readable Document.maxDepth j) (value : decode configReader j = .ok c)
    (secretName : String) : written secretName s = .ok c := by
  have present : s.data.contains configKey = true := by simp [Dict.contains, found]
  unfold written
  rw [if_pos (.inr present), found]
  dsimp only
  rw [decodeBytes_of_holds holds readable value]
  rfl

theorem Wrapped.written_eq (wrapped : Wrapped c s) (secretName : String) :
    written secretName s = .ok c := by
  obtain ⟨bytes, found, holds⟩ := wrapped.value
  exact written_of_holds found holds (c.readable 124) c.decode_toJson secretName

theorem load_of_found {store : ObjectStore} {ns name : String}
    (found : store.secret ns name = .ok s) :
    load store ns name = ofSecret (ns ++ "/" ++ name) s := by
  rw [load, found]
  rfl

theorem ofSecret_of_written {secretName : String} (read : written secretName s = .ok c) :
    ofSecret secretName s = expand secretName c := by
  rw [ofSecret, read]
  rfl

/-- Both layouts of a secret give the same credentials or the same failure, which is that of taking
the names and passwords apart. -/
theorem layouts_agree {c : Credentials} (apart : c.get? configKey = none) {s s' : Secret}
    (flat : Flat c s) (wrapped : Wrapped c s') {store store' : ObjectStore} {ns name : String}
    (found : store.secret ns name = .ok s) (found' : store'.secret ns name = .ok s') :
    load store ns name = load store' ns name ∧
      load store ns name = expand (ns ++ "/" ++ name) c := by
  have first := (load_of_found found).trans
    (ofSecret_of_written (flat.written_eq apart (ns ++ "/" ++ name)))
  have second := (load_of_found found').trans
    (ofSecret_of_written (wrapped.written_eq (ns ++ "/" ++ name)))
  exact ⟨first.trans second.symm, first⟩

def flatSecret (c : Credentials) : Secret where
  data := c.mapValues fun a => a.toJson.compact.toUTF8

theorem flat_flatSecret (c : Credentials) : Flat c (flatSecret c) where
  type := nofun
  values registry := by
    rw [flatSecret, Dict.get?_mapValues]
    cases c.get? registry with
    | none => exact .none
    | some a => exact .some (holds_compact a.toJson)

def wrappedSecret (c : Credentials) : Secret where
  type := some configType
  data := Dict.empty.insert configKey (Json.obj [("auths", c.toJson)]).pretty.toUTF8

theorem wrapped_wrappedSecret (c : Credentials) : Wrapped c (wrappedSecret c) :=
  ⟨rfl, _, Dict.get?_insert_self _ _ _, holds_pretty _⟩

/-- One registry with a name and a password to take apart, and one with a token. -/
def mixedCredentials : Credentials :=
  .ofList [("ghcr.io", { auth := "YWxpY2U6czM6Y3JldA==" }), ("quay.io", { identityToken := "tok" })]

/-- A store with one secret. -/
def storeOf (s : Secret) : ObjectStore := .ofObjects [⟨"kube-system", "regcred", s⟩] []

theorem mixed_layouts_agree :
    mixedCredentials.get? configKey = none ∧
    load (storeOf (flatSecret mixedCredentials)) "kube-system" "regcred" =
      load (storeOf (wrappedSecret mixedCredentials)) "kube-system" "regcred" ∧
    load (storeOf (flatSecret mixedCredentials)) "kube-system" "regcred" = .ok (.ofList
      [("ghcr.io", { username := "alice", password := "s3:cret", auth := "YWxpY2U6czM6Y3JldA==" }),
        ("quay.io", { identityToken := "tok" })]) := by
  have apart : mixedCredentials.get? configKey = none := by decide
  have found : ∀ s, (storeOf s).secret "kube-system" "regcred" = .ok s := fun _ => rfl
  obtain ⟨same, taken⟩ := layouts_agree apart (flat_flatSecret mixedCredentials)
    (wrapped_wrappedSecret mixedCredentials) (found _) (found _)
  refine ⟨apart, same, taken.trans ?_⟩
  decide +kernel

end Credentials

end MachineFleet
