import MachineFleet.Proofs.Container.Credentials
import MachineFleet.Proofs.Encoding.Base64
import MachineFleet.Proofs.Text.Cut

/-!
What a secret with a document for each registry gives. It is loaded as a whole, if each document can
be read and each encoded name and password can be taken apart, and then it gives for each registry
what its document says, once and for all.
-/

namespace MachineFleet

namespace AuthConfig

/-- The name and the password are only given in one encoded text. -/
def IsEncoded (a : AuthConfig) : Prop := a.auth ≠ "" ∧ a.username = "" ∧ a.password = ""

variable {a b : AuthConfig} {auth user password : String}

theorem userPassword_eq_ok_iff : userPassword auth = .ok (user, password) ↔
    Text.trim auth = Base64.encodeText (user ++ ":" ++ password) ∧ ':' ∉ user.toList := by
  unfold userPassword
  constructor
  · intro taken
    split at taken
    · cases taken
    rename_i bytes decoded
    split at taken
    · cases taken
    rename_i s read
    split at taken
    · cases taken
    rename_i p found
    cases taken
    obtain ⟨whole, free⟩ := Text.cut_eq_some_iff.mp found
    have text : s = user ++ ":" ++ password := String.toList_inj.mp (by simp [whole])
    have same : bytes = s.toUTF8.toList := by
      rw [toList_eq, ← fromUTF8?_eq_some_iff.mp read]
    refine ⟨congrArg String.ofList ?_, free⟩
    rw [Base64.decode_eq_some_iff.mp decoded, same, text]
  · rintro ⟨encoded, free⟩
    have decoded := Base64.decode_eq_some_iff.mpr (String.ofList_injective encoded)
    have read : String.fromUTF8? ⟨((user ++ ":" ++ password).toUTF8.toList).toArray⟩ =
        some (user ++ ":" ++ password) := by
      refine fromUTF8?_eq_some_iff.mpr ?_
      rw [toList_eq, Array.toArray_toList]
    have found : Text.cut ':' (user ++ ":" ++ password) = some (user, password) :=
      Text.cut_eq_some_iff.mpr ⟨by simp, free⟩
    rw [decoded]
    dsimp only
    rw [read]
    dsimp only
    rw [found]

/-- A name and a password can be taken apart exactly in the encoding of a text with a colon. -/
theorem userPassword_isOk_iff : (∃ p, userPassword auth = .ok p) ↔
    ∃ text : String, ':' ∈ text.toList ∧ Text.trim auth = Base64.encodeText text := by
  constructor
  · rintro ⟨⟨user, password⟩, taken⟩
    exact ⟨user ++ ":" ++ password, by simp, (userPassword_eq_ok_iff.mp taken).1⟩
  · rintro ⟨text, colon, encoded⟩
    obtain ⟨user, password, whole, free⟩ := List.eq_append_cons_of_mem colon
    have same : text = String.ofList user ++ ":" ++ String.ofList password :=
      String.toList_inj.mp (by simp [whole])
    refine ⟨(String.ofList user, String.ofList password), userPassword_eq_ok_iff.mpr ⟨?_, ?_⟩⟩
    · rw [← same]
      exact encoded
    · rw [String.toList_ofList]
      exact free

theorem expand_of_given (given : ¬ a.IsEncoded) : a.expand = .ok a := by
  refine if_pos ?_
  simpa [IsEncoded, Classical.or_iff_not_imp_left] using given

theorem expand_of_encoded (encoded : a.IsEncoded) : a.expand =
    (userPassword a.auth).map fun p => { a with username := p.1, password := p.2 } := by
  obtain ⟨some, noName, noPassword⟩ := encoded
  refine if_neg ?_
  simp [some, noName, noPassword]

theorem expand_expand (expanded : a.expand = .ok b) : b.expand = .ok b := by
  by_cases encoded : a.IsEncoded
  · rw [expand_of_encoded encoded] at expanded
    obtain ⟨p, taken, rfl⟩ := ok_of_map expanded
    -- a name and a password that are both empty are taken from the same text again
    by_cases again : IsEncoded { a with username := p.1, password := p.2 }
    · rw [expand_of_encoded again]
      dsimp only
      rw [taken]
      rfl
    · exact expand_of_given again
  · rw [expand_of_given encoded] at expanded
    cases expanded
    exact expand_of_given encoded

theorem expand_isOk_iff : (∃ b, a.expand = .ok b) ↔ (a.IsEncoded →
    ∃ text : String, ':' ∈ text.toList ∧ Text.trim a.auth = Base64.encodeText text) := by
  rw [← userPassword_isOk_iff]
  by_cases encoded : a.IsEncoded
  · rw [expand_of_encoded encoded]
    constructor
    · rintro ⟨b, expanded⟩ -
      obtain ⟨p, taken, -⟩ := ok_of_map expanded
      exact ⟨p, taken⟩
    · intro taken
      obtain ⟨p, taken⟩ := taken encoded
      exact ⟨_, congrArg _ taken⟩
  · exact ⟨fun _ again => absurd again encoded, fun _ => ⟨a, expand_of_given encoded⟩⟩

theorem userPassword_empty : userPassword "" = .error .noColon := by
  decide +kernel

/-- What becomes of an entry. The name and the password are those of the encoded text, if that is
all that is given, and the rest is as it was. -/
structure Settled (a b : AuthConfig) : Prop where
  rest : b.auth = a.auth ∧ b.identityToken = a.identityToken ∧ b.registryToken = a.registryToken
  plain : a.auth = "" → b = a
  given : a.username ≠ "" ∨ a.password ≠ "" → b = a
  taken : a.username = "" → a.password = "" → ∀ user password, ':' ∉ user.toList →
    Text.trim a.auth = Base64.encodeText (user ++ ":" ++ password) →
    b.username = user ∧ b.password = password

theorem settled_of_expand (expanded : a.expand = .ok b) : Settled a b := by
  by_cases encoded : a.IsEncoded
  · rw [expand_of_encoded encoded] at expanded
    obtain ⟨p, taken, rfl⟩ := ok_of_map expanded
    refine ⟨⟨rfl, rfl, rfl⟩, fun none => absurd none encoded.1, ?_, ?_⟩
    · rintro (name | word)
      · exact absurd encoded.2.1 name
      · exact absurd encoded.2.2 word
    · intro _ _ user password free text
      cases taken.symm.trans (userPassword_eq_ok_iff.mpr ⟨text, free⟩)
      exact ⟨rfl, rfl⟩
  · rw [expand_of_given encoded] at expanded
    cases expanded
    refine ⟨⟨rfl, rfl, rfl⟩, fun _ => rfl, fun _ => rfl, ?_⟩
    intro name word user password free text
    have none : a.auth = "" := Classical.not_not.mp fun some => encoded ⟨some, name, word⟩
    rw [none] at text
    cases userPassword_empty.symm.trans (userPassword_eq_ok_iff.mpr ⟨text, free⟩)

end AuthConfig

namespace Credentials

open Json (decodeBytes)

/-- A secret with a document for each registry. -/
def PerRegistry (s : Secret) : Prop := s.type ≠ some configType ∧ s.data.contains configKey = false

variable {s : Secret} {secretName : String} {c : Credentials}

theorem written_of_perRegistry (separate : PerRegistry s) (secretName : String) :
    written secretName s = forDict (fun registry bytes =>
      (decodeBytes AuthConfig.reader bytes).mapError fun e =>
        .invalidCredentials secretName (registry ++ ": " ++ e.message)) s.data :=
  if_neg (by simp [separate.1, separate.2])

theorem expand_eq_ok_iff {c' : Credentials} : expand secretName c = .ok c' ↔
    ∀ registry, Option.Rel (fun a b => a.expand = .ok b) (c.get? registry) (c'.get? registry) := by
  simp only [expand, forDict_eq_ok_iff, mapError_eq_ok_iff]

/-- Credentials that have been taken apart stay as they are. -/
theorem expand_expand {c' : Credentials} (expanded : expand secretName c = .ok c')
    (secretName' : String) : expand secretName' c' = .ok c' := by
  refine expand_eq_ok_iff.mpr fun registry => ?_
  have value := expand_eq_ok_iff.mp expanded registry
  generalize c.get? registry = o, c'.get? registry = o' at value ⊢
  cases value with
  | none => exact .none
  | some first => exact .some (AuthConfig.expand_expand first)

/-- What a secret gives has its registries, each with what its document says. -/
theorem ofSecret_ok (separate : PerRegistry s) (loaded : ofSecret secretName s = .ok c) :
    c.keys = s.data.keys ∧ ∀ registry, Option.Rel
      (fun bytes b => ∃ a, decodeBytes AuthConfig.reader bytes = .ok a ∧ a.expand = .ok b)
      (s.data.get? registry) (c.get? registry) := by
  obtain ⟨raw, read, expanded⟩ := ok_of_bind loaded
  rw [written_of_perRegistry separate] at read
  obtain ⟨keys, values⟩ := forDict_ok read
  refine ⟨(forDict_ok expanded).1.trans keys, fun registry => ?_⟩
  have first := values registry
  have second := expand_eq_ok_iff.mp expanded registry
  generalize s.data.get? registry = o, raw.get? registry = o', c.get? registry = o'' at *
  cases first with
  | none =>
    cases second
    exact .none
  | some first =>
    cases second with
    | some second => exact .some ⟨_, mapError_eq_ok_iff.mp first, second⟩

/-- A secret is loaded if each of its documents can be read and taken apart. -/
theorem ofSecret_isOk (separate : PerRegistry s) (each : ∀ registry bytes,
      s.data.get? registry = some bytes → ∃ a b, decodeBytes AuthConfig.reader bytes = .ok a ∧
        a.expand = .ok b) (secretName : String) : ∃ c, ofSecret secretName s = .ok c := by
  obtain ⟨raw, read⟩ : ∃ raw, written secretName s = .ok raw := by
    rw [written_of_perRegistry separate]
    refine forDict_isOk_iff.mpr fun registry bytes found => ?_
    obtain ⟨a, -, value, -⟩ := each registry bytes found
    exact ⟨a, mapError_eq_ok_iff.mpr value⟩
  rw [ofSecret_of_written read]
  refine forDict_isOk_iff.mpr fun registry a found => ?_
  rw [written_of_perRegistry separate] at read
  have value := (forDict_ok read).2 registry
  cases stands : s.data.get? registry with
  | none =>
    rw [found, stands] at value
    cases value
  | some bytes =>
    rw [found, stands] at value
    obtain ⟨a', b, value', expanded⟩ := each registry bytes stands
    cases value with
    | some first =>
      cases (mapError_eq_ok_iff.mp first).symm.trans value'
      exact ⟨b, mapError_eq_ok_iff.mpr expanded⟩

/-- What is at fault in a secret is in one of its registries. -/
theorem ofSecret_error {e : RuntimeError} (separate : PerRegistry s)
    (failed : ofSecret secretName s = .error e) : ∃ registry ∈ s.data.keys, ∃ message,
      e = .invalidCredentials secretName (registry ++ ": " ++ message) := by
  cases read : written secretName s with
  | error e' =>
    rw [ofSecret, read] at failed
    cases failed
    rw [written_of_perRegistry separate] at read
    obtain ⟨registry, bytes, found, fault⟩ := forDict_error read
    obtain ⟨_, -, rfl⟩ := mapError_eq_error_iff.mp fault
    exact ⟨registry, Dict.mem_keys_iff.mpr (Option.isSome_iff_exists.mpr ⟨bytes, found⟩), _, rfl⟩
  | ok raw =>
    rw [ofSecret_of_written read] at failed
    rw [written_of_perRegistry separate] at read
    obtain ⟨registry, a, found, fault⟩ := forDict_error failed
    obtain ⟨_, -, rfl⟩ := mapError_eq_error_iff.mp fault
    rw [← (forDict_ok read).1]
    exact ⟨registry, Dict.mem_keys_iff.mpr (Option.isSome_iff_exists.mpr ⟨a, found⟩), _, rfl⟩

/-- A secret with a document for each registry is loaded exactly if each document can be read and,
where it gives a name and a password only in an encoded text, this is the Base64 of a text with a
colon. It then gives the same registries, each with its entry taken apart at the first colon, and
taking these apart once more changes nothing. Otherwise the fault is told of one of its
registries. -/
theorem secrets_load_as_a_whole {store : ObjectStore} {ns name : String} {s : Secret}
    (found : store.secret ns name = .ok s) (separate : PerRegistry s) :
    ((∃ c, load store ns name = .ok c) ↔ ∀ registry bytes, s.data.get? registry = some bytes →
      ∃ a, decodeBytes AuthConfig.reader bytes = .ok a ∧
        (a.auth ≠ "" → a.username = "" → a.password = "" →
          ∃ text : String, ':' ∈ text.toList ∧ Text.trim a.auth = Base64.encodeText text)) ∧
    (∀ c, load store ns name = .ok c → c.keys = s.data.keys ∧
      (∀ registry bytes a, s.data.get? registry = some bytes →
        decodeBytes AuthConfig.reader bytes = .ok a →
          ∃ b, c.get? registry = some b ∧ AuthConfig.Settled a b) ∧
      ∀ secretName, expand secretName c = .ok c) ∧
    ∀ e, load store ns name = .error e → ∃ registry ∈ s.data.keys, ∃ message,
      e = .invalidCredentials (ns ++ "/" ++ name) (registry ++ ": " ++ message) := by
  rw [load_of_found found]
  refine ⟨⟨?_, fun each => ?_⟩, fun c loaded => ⟨?_, ?_, ?_⟩, fun e => ofSecret_error separate⟩
  · rintro ⟨c, loaded⟩ registry bytes stands
    have value := (ofSecret_ok separate loaded).2 registry
    rw [stands] at value
    generalize c.get? registry = o at value
    cases value with
    | some value =>
      obtain ⟨a, read, expanded⟩ := value
      exact ⟨a, read, fun some noName noWord =>
        AuthConfig.expand_isOk_iff.mp ⟨_, expanded⟩ ⟨some, noName, noWord⟩⟩
  · refine ofSecret_isOk separate (fun registry bytes stands => ?_) _
    obtain ⟨a, read, text⟩ := each registry bytes stands
    obtain ⟨b, expanded⟩ := AuthConfig.expand_isOk_iff.mpr fun encoded =>
      text encoded.1 encoded.2.1 encoded.2.2
    exact ⟨a, b, read, expanded⟩
  · exact (ofSecret_ok separate loaded).1
  · intro registry bytes a stands read
    have value := (ofSecret_ok separate loaded).2 registry
    rw [stands] at value
    generalize c.get? registry = o at value
    cases value with
    | some value =>
      obtain ⟨a', read', expanded⟩ := value
      cases read.symm.trans read'
      exact ⟨_, rfl, AuthConfig.settled_of_expand expanded⟩
  · obtain ⟨raw, -, expanded⟩ := ok_of_bind loaded
    exact expand_expand expanded

theorem mixed_userPassword : AuthConfig.userPassword "YWxpY2U6czM6Y3JldA==" =
    .ok ("alice", "s3:cret") := by
  decide +kernel

theorem mixed_secret_loads :
    PerRegistry (flatSecret mixedCredentials) ∧
    ∃ c, load (storeOf (flatSecret mixedCredentials)) "kube-system" "regcred" = .ok c ∧
      c.keys = ["ghcr.io", "quay.io"] ∧
      ∃ b, c.get? "ghcr.io" = some b ∧ b.username = "alice" ∧ b.password = "s3:cret" := by
  have separate : PerRegistry (flatSecret mixedCredentials) := ⟨nofun, by decide⟩
  have read : ∀ a : AuthConfig, decodeBytes AuthConfig.reader a.toJson.compact.toUTF8 = .ok a :=
    fun a => decodeBytes_of_holds (holds_compact _) (a.readable 126) a.decode_toJson
  have text := (AuthConfig.userPassword_eq_ok_iff.mp mixed_userPassword).1
  obtain ⟨whole, loads, -⟩ := secrets_load_as_a_whole
    (show (storeOf (flatSecret mixedCredentials)).secret "kube-system" "regcred" = .ok _ from rfl)
    separate
  obtain ⟨c, loaded⟩ := whole.mpr fun registry bytes stands => by
    rw [flatSecret, Dict.get?_mapValues, Option.map_eq_some_iff] at stands
    obtain ⟨a, given, rfl⟩ := stands
    have encoded : ∀ e ∈ mixedCredentials.entries, e.2.auth ≠ "" →
        e.2.auth = "YWxpY2U6czM6Y3JldA==" := by decide
    refine ⟨a, read a, fun some _ _ => ⟨"alice" ++ ":" ++ "s3:cret", by decide, ?_⟩⟩
    rw [encoded _ (Dict.mem_entries_iff.mpr given) some]
    exact text
  obtain ⟨keys, entries, -⟩ := loads c loaded
  have stands : (flatSecret mixedCredentials).data.get? "ghcr.io" =
      some (AuthConfig.toJson { auth := "YWxpY2U6czM6Y3JldA==" }).compact.toUTF8 :=
    (Dict.get?_mapValues _ _ _).trans (congrArg _ (show mixedCredentials.get? "ghcr.io" =
      some { auth := "YWxpY2U6czM6Y3JldA==" } by decide))
  obtain ⟨b, found, settled⟩ := entries "ghcr.io" _ _ stands (read _)
  exact ⟨separate, c, loaded, keys.trans (by decide), b, found,
    settled.taken rfl rfl "alice" "s3:cret" (by decide) text⟩

end Credentials

end MachineFleet
