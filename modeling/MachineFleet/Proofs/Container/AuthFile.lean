import MachineFleet.Proofs.Container.Loading
import MachineFleet.Proofs.Container.Rendering
import MachineFleet.Proofs.Json.Sorting

/-!
The file of registry credentials that docker reads. It holds the credentials as they were loaded,
and a secret with that file gives them again.
-/

namespace MachineFleet

open Json

theorem AuthConfig.steady_reader : Steady AuthConfig.reader :=
  (((((RecordReader.Steady.of AuthConfig.mk).member steady_string "username").member
    steady_string "password").member steady_string "auth").member
    steady_string "identitytoken").member steady_string "registrytoken" |>.read "AuthConfig"

theorem Credentials.steady_configReader : Steady Credentials.configReader :=
  ((RecordReader.Steady.of id).member AuthConfig.steady_reader.dict "auths").read "DockerConfigJson"

namespace DockerConfig

variable {d : DockerConfig}

theorem authConfig_eq_none_iff : d.authConfig = none ↔ d.registryCredentials = .empty := by
  unfold authConfig
  rw [Dict.isEmpty]
  constructor
  · intro none
    split at none
    · rename_i nothing
      exact Dict.ext (List.isEmpty_iff.mp nothing)
    · cases none
  · intro nothing
    rw [nothing]
    rfl

theorem written_authConfig {text : String} (present : d.authConfig = some text) {s : Secret}
    (stored : s.data.get? Credentials.configKey = some text.toUTF8) (secretName : String) :
    Credentials.written secretName s = .ok d.registryCredentials := by
  unfold authConfig at present
  split at present
  · cases present
  · cases present
    exact Credentials.written_of_holds stored (Credentials.holds_pretty _)
      (readable_sorted _ (Credentials.readable _ 124))
      (Credentials.steady_configReader _ _ (Credentials.decode_toJson _)) secretName

/-- There is a file for docker unless there are no credentials. If the credentials were loaded from
a secret, then they are loaded again, as they are, from every secret that holds that file. -/
theorem auth_file_loads {store : ObjectStore} {ns name : String}
    (loaded : Credentials.load store ns name = .ok d.registryCredentials) :
    (d.renderAuth = .ok none ↔ d.registryCredentials = .empty) ∧
    (d.registryCredentials ≠ .empty → ∃ text, d.renderAuth = .ok (some text) ∧ ∀ s : Secret,
      s.data.get? Credentials.configKey = some text.toUTF8 → ∀ store' ns' name',
        store'.secret ns' name' = .ok s →
          Credentials.load store' ns' name' = .ok d.registryCredentials) := by
  rw [renderAuth_eq, Except.ok.injEq]
  refine ⟨authConfig_eq_none_iff, fun some => ?_⟩
  obtain ⟨text, present⟩ := Option.ne_none_iff_exists'.mp (authConfig_eq_none_iff.not.mpr some)
  refine ⟨text, congrArg Except.ok present, fun s stored store' ns' name' found => ?_⟩
  obtain ⟨s₀, -, loaded⟩ := ok_of_bind loaded
  obtain ⟨raw, -, expanded⟩ := ok_of_bind loaded
  rw [Credentials.load_of_found found,
    Credentials.ofSecret_of_written (written_authConfig present stored _)]
  exact Credentials.expand_expand expanded _

/-- A name and a password to take apart, and a token with a line feed. -/
def escapedEntry : AuthConfig where
  auth := "YWxpY2U6czM6Y3JldA=="
  identityToken := "two\nlines"

def escapedCredentials : Credentials := .ofList [("a\"b.io", escapedEntry)]

def escapedDocker : DockerConfig where
  registryCredentials := .ofList
    [("a\"b.io", { escapedEntry with username := "alice", password := "s3:cret" })]

theorem escaped_file_loads :
    Credentials.load (Credentials.storeOf (Credentials.flatSecret escapedCredentials)) "kube-system"
      "regcred" = .ok escapedDocker.registryCredentials ∧
    escapedDocker.registryCredentials ≠ .empty ∧ ∃ text,
      escapedDocker.renderAuth = .ok (some text) ∧
      Credentials.load (Credentials.storeOf
        { data := Dict.empty.insert Credentials.configKey text.toUTF8 }) "kube-system" "regcred" =
          .ok escapedDocker.registryCredentials := by
  have loaded : Credentials.load (Credentials.storeOf (Credentials.flatSecret escapedCredentials))
      "kube-system" "regcred" = .ok escapedDocker.registryCredentials := by
    rw [Credentials.load_of_found rfl, Credentials.ofSecret_of_written
      ((Credentials.flat_flatSecret escapedCredentials).written_eq (by decide) _)]
    decide +kernel
  have some : escapedDocker.registryCredentials ≠ .empty := by decide
  obtain ⟨text, present, again⟩ := (auth_file_loads loaded).2 some
  exact ⟨loaded, some, text, present, again _ (Dict.get?_insert_self _ _ _) _ _ _ rfl⟩

end DockerConfig

end MachineFleet
