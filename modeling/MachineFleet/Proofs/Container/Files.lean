import MachineFleet.Proofs.Container.Access
import MachineFleet.Proofs.Container.Rendering
import MachineFleet.Proofs.Json.Lines
import MachineFleet.Proofs.Toml.Endings

/-!
The lines of an engine's files. Those that are written as JSON have none that is a plain word. In
the configuration of containerd a value that has several lines keeps them.
-/

namespace MachineFleet

namespace ContainerdConfig

open Toml

/-- What the configuration says in texts, other than names of registries and fixed ones. -/
def values (c : ContainerdConfig) : List String :=
  c.sandboxImage :: (c.registryMirrors.values.flatten ++
    c.registryCredentials.values.flatMap fun a => a.fields.map (·.2))

theorem exists_access {c : ContainerdConfig} {p : AuthConfig → Prop} :
    (∃ e ∈ c.access.entries, ∃ a, e.2.auth = some a ∧ p a) ↔
      ∃ a ∈ c.registryCredentials.values, p a := by
  constructor
  · rintro ⟨⟨k, x⟩, member, a, given, holds⟩
    have found : c.registryCredentials.get? k = some a := by
      rw [← c.auth_of_access k, Dict.mem_entries_iff.mp member]
      exact given
    exact ⟨a, List.mem_map_of_mem (Dict.mem_entries_iff.mpr found), holds⟩
  · rintro ⟨a, member, holds⟩
    obtain ⟨⟨k, _⟩, known, rfl⟩ := List.mem_map.mp member
    have found := c.auth_of_access k
    rw [Dict.mem_entries_iff.mp known] at found
    obtain ⟨x, here, given⟩ := Option.bind_eq_some_iff.mp found
    exact ⟨(k, x), Dict.mem_entries_iff.mpr here, _, given, holds⟩

theorem valuesOf_append (a b : List (String × Toml)) :
    valuesOf (a ++ b) = valuesOf a ++ valuesOf b := by
  induction a with
  | nil => rfl
  | cons e rest ih => rw [List.cons_append, valuesOf, valuesOf, ih, List.append_assoc]

theorem valuesOf_map {α : Type} (f : α → String × Toml) (xs : List α) :
    valuesOf (xs.map f) = xs.flatMap fun x => (f x).2.values := by
  induction xs with
  | nil => rfl
  | cons x rest ih => rw [List.map_cons, valuesOf, ih, List.flatMap_cons]

theorem valuesOf_tableEntry (name : String) (entries : List (String × Toml)) :
    valuesOf (tableEntry name entries) = valuesOf entries := by
  cases entries with
  | nil => rfl
  | cons e rest => simp [tableEntry, valuesOf, Toml.values]

theorem values_toToml (a : Access) :
    a.toToml.values = (a.auth.map fun auth => auth.fields.map (·.2)).getD [] := by
  have auth : ∀ auth : AuthConfig,
      valuesOf (auth.fields.map fun f => (f.1, .str f.2)) = auth.fields.map (·.2) := by
    intro auth
    rw [valuesOf_map]
    exact List.map_eq_flatMap.symm
  rw [Access.toToml, Toml.values, valuesOf_append]
  cases a.insecure <;> cases a.auth <;> simp [valuesOf, Toml.values, auth]

theorem valuesOf_mirrors (c : ContainerdConfig) :
    valuesOf (c.registryMirrors.entries.map fun e => (e.1, .table [("endpoint", .strings e.2)])) =
      c.registryMirrors.values.flatten := by
  rw [valuesOf_map]
  simp [Toml.values, valuesOf, Dict.values, List.flatMap_def]

theorem exists_configs {c : ContainerdConfig} {p : String → Prop} :
    (∃ s ∈ valuesOf (c.access.entries.map fun e => (e.1, e.2.toToml)), p s) ↔
      ∃ s ∈ c.registryCredentials.values.flatMap fun a => a.fields.map (·.2), p s := by
  have each := exists_access (c := c) (p := fun a => ∃ s ∈ a.fields.map (·.2), p s)
  rw [valuesOf_map]
  simp only [List.mem_flatMap, values_toToml]
  constructor
  · rintro ⟨s, ⟨e, member, value⟩, holds⟩
    cases given : e.2.auth with
    | none => simp [given] at value
    | some a =>
      obtain ⟨a, known, s, value, holds⟩ :=
        each.mp ⟨e, member, a, given, s, by simpa [given] using value, holds⟩
      exact ⟨s, ⟨a, known, value⟩, holds⟩
  · rintro ⟨s, ⟨a, known, value⟩, holds⟩
    obtain ⟨e, member, a, given, s, value, holds⟩ := each.mpr ⟨a, known, s, value, holds⟩
    exact ⟨s, ⟨e, member, by simpa [given] using value⟩, holds⟩

theorem valuesOf_document (c : ContainerdConfig) :
    valuesOf c.document = "127.0.0.1:1338" ::
      ((if c.sandboxImage.isEmpty then [] else [c.sandboxImage]) ++
        "io.containerd.runc.v2" :: valuesOf c.registry) := by
  have interface : valuesOf c.runtimeInterface =
      (if c.sandboxImage.isEmpty then [] else [c.sandboxImage]) ++
        "io.containerd.runc.v2" :: valuesOf c.registry := by
    rw [runtimeInterface, valuesOf_append]
    split <;> simp [valuesOf, Toml.values]
  simp [document, valuesOf, Toml.values, interface]

/-- What is fixed in a document has one line, so a line with others below it is one of a value. -/
theorem exists_document {c : ContainerdConfig} {d : List Char} :
    (∃ s ∈ valuesOf c.document, Breaks d s) ↔ ∃ s ∈ c.values, Breaks d s := by
  have single : ∀ s : String, '\n' ∉ s.toList → ¬ Breaks d s := by
    intro s flat breaks
    rw [Breaks, Text.splitOn_of_not_mem flat] at breaks
    cases breaks
  have address : ¬ Breaks d "127.0.0.1:1338" := single _ (by decide)
  have kind : ¬ Breaks d "io.containerd.runc.v2" := single _ (by decide)
  have image : (∃ s ∈ (if c.sandboxImage.isEmpty then [] else [c.sandboxImage]), Breaks d s) ↔
      Breaks d c.sandboxImage := by
    split
    · rename_i none
      have missing : ¬ Breaks d c.sandboxImage := by
        rw [String.isEmpty_iff.mp none]
        exact single _ (by decide)
      simp [missing]
    · simp
  rw [valuesOf_document, registry, valuesOf_append, valuesOf_tableEntry, valuesOf_tableEntry,
    valuesOf_mirrors, values]
  simp only [List.mem_cons, List.mem_append, or_and_right, exists_or, exists_eq_left, image,
    exists_configs, address, kind, false_or]

theorem mem_lines_config {d : List Char} (bare : Bare d) (c : ContainerdConfig) :
    d ∈ Text.splitOn '\n' (Text.trimEnd c.config).toList ↔ ∃ s ∈ c.values, Breaks d s := by
  have filled : ownLines c.document ≠ [] := by simp [document, ownLines, isTable]
  rw [← exists_document, ← mem_lines_documentText bare, documentText_trimmed filled,
    Text.splitOn_append_sep, Text.trimEnd, config, String.toList_ofList, String.toList_ofList]
  simp [Text.splitOn, bare.1]

end ContainerdConfig

namespace DockerConfig

variable {d : List Char}

theorem plain_of_bare (bare : Toml.Bare d) : Json.Plain d := by
  intro c mark member
  have marks : ∀ c ∈ Json.punctuation, Toml.isBareChar c = false := by
    simp [Json.punctuation, Toml.isBareChar]
  cases (marks c mark).symm.trans (bare.2 c member)

theorem not_mem_lines_pretty (bare : Toml.Bare d) (members : List (String × Json)) :
    d ∉ Text.splitOn '\n' (Text.trimEnd (Json.obj members).pretty).toList := by
  rw [Text.trimEnd, Json.pretty, String.toList_ofList, String.toList_ofList,
    Json.dropTrailingBlanks_prettyText]
  exact Json.not_mem_lines_prettyText (plain_of_bare bare) 0 members

theorem not_mem_lines_authConfig (bare : Toml.Bare d) {c : DockerConfig} {content : String}
    (given : c.authConfig = some content) :
    d ∉ Text.splitOn '\n' (Text.trimEnd content).toList := by
  unfold authConfig at given
  split at given
  · cases given
  · cases given
    exact not_mem_lines_pretty bare _

end DockerConfig

namespace Engine

/-- The values that a file of the engine holds as they are, with all their lines. -/
def values : Engine → List String
  | .docker _ => []
  | .containerd c => c.values

variable {d : List Char}

/-- A word stands alone on a line of the configuration exactly if it does in a value, with another
line below it. -/
theorem mem_lines_config (bare : Toml.Bare d) (e : Engine) :
    d ∈ Text.splitOn '\n' (Text.trimEnd e.config).toList ↔ ∃ s ∈ e.values, Toml.Breaks d s := by
  cases e with
  | docker c =>
    have absent : d ∉ Text.splitOn '\n' (Text.trimEnd c.config).toList :=
      DockerConfig.not_mem_lines_pretty bare _
    exact iff_of_false absent (by simp [values])
  | containerd c => exact c.mem_lines_config bare

theorem not_mem_lines_authConfig (bare : Toml.Bare d) {e : Engine} {content : String}
    (given : e.authConfig = some content) :
    d ∉ Text.splitOn '\n' (Text.trimEnd content).toList := by
  cases e with
  | docker c => exact DockerConfig.not_mem_lines_authConfig bare given
  | containerd c => cases given

end Engine

end MachineFleet
