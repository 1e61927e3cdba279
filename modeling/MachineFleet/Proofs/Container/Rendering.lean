import MachineFleet.Proofs.Dict
import MachineFleet.Userdata

/-!
When an engine's files and its script can be rendered. A script fails where its template names a
variable that the engine does not set, and a configuration where a number is too large for it;
neither happens to an engine. So a boot script fails only for a system without a template.
-/

namespace MachineFleet

namespace Script

def Part.name? : Part → Option String
  | .text _ => none
  | .slot name => some name

def Template.names (t : Template) : List String := t.flatten.filterMap Part.name?

theorem renderLine_ok_iff (context : Dict String) (line : List Part) :
    (∃ s, renderLine context line = .ok s) ↔
      ∀ name ∈ line.filterMap Part.name?, context.contains name = true := by
  induction line with
  | nil => simp [renderLine]
  | cons part rest ih =>
    cases part with
    | text s =>
      rw [List.filterMap_cons_none rfl, ← ih, renderLine]
      cases renderLine context rest <;> simp [bind, Except.bind, pure, Except.pure]
    | slot name =>
      have named : Part.name? (.slot name) = some name := rfl
      rw [List.filterMap_cons_some named, List.forall_mem_cons, ← ih, renderLine, Dict.contains]
      cases context.get? name with
      | none => simp
      | some value => cases renderLine context rest <;> simp [bind, Except.bind, pure, Except.pure]

theorem renderLines_ok_iff (context : Dict String) (t : Template) :
    (∃ ss, renderLines context t = .ok ss) ↔
      ∀ name ∈ Template.names t, context.contains name = true := by
  unfold Template.names
  induction t with
  | nil => simp [renderLines]
  | cons line rest ih =>
    rw [List.flatten_cons, List.filterMap_append, List.forall_mem_append, ← renderLine_ok_iff, ← ih,
      renderLines]
    cases renderLine context line with
    | error e => simp [bind, Except.bind]
    | ok s => cases renderLines context rest <;> simp [bind, Except.bind, pure, Except.pure]

/-- A template is rendered exactly if the context has all that it names. -/
theorem render_ok_iff (context : Dict String) (t : Template) :
    (∃ s, render context t = .ok s) ↔ ∀ name ∈ Template.names t, context.contains name = true := by
  rw [← renderLines_ok_iff, render]
  cases renderLines context t <;> simp [Except.map]

theorem containerd_names {os : OperatingSystem} {t : Template} (found : containerd os = some t) :
    ∀ name ∈ Template.names t, name ∈ ["containerd_version"] := by
  cases os <;> cases found <;> decide

theorem docker_names {os : OperatingSystem} {t : Template} (found : docker os = some t) :
    ∀ name ∈ Template.names t, name ∈ ["docker_version", "containerd_version"] := by
  cases os <;> cases found <;> decide

end Script

namespace Toml

theorem fitsAll_append (a b : List (String × Toml)) :
    fitsAll (a ++ b) = (fitsAll a && fitsAll b) := by
  induction a with
  | nil => rfl
  | cons e rest ih => rw [List.cons_append, fitsAll, fitsAll, ih, Bool.and_assoc]

theorem fitsAll_map {α : Type} {f : α → String × Toml} (each : ∀ x, (f x).2.fits = true)
    (xs : List α) : fitsAll (xs.map f) = true := by
  induction xs with
  | nil => rfl
  | cons x rest ih =>
    rw [List.map_cons, fitsAll, ih, Bool.and_true]
    exact each x

end Toml

namespace ContainerdConfig

open Toml

theorem fits_toToml (a : Access) : a.toToml.fits = true := by
  have auth : ∀ auth : AuthConfig, fitsAll (auth.fields.map fun f => (f.1, .str f.2)) = true :=
    fun auth => fitsAll_map (fun _ => rfl) _
  rw [Access.toToml, fits, fitsAll_append]
  cases a.insecure <;> cases a.auth <;> simp [fitsAll, fits, auth]

theorem fitsAll_tableEntry (name : String) {entries : List (String × Toml)}
    (within : fitsAll entries = true) : fitsAll (tableEntry name entries) = true := by
  unfold tableEntry
  split
  · rfl
  · simp [fitsAll, fits, within]

theorem fitsAll_registry (c : ContainerdConfig) : fitsAll c.registry = true := by
  rw [registry, fitsAll_append, fitsAll_tableEntry _ (fitsAll_map (fun _ => rfl) _),
    fitsAll_tableEntry _ (fitsAll_map (fun e => fits_toToml e.2) _)]
  rfl

theorem fitsAll_document (c : ContainerdConfig) : fitsAll c.document = true := by
  have interface : fitsAll c.runtimeInterface = true := by
    rw [runtimeInterface, fitsAll_append]
    cases c.sandboxImage.isEmpty <;> simp [fitsAll, fits, c.fitsAll_registry]
  simp [document, fitsAll, fits, interface]

theorem render_eq (c : ContainerdConfig) : c.render = .ok c.config := by
  rw [render, encode, if_pos c.fitsAll_document]
  rfl

end ContainerdConfig

theorem DockerConfig.renderAuth_eq (c : DockerConfig) : c.renderAuth = .ok c.authConfig := by
  unfold renderAuth authConfig
  split <;> rfl

namespace Engine

variable {e : Engine} {os : OperatingSystem}

theorem context_contains {t : Script.Template} (found : e.template os = some t) :
    ∀ name ∈ Script.Template.names t, e.context.contains name = true := by
  intro name named
  cases e with
  | docker c =>
    have known := Script.docker_names found name named
    simp only [List.mem_cons, List.not_mem_nil, or_false] at known
    rcases known with rfl | rfl <;> simp [context, Dict.ofList, Dict.contains, Dict.get?_insert]
  | containerd c =>
    rw [List.mem_singleton.mp (Script.containerd_names found name named)]
    simp [context, Dict.ofList, Dict.contains, Dict.get?_insert]

theorem template_isSome (e : Engine) (os : OperatingSystem) :
    (e.template os).isSome = os.isSupported := by
  cases e <;> cases os <;> rfl

theorem script_ok (e : Engine) (supported : os.isSupported = true) :
    ∃ s, e.script os = .ok s := by
  rw [← e.template_isSome] at supported
  obtain ⟨t, found⟩ := Option.isSome_iff_exists.mp supported
  obtain ⟨s, rendered⟩ := (Script.render_ok_iff e.context t).mpr (context_contains found)
  refine ⟨s, ?_⟩
  rw [script, found]
  exact rendered

theorem script_of_unsupported (e : Engine) (unsupported : os.isSupported = false) :
    e.script os = .error (.unknownOperatingSystem os.name) := by
  rw [← e.template_isSome, Option.isSome_eq_false_iff, Option.isNone_iff_eq_none] at unsupported
  rw [script, unsupported]

theorem renderConfig_eq (e : Engine) : e.renderConfig = .ok e.config := by
  cases e with
  | docker c => rfl
  | containerd c => exact c.render_eq

theorem renderAuth_eq (e : Engine) : e.renderAuth = .ok e.authConfig := by
  cases e with
  | docker c => exact c.renderAuth_eq
  | containerd c => rfl

end Engine

namespace Userdata

/-- A boot script for an engine, with what installs the engine and what the operator adds. -/
def assembled (e : Engine) (script : String) (extra : Option String) : String :=
  "#!/bin/bash\nset -xeuo pipefail\n" ++ files e e.config e.authConfig ++ install script ++
    extraPart extra

theorem build_eq (e : Engine) (os : OperatingSystem) (extra : Option String) :
    build e os extra = (e.script os).map fun script => assembled e script extra := by
  rw [build, e.renderConfig_eq, e.renderAuth_eq]
  cases e.script os <;> rfl

theorem build_ok (e : Engine) {os : OperatingSystem} (extra : Option String)
    (supported : os.isSupported = true) :
    ∃ script, e.script os = .ok script ∧ build e os extra = .ok (assembled e script extra) := by
  obtain ⟨script, rendered⟩ := e.script_ok supported
  exact ⟨script, rendered, by rw [build_eq, rendered, Except.map]⟩

end Userdata

end MachineFleet
