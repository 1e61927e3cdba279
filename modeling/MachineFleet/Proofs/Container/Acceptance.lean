import MachineFleet.Proofs.Container.Rendering
import MachineFleet.Proofs.Text.Blank

/-!
Runtime options that are accepted. All that can be wrong with them is found when they are read:
whatever kubelet and system a node has, its files and its script can be rendered, unless the
system is one that no engine knows.
-/

namespace MachineFleet

/-- A URL by which a registry can be reached. -/
def Url.Reachable (u : String) : Prop :=
  ∃ p, Url.read u = .ok p ∧ (p.scheme = some "http" ∨ p.scheme = some "https") ∧ p.host ≠ []

namespace Mirrors

def Reachable (m : Mirrors) : Prop := ∀ e ∈ m.entries, ∀ u ∈ e.2, Url.Reachable u

theorem url_reachable {mirror : List Char} {u : String} (h : url mirror = .ok u) :
    Url.Reachable u := by
  unfold url at h
  dsimp only at h
  split at h
  · cases h
  · cases h
  · rename_i scheme host read
    split at h
    · cases h
    rename_i supported
    split at h
    · cases h
    rename_i filled
    cases h
    refine ⟨_, read, ?_, by simpa using filled⟩
    simpa [Classical.or_iff_not_imp_left] using supported

theorem entry_reachable {token : List Char} {registry u : String}
    (h : entry token = .ok (registry, u)) : Url.Reachable u := by
  unfold entry at h
  dsimp only at h
  split at h
  · cases h
  · cases read : url (parts token).2 with
    | error e =>
      rw [read] at h
      cases h
    | ok u' =>
      rw [read] at h
      cases h
      exact url_reachable read

theorem Reachable.add {m : Mirrors} (reachable : m.Reachable) {registry u : String}
    (url : Url.Reachable u) : (m.add registry u).Reachable := by
  intro e member v listed
  rcases Dict.mem_insertEntry member with rfl | known
  · rcases List.mem_append.mp listed with earlier | last
    · cases found : m.get? registry with
      | none =>
        rw [found] at earlier
        cases earlier
      | some us =>
        rw [found] at earlier
        exact reachable _ (Dict.mem_entries_iff.mpr found) v earlier
    · rw [List.mem_singleton.mp last]
      exact url
  · exact reachable e known v listed

theorem addTokens_reachable {m m' : Mirrors} {tokens : List (List Char)} (reachable : m.Reachable)
    (h : addTokens m tokens = .ok m') : m'.Reachable := by
  induction tokens generalizing m with
  | nil =>
    cases h
    exact reachable
  | cons token rest ih =>
    unfold addTokens at h
    cases read : entry token with
    | error e =>
      rw [read] at h
      cases h
    | ok found =>
      obtain ⟨registry, u⟩ := found
      rw [read] at h
      exact ih (reachable.add (entry_reachable read)) h

theorem read_reachable {input : String} {m : Mirrors} (h : read input = .ok m) : m.Reachable :=
  addTokens_reachable (fun _ member => absurd member List.not_mem_nil) h

end Mirrors

namespace RuntimeConfig

/-- What was accepted is complete and without blanks around it. -/
structure Sound (c : RuntimeConfig) : Prop where
  mirrors : c.registryMirrors.Reachable
  sandboxImage : c.sandboxImage ≠ "" ∧ Text.trim c.sandboxImage = c.sandboxImage
  containerdVersion : c.containerdVersion ≠ "" ∧ Text.trim c.containerdVersion = c.containerdVersion

end RuntimeConfig

namespace RuntimeOptions

theorem orDefault_sound (value : String) {default : String}
    (sound : default ≠ "" ∧ Text.trim default = default) :
    orDefault value default ≠ "" ∧
      Text.trim (orDefault value default) = orDefault value default := by
  unfold orDefault
  dsimp only
  split
  · exact sound
  · rename_i given
    exact ⟨by simpa using given, Text.trim_trim value⟩

theorem defaultSandboxImage_sound :
    defaultSandboxImage ≠ "" ∧ Text.trim defaultSandboxImage = defaultSandboxImage := by
  decide +kernel

theorem defaultContainerdVersion_sound :
    defaultContainerdVersion ≠ "" ∧
      Text.trim defaultContainerdVersion = defaultContainerdVersion := by
  decide +kernel

theorem build_sound {o : RuntimeOptions} {store : Option ObjectStore} {c : RuntimeConfig}
    (built : o.build store = .ok c) : c.Sound := by
  unfold build at built
  cases requested : o.requested with
  | error e =>
    rw [requested] at built
    cases built
  | ok kind =>
  cases loaded : o.credentials store with
  | error e =>
    rw [requested, loaded] at built
    cases built
  | ok credentials =>
  cases read : Mirrors.read o.registryMirrors with
  | error e =>
    rw [requested, loaded, read] at built
    cases built
  | ok mirrors =>
    rw [requested, loaded, read] at built
    obtain rfl := Except.ok.inj built
    refine ⟨Mirrors.read_reachable read, ?_, ?_⟩
    · dsimp only
      exact orDefault_sound o.pauseImage defaultSandboxImage_sound
    · dsimp only
      exact orDefault_sound o.containerdVersion defaultContainerdVersion_sound

end RuntimeOptions

namespace RuntimeConfig

/-- A version that can be read is all that an engine needs. -/
theorem engine_of_kubelet (c : RuntimeConfig) {kubelet : String} {v : Version}
    (h : readKubeletVersion kubelet = .ok v) : ∃ e, c.engine kubelet = .ok e := by
  rw [engine, h]
  cases kind : EngineKind.select v c.requested c.defaultEngine with
  | docker => exact ⟨_, by simp [bind, Except.bind, kind]; rfl⟩
  | containerd => exact ⟨_, by simp [bind, Except.bind, kind]; rfl⟩

end RuntimeConfig

/-- If the options are accepted, then they are sound, and nothing else can fail on them: for every
kubelet with a version that can be read there is an engine, whose configuration and credentials are
encoded and whose boot script is built for every system that has a template, and refused by name
for any other. -/
theorem accepted_options_render {o : RuntimeOptions} {store : Option ObjectStore}
    {c : RuntimeConfig} (built : o.build store = .ok c) :
    c.Sound ∧ ∀ kubelet v, readKubeletVersion kubelet = .ok v →
      ∃ e, c.engine kubelet = .ok e ∧ e.renderConfig = .ok e.config ∧
        e.renderAuth = .ok e.authConfig ∧ ∀ os extra,
        (os.isSupported = true → ∃ text, Userdata.build e os extra = .ok text) ∧
        (os.isSupported = false →
          Userdata.build e os extra = .error (.unknownOperatingSystem os.name)) := by
  refine ⟨RuntimeOptions.build_sound built, fun kubelet v read => ?_⟩
  obtain ⟨e, selected⟩ := c.engine_of_kubelet read
  refine ⟨e, selected, e.renderConfig_eq, e.renderAuth_eq, fun os extra =>
    ⟨fun supported => ?_, fun unsupported => ?_⟩⟩
  · obtain ⟨script, -, built⟩ := Userdata.build_ok e extra supported
    exact ⟨_, built⟩
  · rw [Userdata.build_eq, e.script_of_unsupported unsupported]
    rfl

def mirroredOptions : RuntimeOptions where
  registryMirrors := "quay.io=mirror.example"
  pauseImage := " pause:3.9 "

theorem mirrored_options_render : ∃ c v,
    mirroredOptions.build none = .ok c ∧ c.Sound ∧ readKubeletVersion "1.30.2" = .ok v ∧
      ∃ e, c.engine "1.30.2" = .ok e ∧ e.renderConfig = .ok e.config ∧
        e.renderAuth = .ok e.authConfig ∧ ∃ text, Userdata.build e .flatcar none = .ok text := by
  have accepted : (mirroredOptions.build none).toOption.isSome = true := by decide +kernel
  have version : (readKubeletVersion "1.30.2").toOption.isSome = true := by decide +kernel
  cases built : mirroredOptions.build none with
  | error e =>
    rw [built] at accepted
    cases accepted
  | ok c =>
    cases read : readKubeletVersion "1.30.2" with
    | error e =>
      rw [read] at version
      cases version
    | ok v =>
      obtain ⟨sound, renders⟩ := accepted_options_render built
      obtain ⟨e, selected, encoded, credentials, scripts⟩ := renders "1.30.2" v read
      exact ⟨c, v, rfl, sound, rfl, e, selected, encoded, credentials,
        (scripts .flatcar none).1 rfl⟩

end MachineFleet
