import Mathlib.Data.Prod.Lex
import MachineFleet.Proofs.Container.Acceptance
import MachineFleet.Proofs.Outcome

/-!
Which engine a kubelet gets, and with what. Only the release of the kubelet counts, in the order of
its three numbers: up to one release the operator has a choice of engines, and up to another one the
kubelet is told what its runtime is.
-/

namespace MachineFleet

namespace Version

/-- One release comes before another: the first number that differs decides. -/
def Before : Nat × Nat × Nat → Nat × Nat × Nat → Prop :=
  Prod.Lex (· < ·) (Prod.Lex (· < ·) (· < ·))

theorem releaseBefore_iff {v : Version} {major minor patch : Nat} :
    v.releaseBefore major minor patch = true ↔ Before v.release (major, minor, patch) := by
  simp [releaseBefore, Before, release, Prod.lex_def]

theorem Before.of_not_before {t t' u : Nat × Nat × Nat} (before : Before t' u)
    (later : ¬ Before t' t) : Before t u := by
  simp only [Before, Prod.lex_def] at *
  omega

theorem Before.trans {t t' u : Nat × Nat × Nat} (first : Before t t') (second : Before t' u) :
    Before t u := by
  simp only [Before, Prod.lex_def] at *
  omega

end Version

open Version (Before)

theorem EngineKind.select_eq_docker_iff {v : Version} {requested : Option EngineKind}
    {default : EngineKind} : select v requested default = .docker ↔
      Before v.release (1, 24, 0) ∧ requested.getD default = .docker := by
  rw [← Version.releaseBefore_iff, select]
  split
  case isTrue before => simp [before]
  case isFalse later => simp [later]

/-- A flag that tells the kubelet which runtime it has. -/
def IsRuntimeFlag (flag : String) : Prop := "--container-runtime=".toList <+: flag.toList

instance (flag : String) : Decidable (IsRuntimeFlag flag) :=
  inferInstanceAs (Decidable (_ <+: _))

namespace Engine

/-- The engine has the registries and the credentials that were set; docker has the mirrors of its
own registry only. -/
def Carries (c : RuntimeConfig) : Engine → Prop
  | .docker d => d.insecureRegistries = c.insecureRegistries ∧
    d.registryCredentials = c.registryCredentials ∧
    d.registryMirrors = (c.registryMirrors.get? "docker.io").getD []
  | .containerd d => d.insecureRegistries = c.insecureRegistries ∧
    d.registryCredentials = c.registryCredentials ∧ d.registryMirrors = c.registryMirrors

theorem docker_isRuntimeFlag : ∃ flag ∈ DockerConfig.kubeletFlags, IsRuntimeFlag flag :=
  ⟨"--container-runtime=docker", List.mem_cons_self, by decide +kernel⟩

theorem containerd_isRuntimeFlag {d : ContainerdConfig} :
    (∃ flag ∈ d.kubeletFlags, IsRuntimeFlag flag) ↔ d.remoteRuntimeFlag = true := by
  have remote : IsRuntimeFlag "--container-runtime=remote" := by decide +kernel
  have endpoint : ¬ IsRuntimeFlag
      "--container-runtime-endpoint=unix:///run/containerd/containerd.sock" := by decide +kernel
  cases told : d.remoteRuntimeFlag with
  | true => simp [ContainerdConfig.kubeletFlags, told, remote]
  | false => simp [ContainerdConfig.kubeletFlags, told, endpoint]

end Engine

namespace RuntimeConfig

/-- The two engines that a kubelet can get. -/
theorem engine_cases {c : RuntimeConfig} {kubelet : String} {v : Version} {e : Engine}
    (read : readKubeletVersion kubelet = .ok v) (h : c.engine kubelet = .ok e) :
    (∃ d, e = .docker d ∧ EngineKind.select v c.requested c.defaultEngine = .docker ∧
      e.Carries c) ∨
    (∃ d, e = .containerd d ∧ EngineKind.select v c.requested c.defaultEngine = .containerd ∧
      e.Carries c ∧ d.remoteRuntimeFlag = v.releaseBefore 1 27 0) := by
  obtain ⟨v', same, h⟩ := ok_of_bind h
  obtain rfl := Except.ok.inj (read.symm.trans same)
  cases kind : EngineKind.select v c.requested c.defaultEngine with
  | docker =>
    rw [kind] at h
    obtain rfl := Except.ok.inj h
    exact .inl ⟨_, rfl, rfl, rfl, rfl, rfl⟩
  | containerd =>
    rw [kind] at h
    obtain rfl := Except.ok.inj h
    exact .inr ⟨_, rfl, rfl, ⟨rfl, rfl, rfl⟩, rfl⟩

theorem engine_kind {c : RuntimeConfig} {kubelet : String} {v : Version} {e : Engine}
    (read : readKubeletVersion kubelet = .ok v) (h : c.engine kubelet = .ok e) :
    e.kind = EngineKind.select v c.requested c.defaultEngine := by
  obtain ⟨d, rfl, kind, -⟩ | ⟨d, rfl, kind, -⟩ := engine_cases read h
  · exact kind.symm
  · exact kind.symm

theorem engine_carries {c : RuntimeConfig} {kubelet : String} {v : Version} {e : Engine}
    (read : readKubeletVersion kubelet = .ok v) (h : c.engine kubelet = .ok e) : e.Carries c := by
  obtain ⟨-, -, -, carries⟩ | ⟨-, -, -, carries, -⟩ := engine_cases read h
  · exact carries
  · exact carries

/-- A docker that is told to the kubelet needs no second bound: its releases are all below it. -/
theorem engine_isRuntimeFlag_iff {c : RuntimeConfig} {kubelet : String} {v : Version} {e : Engine}
    (read : readKubeletVersion kubelet = .ok v) (h : c.engine kubelet = .ok e) :
    (∃ flag ∈ e.kubeletFlags, IsRuntimeFlag flag) ↔ Before v.release (1, 27, 0) := by
  obtain ⟨d, rfl, kind, -⟩ | ⟨d, rfl, -, -, told⟩ := engine_cases read h
  · have choice : Before v.release (1, 24, 0) := (EngineKind.select_eq_docker_iff.mp kind).1
    have bounds : Before (1, 24, 0) (1, 27, 0) := by simp [Before, Prod.lex_def]
    exact iff_of_true Engine.docker_isRuntimeFlag (choice.trans bounds)
  · rw [← Version.releaseBefore_iff, ← told]
    exact Engine.containerd_isRuntimeFlag

/-- A later kubelet does not get docker back. -/
theorem containerd_remains {c : RuntimeConfig} {kubelet kubelet' : String} {v v' : Version}
    {e e' : Engine} (read : readKubeletVersion kubelet = .ok v) (h : c.engine kubelet = .ok e)
    (read' : readKubeletVersion kubelet' = .ok v') (h' : c.engine kubelet' = .ok e')
    (later : ¬ Before v'.release v.release) (containerd : e.kind = .containerd) :
    e'.kind = .containerd := by
  cases kind : e'.kind with
  | containerd => rfl
  | docker =>
    rw [engine_kind read' h', EngineKind.select_eq_docker_iff] at kind
    have docker : e.kind = .docker := by
      rw [engine_kind read h, EngineKind.select_eq_docker_iff]
      exact ⟨kind.1.of_not_before later, kind.2⟩
    rw [docker] at containerd
    cases containerd

/-- For every configuration and every kubelet version that can be read there is an engine, of the
kind that is selected on its own. It is docker for a release before 1.24.0 where docker is asked
for, or is the default and nothing is asked for, and no later release gets docker where an earlier
one does not. The kubelet is told its runtime in a release before 1.27.0, and the engine carries
what was set for registries. -/
theorem engines_follow_releases (c : RuntimeConfig) {kubelet : String} {v : Version}
    (read : readKubeletVersion kubelet = .ok v) :
    ∃ e, c.engine kubelet = .ok e ∧
      selectEngine kubelet c.requested c.defaultEngine = .ok e.kind ∧
      (e.kind = .docker ↔
        Before v.release (1, 24, 0) ∧ c.requested.getD c.defaultEngine = .docker) ∧
      (∀ kubelet' v' e', readKubeletVersion kubelet' = .ok v' → c.engine kubelet' = .ok e' →
        ¬ Before v'.release v.release → e.kind = .containerd → e'.kind = .containerd) ∧
      ((∃ flag ∈ e.kubeletFlags, IsRuntimeFlag flag) ↔ Before v.release (1, 27, 0)) ∧
      e.Carries c := by
  obtain ⟨e, h⟩ := c.engine_of_kubelet read
  have kind := engine_kind read h
  refine ⟨e, h, ?_, ?_, ?_, engine_isRuntimeFlag_iff read h, engine_carries read h⟩
  · rw [selectEngine, read, kind]
    rfl
  · rw [kind, EngineKind.select_eq_docker_iff]
  · intro kubelet' v' e' read' h'
    exact containerd_remains read h read' h'

def dockerRequested : RuntimeConfig where
  requested := some .docker
  insecureRegistries := ["registry.local:5000"]
  registryMirrors := (Dict.empty.insert "docker.io" ["https://mirror.example"]).insert "quay.io"
    ["https://quay.example"]

/-- A candidate of the release that ends the choice counts as that release. -/
theorem requested_docker_ends : ∃ e e',
    readKubeletVersion "v1.23.17" = .ok ⟨1, 23, 17, "", ""⟩ ∧
    dockerRequested.engine "v1.23.17" = .ok e ∧ e.kind = .docker ∧ e.Carries dockerRequested ∧
    readKubeletVersion "1.24-rc.1" = .ok ⟨1, 24, 0, "rc.1", ""⟩ ∧
    dockerRequested.engine "1.24-rc.1" = .ok e' ∧ e'.kind = .containerd ∧
    ∃ flag ∈ e'.kubeletFlags, IsRuntimeFlag flag := by
  have last : readKubeletVersion "v1.23.17" = .ok ⟨1, 23, 17, "", ""⟩ := by decide +kernel
  have candidate : readKubeletVersion "1.24-rc.1" = .ok ⟨1, 24, 0, "rc.1", ""⟩ := by
    decide +kernel
  obtain ⟨e, h, -, kind, -, -, carries⟩ := dockerRequested.engines_follow_releases last
  obtain ⟨e', h', -, kind', -, told, -⟩ := dockerRequested.engines_follow_releases candidate
  have containerd : ¬ e'.kind = .docker := by
    rw [kind']
    simp [Before, Prod.lex_def, Version.release]
  refine ⟨e, e', last, h, kind.mpr ⟨?_, rfl⟩, carries, candidate, h', ?_, told.mpr ?_⟩
  · simp [Before, Prod.lex_def, Version.release]
  · cases named : e'.kind with
    | docker => exact absurd named containerd
    | containerd => rfl
  · simp [Before, Prod.lex_def, Version.release]

end RuntimeConfig

end MachineFleet
