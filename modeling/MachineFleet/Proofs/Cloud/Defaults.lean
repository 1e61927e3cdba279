import MachineFleet.Proofs.Cloud.Format
import MachineFleet.Registry

/-!
Filling in the defaults of a specification. It puts a specification into a form that it leaves as it
is, and changes nothing that is read from it but the location of a Hetzner machine that has neither
a location nor a datacenter.
-/

namespace MachineFleet

open Json

theorem StringVar.isEmpty_iff (v : StringVar) : v.isEmpty = true ↔ v = {} := by
  constructor
  · intro empty
    obtain ⟨text, bare⟩ := Bool.and_eq_true_iff.mp empty
    obtain ⟨value, refs⟩ := v
    obtain rfl : value = "" := String.isEmpty_iff.mp text
    obtain rfl : refs = {} := References.eq_of_isNone (by simpa [hasReference] using bare)
    rfl
  · rintro rfl
    rfl

/-- With the location that is chosen where nothing says where the machine is to stand. -/
def Hetzner.Spec.placed (s : Spec) : Spec :=
  if s.datacenter = {} ∧ s.location = {} then { s with location := .literal "fsn1" } else s

/-- What a cloud makes of a specification, seen through its reader of envelopes and payloads. Any
further call answers the same specification. The payload stays a document in the envelope; it may
be written differently there, but the same is read from it. -/
structure Defaulted {α : Type} (settings : CloudSettings) (cloud : CloudProvider)
    (payload : MachineSpec → Except CloudError (ProviderConfig × α)) (filled : α → α)
    (spec spec' : MachineSpec) : Prop where
  again : ∀ w, Clouds.answer settings cloud (.addDefaults spec') w = (.ok spec', w)
  others : spec' = { spec with provider := spec'.provider }
  reads : ∀ c s, payload spec = .ok (c, s) →
    ∃ j, payload spec' = .ok ({ c with cloudProviderSpec := j }, filled s)

section Rewriting

variable {α : Type}

/-- Reads the payload of a specification and writes it with more filled in. -/
def refill (payload : MachineSpec → Except CloudError (ProviderConfig × α)) (fill : α → α)
    (write : α → Json) (spec : MachineSpec) : Except CloudError MachineSpec := do
  let (c, s) ← payload spec
  return (c.withCloudSpec (write (fill s))).applyTo spec

theorem requirePayload_iff {name : String} {r : Reader α} {spec : MachineSpec}
    {c : ProviderConfig} {s : α} : ProviderConfig.requirePayload name r spec = .ok (c, s) ↔
      ProviderConfig.ofSpec spec = .ok c ∧ c.readCloudSpec r = .ok s := by
  constructor
  · intro read
    obtain ⟨c', envelope, read⟩ := ok_of_bind read
    obtain ⟨s', value, same⟩ := ok_of_bind read
    cases same
    exact ⟨ok_of_mapError envelope.symm, ok_of_mapError value.symm⟩
  · rintro ⟨envelope, value⟩
    unfold ProviderConfig.requirePayload ProviderConfig.require
    rw [envelope]
    show ((c.readCloudSpec r).mapError _ >>= _) = _
    rw [value]
    rfl

theorem ofSpec_settled {spec : MachineSpec} {c : ProviderConfig}
    (read : ProviderConfig.ofSpec spec = .ok c) : c.Settled := by
  unfold ProviderConfig.ofSpec at read
  split at read
  · cases read
  · exact ProviderConfig.reader_settled _ c (ok_of_mapError read.symm)

/-- A payload that has been filled in is read back, and nothing more is filled in. -/
structure Rewrites (P : α → Prop) (r : Reader α) (fill : α → α) (write : α → Json) : Prop where
  gives : Gives P r
  keeps : ∀ s, P s → P (fill s)
  once : ∀ s, fill (fill s) = fill s
  reads : ∀ s, P s → ∀ c : ProviderConfig, (c.withCloudSpec (write s)).readCloudSpec r = .ok s

variable {P : α → Prop} {name : String} {r : Reader α} {fill : α → α} {write : α → Json}
  {spec spec' : MachineSpec}

theorem Rewrites.defaulted {settings : CloudSettings} {cloud : CloudProvider} {w w' : Clouds}
    (rewrites : Rewrites P r fill write)
    (answers : ∀ spec w, Clouds.answer settings cloud (.addDefaults spec) w =
      (refill (ProviderConfig.requirePayload name r) fill write spec, w))
    (answered : Clouds.answer settings cloud (.addDefaults spec) w = (.ok spec', w')) :
    Defaulted settings cloud (ProviderConfig.requirePayload name r) fill spec spec' := by
  have filled : refill (ProviderConfig.requirePayload name r) fill write spec = .ok spec' :=
    congrArg Prod.fst ((answers spec w).symm.trans answered)
  obtain ⟨⟨c, s⟩, read, same⟩ := ok_of_bind filled
  cases same
  obtain ⟨envelope, value⟩ := requirePayload_iff.mp read
  have settled := (ofSpec_settled envelope).withCloudSpec (write (fill s))
  have allowed : P (fill s) := rewrites.keeps s (rewrites.gives _ s (ok_of_mapError value.symm))
  have reread : ProviderConfig.requirePayload name r
      ((c.withCloudSpec (write (fill s))).applyTo spec) =
      .ok (c.withCloudSpec (write (fill s)), fill s) :=
    requirePayload_iff.mpr ⟨ProviderConfig.ofSpec_applyTo settled spec,
      rewrites.reads (fill s) allowed c⟩
  constructor
  case again =>
    intro w
    rw [answers, refill, reread]
    show (Except.ok _, w) = _
    rw [rewrites.once]
    rfl
  case others => rfl
  case reads =>
    intro c' s' read'
    cases read.symm.trans read'
    exact ⟨_, reread⟩

end Rewriting

section Clouds

variable {settings : CloudSettings} {w w' : Clouds} {spec spec' : MachineSpec}

theorem fake_rewrites : Rewrites Fake.Spec.Fits Fake.Spec.reader id Fake.Spec.toJson where
  gives := Fake.Spec.reader_fits
  keeps _ fits := fits
  once _ := rfl
  reads s fits c := ProviderConfig.readCloudSpec_withCloudSpec c
    (Fake.Spec.steady_reader _ s (Fake.Spec.decode_toJson fits))

theorem answer_fake (spec : MachineSpec) (w : Clouds) :
    Clouds.answer settings .fake (.addDefaults spec) w =
      (refill Fake.payload id Fake.Spec.toJson spec, w) := rfl

theorem placed_placed (s : Hetzner.Spec) : s.placed.placed = s.placed := by
  have located : StringVar.literal "fsn1" ≠ {} := by decide
  unfold Hetzner.Spec.placed
  split
  · exact if_neg fun both => located both.2
  · rfl

theorem hetzner_rewrites :
    Rewrites (fun _ => True) Hetzner.Spec.reader Hetzner.Spec.placed Hetzner.Spec.toJson where
  gives := gives_true _
  keeps _ _ := trivial
  once := placed_placed
  reads s _ c := ProviderConfig.readCloudSpec_withCloudSpec c
    (Hetzner.Spec.steady_reader _ s s.decode_toJson)

theorem addDefaults_hetzner (spec : MachineSpec) : Hetzner.addDefaults spec =
    refill Hetzner.payload Hetzner.Spec.placed Hetzner.Spec.toJson spec := by
  have choice : ∀ s : Hetzner.Spec, (if s.datacenter.isEmpty && s.location.isEmpty then
      { s with location := .literal Hetzner.defaultLocation } else s) = s.placed := by
    intro s
    simp only [Bool.and_eq_true, StringVar.isEmpty_iff]
    rfl
  unfold Hetzner.addDefaults refill
  simp only [choice]

theorem answer_hetzner (spec : MachineSpec) (w : Clouds) :
    Clouds.answer settings .hetzner (.addDefaults spec) w =
      (refill Hetzner.payload Hetzner.Spec.placed Hetzner.Spec.toJson spec, w) := by
  rw [← addDefaults_hetzner]
  obtain ⟨fake, network, cache, now, saved⟩ := w
  cases network <;> rfl

theorem answer_vultr (spec : MachineSpec) (w : Clouds) :
    Clouds.answer settings .vultr (.addDefaults spec) w = (.ok spec, w) := by
  obtain ⟨fake, network, cache, now, saved⟩ := w
  cases network <;> rfl

theorem vultr_defaulted
    (answered : Clouds.answer settings .vultr (.addDefaults spec) w = (.ok spec', w')) :
    Defaulted settings .vultr Vultr.payload id spec spec' := by
  rw [answer_vultr] at answered
  cases answered
  constructor
  case again => exact fun w => answer_vultr spec w
  case others => rfl
  case reads => exact fun c s read => ⟨c.cloudProviderSpec, read⟩

end Clouds

/-- Where a cloud fills in the defaults of a specification, it does so once and for all, outside of
the provider section nothing changes, and the same envelope and payload are read as before. Only a
Hetzner machine without a location and without a datacenter is given a location. -/
theorem defaults_settle (settings : CloudSettings) (spec spec' : MachineSpec) (w w' : Clouds) :
    (Clouds.answer settings .fake (.addDefaults spec) w = (.ok spec', w') →
      Defaulted settings .fake Fake.payload id spec spec') ∧
    (Clouds.answer settings .hetzner (.addDefaults spec) w = (.ok spec', w') →
      Defaulted settings .hetzner Hetzner.payload Hetzner.Spec.placed spec spec') ∧
    (Clouds.answer settings .vultr (.addDefaults spec) w = (.ok spec', w') →
      Defaulted settings .vultr Vultr.payload id spec spec') ∧
    ∀ s : Hetzner.Spec, s.datacenter ≠ {} → s.placed.location = s.location := by
  refine ⟨fake_rewrites.defaulted answer_fake, hetzner_rewrites.defaulted answer_hetzner,
    vultr_defaulted, fun s chosen => ?_⟩
  rw [Hetzner.Spec.placed, if_neg fun both => chosen both.1]

/-- A specification without any settings for its cloud. -/
def bareSpec (cloud : CloudProvider) : MachineSpec :=
  { provider := some (.obj [("cloudProvider", cloud.toJson), ("operatingSystem", .str "ubuntu")]) }

theorem bare_settings_settle :
    (∃ spec', Clouds.answer {} .fake (.addDefaults (bareSpec .fake)) {} = (.ok spec', {}) ∧
      Defaulted {} .fake Fake.payload id (bareSpec .fake) spec') ∧
    (∃ spec', Clouds.answer {} .hetzner (.addDefaults (bareSpec .hetzner)) {} = (.ok spec', {}) ∧
      Defaulted {} .hetzner Hetzner.payload Hetzner.Spec.placed (bareSpec .hetzner) spec') ∧
    (∃ spec', Clouds.answer {} .vultr (.addDefaults (bareSpec .vultr)) {} = (.ok spec', {}) ∧
      Defaulted {} .vultr Vultr.payload id (bareSpec .vultr) spec') ∧
    (Hetzner.Spec.placed { datacenter := .literal "hel1-dc2" }).location = {} := by
  refine ⟨⟨_, rfl, ?_⟩, ⟨_, rfl, ?_⟩, ⟨_, rfl, ?_⟩, ?_⟩
  · exact (defaults_settle {} _ _ {} {}).1 rfl
  · exact (defaults_settle {} _ _ {} {}).2.1 rfl
  · exact (defaults_settle {} _ _ {} {}).2.2.1 rfl
  · exact (defaults_settle {} (bareSpec .hetzner) {} {} {}).2.2.2 _ (by decide)

end MachineFleet
