import MachineFleet.Cloud.ValidationCache
import MachineFleet.Proofs.Json.Order
import MachineFleet.Proofs.Json.Wording

/-!
The provider section of a specification and the text that identifies it. Two sections with one
text are read as one envelope, but for floating point numbers in the payloads, or refused in the
same words.
-/

namespace MachineFleet

/-- The digest tells these texts apart. -/
def Digest.Separates (texts : List String) : Prop :=
  ∀ a ∈ texts, ∀ b ∈ texts, hex a = hex b → a = b

/-- The provider section is as every reader leaves it. -/
def MachineSpec.InOrder (s : MachineSpec) : Prop := ∀ v, s.provider = some v → v.InOrder

/-- Every specification that has been read is in order. -/
theorem MachineSpec.reader_inOrder : Json.Gives MachineSpec.InOrder reader := by
  have values : Json.Gives (fun v : Option Json => ∀ j, v = some j → j.InOrder) (.option .any) := by
    refine Json.Gives.option (fun _ same => by cases same) fun d j read j' same => ?_
    exact Option.some.inj same ▸ Json.inOrder_any d read
  have sections : Json.Gives (fun v => ∀ j, v = some j → j.InOrder) providerReader :=
    ((Json.RecordReader.gives_of fun _ holds => holds).orElse values
      (fun _ same => by cases same) "value").read "ProviderSpec"
  have built : ∀ m, True → ∀ ts, True → ∀ v, (∀ j, v = some j → j.InOrder) → ∀ k, True →
      ∀ id, True → (MachineSpec.mk m ts v k id).InOrder :=
    fun _ _ _ _ _ order _ _ _ _ => order
  exact ((((((Json.RecordReader.gives_of built).orElse (Json.gives_true _) trivial
    "metadata").orElse (Json.gives_true _) trivial "taints").orElse sections
    (fun _ same => by cases same) "providerSpec").orElse (Json.gives_true _) trivial
    "versions").orElse (Json.gives_true _) trivial "providerID").read "MachineSpec"

namespace ProviderConfig

open Json Relator

variable {f : Binary64 → Binary64}

/-- The same envelope but for the floating point numbers of its payloads. -/
def Refloated (f : Binary64 → Binary64) (c c' : ProviderConfig) : Prop :=
  c' = { c with
    cloudProviderSpec := c.cloudProviderSpec.mapFloats f
    operatingSystemSpec := c.operatingSystemSpec.mapFloats f }

section Readers

variable (texts : ∀ x, Decimal.format (f x) = Decimal.format x)
include texts

theorem faithful_network : Faithful f Eq NetworkConfig.reader := by
  have strings : Faithful f Eq Reader.string := faithful_string texts
  have dns : Faithful f Eq NetworkConfig.dnsReader :=
    ((RecordReader.Faithful.of rfl).orElse_eq (strings.list texts) "servers").read texts "DnsConfig"
  have families : Faithful f Eq IpFamily.reader := faithful_oneOf texts _
  exact ((((RecordReader.Faithful.of rfl).orElse_eq strings "cidr").orElse_eq strings
    "gateway").orElse_eq dns "dns").orElse_eq families.option "ipFamily" |>.read texts
    "NetworkConfig"

theorem faithful_reader : Faithful f (Refloated f) reader := by
  have strings : Faithful f Eq Reader.string := faithful_string texts
  have systems : Faithful f Eq OperatingSystem.reader := fun d =>
    (strings d).map fun _ _ same => congrArg OperatingSystem.ofName same
  have payloads : Faithful f (Json.Refloated f) .any := faithful_any
  have absent : Json.Refloated f .null .null := rfl
  have built : (Eq ⇒ Eq ⇒ Json.Refloated f ⇒ Eq ⇒ Json.Refloated f ⇒ Eq ⇒ Eq ⇒ Refloated f)
      ProviderConfig.mk ProviderConfig.mk := by
    rintro a _ rfl b _ rfl c _ rfl d _ rfl e _ rfl g _ rfl h _ rfl
    rfl
  exact (((((((RecordReader.Faithful.of built).orElse (strings.list texts) rfl
    "sshPublicKeys").required (faithful_oneOf texts _) "cloudProvider").orElse payloads absent
    "cloudProviderSpec").required systems "operatingSystem").orElse payloads absent
    "operatingSystemSpec").orElse (faithful_network texts).option rfl "network").orElse
    strings.option rfl "overwriteCloudConfig" |>.read texts "ProviderConfig"

end Readers

end ProviderConfig

namespace ValidationCache

open Json

/-- Sections in order with one text are the same but for floating point numbers. -/
theorem section_tells {s s' : MachineSpec} (order : s.InOrder) (order' : s'.InOrder)
    {v v' : Json} (present : s.provider = some v) (present' : s'.provider = some v')
    (same : canonicalText s = canonicalText s') : v.mapFloats standIn = v'.mapFloats standIn := by
  simp only [canonicalText, present, present'] at same
  rw [sorted_of_inOrder v (order v present), sorted_of_inOrder v' (order' v' present')] at same
  exact compact_tells same

end ValidationCache

end MachineFleet
