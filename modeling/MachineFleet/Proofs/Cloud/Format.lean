import MachineFleet.Fake
import MachineFleet.Hetzner.Machines
import MachineFleet.Proofs.Cloud.Variables
import MachineFleet.Vultr.Machines

/-!
The format of specifications. What is written of a variable, of the settings for a cloud and of an
envelope is read back as it was, from the document itself, from the one with sorted members that an
envelope and a Machine carry, and from its text.
-/

namespace MachineFleet

open Json RecordReader

namespace Hetzner.Spec

theorem decode_toJson (s : Spec) : decode reader s.toJson = .ok s := by
  have labels : Field "labels" (.dict .string) (some .empty)
      (if s.labels.isEmpty then none else some ("labels", .ofDict s.labels)) s.labels :=
    .unless (decode_ofDict s.labels) fun empty => Dict.ext (List.isEmpty_iff.mp empty).symm
  have spells := (((((((((Spells.of Spec.mk).member (StringVar.field "token" s.token)).member
    (StringVar.field "serverType" s.serverType)).member
    (StringVar.field "datacenter" s.datacenter)).member
    (StringVar.field "location" s.location)).member (StringVar.field "image" s.image)).member
    (StringVar.field_list "networks" s.networks)).member
    (BoolVar.field "assignPublicIpv4" s.assignPublicIpv4)).member
    (BoolVar.field "assignPublicIpv6" s.assignPublicIpv6)).member labels
  exact spells.read (by decide) "HetznerProviderSpec"

theorem readable (s : Spec) (levels : Nat) : Readable (levels + 4) s.toJson := by
  have string := fun (v : StringVar) => v.readable (levels + 1)
  have switch := fun (v : BoolVar) => v.readable (levels + 1)
  refine readable_objOf ?_
  simp only [List.forall_mem_cons]
  exact ⟨.present (string _), .present (string _), .present (string _), .present (string _),
    .present (string _), .unless (readable_map (StringVar.readable · levels) s.networks),
    .present (switch _), .present (switch _),
    .unless (readable_ofDict (levels + 2) s.labels), nofun⟩

theorem steady_reader : Json.Steady reader :=
  (((((((((Steady.of Spec.mk).member StringVar.steady_reader "token").member
    StringVar.steady_reader "serverType").member StringVar.steady_reader "datacenter").member
    StringVar.steady_reader "location").member StringVar.steady_reader "image").member
    StringVar.steady_reader.list "networks").member BoolVar.steady_reader
    "assignPublicIpv4").member BoolVar.steady_reader "assignPublicIpv6").member
    steady_string.dict "labels" |>.read "HetznerProviderSpec"

end Hetzner.Spec

namespace Vultr.Spec

theorem decode_toJson (s : Spec) : decode reader s.toJson = .ok s := by
  have tags : Field "tags" (.list .string) (some [])
      (if s.tags.isEmpty then none else some ("tags", .ofList s.tags)) s.tags :=
    .unless (decode_ofList s.tags) fun empty => (List.isEmpty_iff.mp empty).symm
  have spells := (((((((Spells.of Spec.mk).member (StringVar.field "apiKey" s.apiKey)).member
    (StringVar.field "region" s.region)).member (StringVar.field "plan" s.plan)).member
    (StringVar.field "osId" s.osId)).member (BoolVar.field "enableIPv6" s.enableIpv6)).member
    (StringVar.field_list "vpcId" s.vpcIds)).member tags
  exact spells.read (by decide) "VultrProviderSpec"

theorem readable (s : Spec) (levels : Nat) : Readable (levels + 4) s.toJson := by
  have string := fun (v : StringVar) => v.readable (levels + 1)
  refine readable_objOf ?_
  simp only [List.forall_mem_cons]
  exact ⟨.present (string _), .present (string _), .present (string _), .present (string _),
    .present (s.enableIpv6.readable (levels + 1)),
    .unless (readable_map (StringVar.readable · levels) s.vpcIds),
    .unless (readable_map (readable_str _) s.tags), nofun⟩

theorem steady_reader : Json.Steady reader :=
  (((((((Steady.of Spec.mk).member StringVar.steady_reader "apiKey").member
    StringVar.steady_reader "region").member StringVar.steady_reader "plan").member
    StringVar.steady_reader "osId").member BoolVar.steady_reader "enableIPv6").member
    StringVar.steady_reader.list "vpcId").member steady_string.list "tags"
    |>.read "VultrProviderSpec"

end Vultr.Spec

theorem ErrorReason.decode_name (e : ErrorReason) :
    decode ErrorReason.reader (.str e.name) = .ok e := by
  cases e <;> rfl

namespace Fake.Spec

/-- The count of look-ups is a word of 32 bits. -/
def Fits (s : Spec) : Prop := s.addressAfterPolls < Nat.pow 2 32

theorem decode_toJson {s : Spec} (fits : s.Fits) : decode reader s.toJson = .ok s := by
  have polls : Field "addressAfterPolls" (.natural 32 "u32") (some 0)
      (some ("addressAfterPolls", .ofNat s.addressAfterPolls)) s.addressAfterPolls := by
    have range : (0 : Int) ≤ s.addressAfterPolls ∧
        (s.addressAfterPolls : Int) ≤ ((Nat.pow 2 32 : Nat) : Int) - 1 := by
      unfold Fits at fits
      omega
    refine .orElse "addressAfterPolls" 0 ?_
    show (if _ then _ else _ : Except DecodeError Int).map Int.toNat = _
    rw [if_pos range]
    rfl
  have spells := (((Spells.of Spec.mk).member
    (BoolVar.field "passValidation" s.passValidation)).member polls).member
    (.optional ErrorReason.decode_name (by nofun) "createError" s.createError)
  exact spells.read (by decide) "FakeProviderSpec"

theorem readable {s : Spec} (fits : s.Fits) (levels : Nat) : Readable (levels + 3) s.toJson := by
  have word : (Number.int s.addressAfterPolls).IsWord := by
    have bound : s.addressAfterPolls < Nat.pow 2 32 := fits
    have large : Nat.pow 2 32 ≤ Numeral.maxWord := by decide
    exact ⟨by omega, by omega⟩
  refine readable_objOf ?_
  simp only [List.forall_mem_cons]
  exact ⟨.present (s.passValidation.readable levels), .present word,
    .optional (readable_str _ ·.name) s.createError, nofun⟩

theorem steady_reader : Json.Steady reader :=
  (((Steady.of Spec.mk).member BoolVar.steady_reader "passValidation").member
    (steady_natural 32 "u32") "addressAfterPolls").member (steady_oneOf _).option "createError"
    |>.read "FakeProviderSpec"

theorem reader_fits : Json.Gives Fits reader := by
  have built : ∀ p, True → ∀ n, n < Nat.pow 2 32 → ∀ e, True → (Spec.mk p n e).Fits :=
    fun _ _ _ fits _ _ => fits
  exact (((gives_of built).orElse (gives_true _) trivial "passValidation").orElse
    (gives_natural 32 "u32") (by decide) "addressAfterPolls").orElse (gives_true _) trivial
    "createError" |>.read "FakeProviderSpec"

end Fake.Spec

theorem CloudProvider.decode_toJson (p : CloudProvider) : decode reader p.toJson = .ok p := by
  cases p <;> rfl

theorem OperatingSystem.name_ofName (s : String) : (ofName s).name = s := by
  unfold ofName
  cases found : supported.find? (·.name == s) with
  | none => rfl
  | some os =>
    have named := List.find?_some found
    exact beq_iff_eq.mp named

theorem IpFamily.decode_name (f : IpFamily) : decode reader (.str f.name) = .ok f := by
  cases f <;> rfl

namespace NetworkConfig

theorem decode_toJson (n : NetworkConfig) : decode reader n.toJson = .ok n := by
  have dns : decode dnsReader (.obj [("servers", .ofList n.dnsServers)]) = .ok n.dnsServers :=
    ((Spells.of id).member (.orElse "servers" [] (decode_ofList n.dnsServers))).read (by decide)
      "DnsConfig"
  have spells := ((((Spells.of NetworkConfig.mk).member
    (.orElse "cidr" "" (decode_str n.cidr))).member
    (.orElse "gateway" "" (decode_str n.gateway))).member (.orElse "dns" [] dns)).member
    (.optional IpFamily.decode_name (by nofun) "ipFamily" n.ipFamily)
  exact spells.read (by decide) "NetworkConfig"

theorem steady_reader : Json.Steady reader := by
  have dns : Json.Steady dnsReader :=
    (Steady.of id).member steady_string.list "servers" |>.read "DnsConfig"
  exact ((((Steady.of NetworkConfig.mk).member steady_string "cidr").member steady_string
    "gateway").member dns "dns").member (steady_oneOf _).option "ipFamily" |>.read "NetworkConfig"

end NetworkConfig

namespace ProviderConfig

/-- The envelope is as readers leave it. -/
structure Settled (c : ProviderConfig) : Prop where
  system : .ofName c.operatingSystem.name = c.operatingSystem
  cloud : c.cloudProviderSpec.InOrder
  node : c.operatingSystemSpec.InOrder

theorem reader_settled : Json.Gives Settled reader := by
  have payloads : Json.Gives InOrder .any := fun d j read => inOrder_any d read
  have systems : Json.Gives (fun os => .ofName os.name = os) OperatingSystem.reader := by
    intro d os read
    obtain ⟨s, -, rfl⟩ := ok_of_map read
    exact congrArg OperatingSystem.ofName (OperatingSystem.name_ofName s)
  have built : ∀ keys, True → ∀ cloud, True → ∀ j : Json, j.InOrder → ∀ os : OperatingSystem,
      .ofName os.name = os → ∀ j' : Json, j'.InOrder → ∀ network, True → ∀ text, True →
      (ProviderConfig.mk keys cloud j os j' network text).Settled :=
    fun _ _ _ _ _ cloud _ system _ node _ _ _ _ => ⟨system, cloud, node⟩
  have absent : Json.null.InOrder := trivial
  exact (((((((gives_of built).orElse (gives_true _) trivial "sshPublicKeys").required
    (gives_true _) "cloudProvider").orElse payloads absent "cloudProviderSpec").required systems
    "operatingSystem").orElse payloads absent "operatingSystemSpec").orElse (gives_true _) trivial
    "network").orElse (gives_true _) trivial "overwriteCloudConfig" |>.read "ProviderConfig"

theorem decode_toJson {c : ProviderConfig} (settled : c.Settled) :
    decode reader c.toJson = .ok c := by
  have system : decode OperatingSystem.reader c.operatingSystem.toJson = .ok c.operatingSystem :=
    congrArg Except.ok settled.system
  have spells := (((((((Spells.of ProviderConfig.mk).member
    (.orElse "sshPublicKeys" [] (decode_ofList c.sshPublicKeys))).member
    (.required "cloudProvider" c.cloudProvider.decode_toJson)).member
    (.orElse "cloudProviderSpec" .null (decode_any settled.cloud))).member
    (.required "operatingSystem" system)).member
    (.orElse "operatingSystemSpec" .null (decode_any settled.node))).member
    (.optional NetworkConfig.decode_toJson (by nofun) "network" c.network)).member
    (.optional decode_str (by nofun) "overwriteCloudConfig" c.overwriteCloudConfig)
  exact spells.read (by decide) "ProviderConfig"

theorem steady_reader : Json.Steady reader := by
  have systems : Json.Steady OperatingSystem.reader := steady_string.map
  exact (((((((Steady.of ProviderConfig.mk).member steady_string.list "sshPublicKeys").member
    (steady_oneOf _) "cloudProvider").member steady_any "cloudProviderSpec").member systems
    "operatingSystem").member steady_any "operatingSystemSpec").member
    NetworkConfig.steady_reader.option "network").member steady_string.option
    "overwriteCloudConfig" |>.read "ProviderConfig"

end ProviderConfig

/-- A document is read as a value: as it stands, with its members sorted, and as a text. -/
structure Returns {α : Type} (r : Reader α) (j : Json) (a : α) : Prop where
  document : decode r j = .ok a
  carried : decode r j.sorted = .ok a
  text : decodeText r j.compact = .ok a

theorem Returns.of {α : Type} {r : Reader α} {j : Json} {a : α} (value : decode r j = .ok a)
    (steady : Json.Steady r) (readable : Readable Document.maxDepth j) : Returns r j a :=
  ⟨value, steady j a value, decodeText_compact readable value⟩

namespace ProviderConfig

/-- An envelope is found again in the Machine that carries it, also when the settings for the cloud
have been replaced, and the new settings are found in it. -/
structure Carried (c : ProviderConfig) (spec : MachineSpec) : Prop where
  envelope : ofSpec (c.applyTo spec) = .ok c
  replaced : ∀ j, ofSpec ((c.withCloudSpec j).applyTo spec) = .ok (c.withCloudSpec j)
  others : c.applyTo spec = { spec with provider := (c.applyTo spec).provider }
  hetzner : ∀ s : Hetzner.Spec, (c.withCloudSpec s.toJson).readCloudSpec Hetzner.Spec.reader = .ok s
  vultr : ∀ s : Vultr.Spec, (c.withCloudSpec s.toJson).readCloudSpec Vultr.Spec.reader = .ok s
  fake : ∀ s : Fake.Spec, s.Fits →
    (c.withCloudSpec s.toJson).readCloudSpec Fake.Spec.reader = .ok s

theorem ofSpec_applyTo {c : ProviderConfig} (settled : c.Settled) (spec : MachineSpec) :
    ofSpec (c.applyTo spec) = .ok c :=
  congrArg (Except.mapError SpecError.invalidProviderSpec)
    (steady_reader _ c (decode_toJson settled))

theorem Settled.withCloudSpec {c : ProviderConfig} (settled : c.Settled) (j : Json) :
    (c.withCloudSpec j).Settled :=
  { settled with cloud := inOrder_sorted j }

/-- No object is taken for a missing payload. -/
theorem readCloudSpec_withCloudSpec {α : Type} {r : Reader α} {a : α} (c : ProviderConfig)
    {fields : List (Option (String × Json))} (value : decode r (Json.objOf fields).sorted = .ok a) :
    (c.withCloudSpec (.objOf fields)).readCloudSpec r = .ok a :=
  congrArg (Except.mapError (SpecError.invalidCloudProviderSpec c.cloudProvider.name)) value

theorem Settled.carried {c : ProviderConfig} (settled : c.Settled) (spec : MachineSpec) :
    c.Carried spec where
  envelope := ofSpec_applyTo settled spec
  replaced j := ofSpec_applyTo (settled.withCloudSpec j) spec
  others := rfl
  hetzner s := readCloudSpec_withCloudSpec c (Hetzner.Spec.steady_reader _ s s.decode_toJson)
  vultr s := readCloudSpec_withCloudSpec c (Vultr.Spec.steady_reader _ s s.decode_toJson)
  fake s fits :=
    readCloudSpec_withCloudSpec c (Fake.Spec.steady_reader _ s (Fake.Spec.decode_toJson fits))

end ProviderConfig

/-- Every variable, all settings for a cloud and every envelope that has been read are read back
from what is written of them. -/
theorem specifications_return :
    (∀ v : StringVar, Returns StringVar.reader v.toJson v) ∧
    (∀ v : BoolVar, Returns BoolVar.reader v.toJson v) ∧
    (∀ s : Hetzner.Spec, Returns Hetzner.Spec.reader s.toJson s) ∧
    (∀ s : Vultr.Spec, Returns Vultr.Spec.reader s.toJson s) ∧
    (∀ s : Fake.Spec, s.Fits → Returns Fake.Spec.reader s.toJson s) ∧
    ∀ d c, ProviderConfig.reader d = .ok c → ∀ spec, c.Carried spec := by
  refine ⟨fun v => ?_, fun v => ?_, fun s => ?_, fun s => ?_, fun s fits => ?_,
    fun d c read spec => ?_⟩
  · exact .of v.decode_toJson StringVar.steady_reader (v.readable 125)
  · exact .of v.decode_toJson BoolVar.steady_reader (v.readable 125)
  · exact .of s.decode_toJson Hetzner.Spec.steady_reader (s.readable 123)
  · exact .of s.decode_toJson Vultr.Spec.steady_reader (s.readable 123)
  · exact .of (Fake.Spec.decode_toJson fits) Fake.Spec.steady_reader (Fake.Spec.readable fits 124)
  · exact (ProviderConfig.reader_settled d c read).carried spec

/-- An envelope without the names of its fields, with an old name of its cloud and with an operating
system that is not known. -/
def packetSection : Document :=
  .arr [.arr [] .closed, .str "packet", .obj [("b", .null), ("a", .str "x")] .closed, .str "plan9",
    .null, .null, .null] .closed

def packetEnvelope : ProviderConfig :=
  { cloudProvider := .equinixMetal
    cloudProviderSpec := .obj [("a", .str "x"), ("b", .null)]
    operatingSystem := .other "plan9" }

theorem packet_returns :
    Fake.Spec.Fits { addressAfterPolls := 3 } ∧
    Returns Fake.Spec.reader (Fake.Spec.toJson { addressAfterPolls := 3 })
      { addressAfterPolls := 3 } ∧
    ProviderConfig.reader packetSection = .ok packetEnvelope ∧ packetEnvelope.Carried {} := by
  have fits : Fake.Spec.Fits { addressAfterPolls := 3 } := (by decide : 3 < Nat.pow 2 32)
  have read : ProviderConfig.reader packetSection = .ok packetEnvelope := rfl
  obtain ⟨-, -, -, -, fake, envelope⟩ := specifications_return
  exact ⟨fits, fake _ fits, read, envelope _ _ read {}⟩

end MachineFleet
