import MachineFleet.Proofs.Container.Access
import MachineFleet.Proofs.Container.Rendering
import MachineFleet.Proofs.Toml.Table

/-!
The registries in the configuration of containerd. Read as TOML, the configuration says of each
registry what it was made from: its mirrors, whether its certificate is checked, and with what
credentials it is used.
-/

namespace MachineFleet

namespace ContainerdConfig

open Toml

def interfacePath : List String := ["plugins", "io.containerd.grpc.v1.cri"]

def mirrorsPath : List String := interfacePath ++ ["registry", "mirrors"]

def configsPath : List String := interfacePath ++ ["registry", "configs"]

/-- All texts of credentials, by the names they have in the document. -/
def named (a : AuthConfig) : List (String × String) :=
  [("username", a.username), ("password", a.password), ("auth", a.auth),
    ("identitytoken", a.identityToken), ("registrytoken", a.registryToken)]

/-- What a document says of registries and of the image for sandboxes is what the configuration
says. -/
structure Says (c : ContainerdConfig) (document : Toml) : Prop where
  mirror : ∀ r, (document.find? (mirrorsPath ++ [r])).isSome = c.registryMirrors.contains r
  endpoint : ∀ r, document.find? (mirrorsPath ++ [r, "endpoint"]) =
    (c.registryMirrors.get? r).map .strings
  config : ∀ r, (document.find? (configsPath ++ [r])).isSome = true ↔
    r ∈ c.insecureRegistries ∨ c.registryCredentials.contains r = true
  tls : ∀ r, (document.find? (configsPath ++ [r, "tls"])).isSome = true ↔
    r ∈ c.insecureRegistries
  insecure : ∀ r, document.find? (configsPath ++ [r, "tls", "insecure_skip_verify"]) =
    some (.bool true) ↔ r ∈ c.insecureRegistries
  auth : ∀ r, (document.find? (configsPath ++ [r, "auth"])).isSome =
    c.registryCredentials.contains r
  field : ∀ r a, c.registryCredentials.get? r = some a → ∀ k v,
    document.find? (configsPath ++ [r, "auth", k]) = some v ↔
      ∃ s, v = .str s ∧ s ≠ "" ∧ (k, s) ∈ named a
  image : document.find? (interfacePath ++ ["sandbox_image"]) =
    if c.sandboxImage = "" then none else some (.str c.sandboxImage)

theorem arranged_map {α : Type} {f : α → Toml} (kind : ∀ x, (f x).isTable = true)
    (each : ∀ x, Arranged (f x)) (d : Dict α) :
    Arranged (.table (d.entries.map fun e => (e.1, f e.2))) := by
  refine arranged_append (a := []) (by simp) (List.forall_mem_map.mpr fun e _ => kind e.2)
    (List.forall_mem_map.mpr fun e _ => each e.2) ?_
  rw [List.nil_append, List.map_map]
  exact d.nodup_keys

theorem nodup_fields (a : AuthConfig) : (a.fields.map (·.1)).Nodup := by
  have whole : ["username", "password", "auth", "identitytoken", "registrytoken"].Nodup := by
    decide
  exact whole.sublist (List.filter_sublist.map Prod.fst)

theorem arranged_auth (a : AuthConfig) :
    Arranged (.table (a.fields.map fun f => (f.1, .str f.2))) := by
  rw [← List.append_nil (List.map _ _)]
  refine arranged_append (List.forall_mem_map.mpr fun _ _ => rfl) (by simp) (by simp) ?_
  rw [List.append_nil, List.map_map]
  exact nodup_fields a

theorem arranged_access (a : Access) : Arranged a.toToml := by
  have tls : Arranged (.table [("insecure_skip_verify", .bool true)]) :=
    arranged_singleton _ trivial
  refine arranged_append (a := []) (by simp) ?_ ?_ ?_
  · cases a.insecure <;> cases a.auth <;> simp [isTable]
  · cases a.insecure <;> cases a.auth <;> simp [tls, arranged_auth]
  · cases a.insecure <;> cases a.auth <;> simp

theorem arranged_registry (c : ContainerdConfig) : Arranged (.table c.registry) := by
  have mirrors := arranged_map (f := fun m => .table [("endpoint", .strings m)]) (fun _ => rfl)
    (fun m => arranged_singleton "endpoint" trivial) c.registryMirrors
  have configs := arranged_map (f := Access.toToml) (fun _ => rfl) arranged_access c.access
  refine arranged_append (a := []) (by simp) ?_ ?_ ?_
  all_goals unfold tableEntry
  · split <;> split <;> simp [isTable]
  · split <;> split <;> simp [mirrors, configs]
  · split <;> split <;> simp

theorem arranged_interface (c : ContainerdConfig) : Arranged (.table c.runtimeInterface) := by
  have runtime : Arranged (.table [("runtime_type", .str "io.containerd.runc.v2"),
      ("options", .table [("SystemdCgroup", .bool true)])]) :=
    arranged_append (a := [_]) (b := [_]) (by simp [isTable]) (by simp [isTable])
      (by simpa using arranged_singleton "SystemdCgroup" (v := .bool true) trivial) (by simp)
  have engine := arranged_singleton "runtimes" (arranged_singleton "runc" runtime)
  refine arranged_append ?_ (by simp [isTable]) (by simp [engine, c.arranged_registry]) ?_
  · split <;> simp [isTable]
  · split <;> simp

theorem arranged_document (c : ContainerdConfig) : Arranged (.table c.document) := by
  have metrics : Arranged (.table [("address", .str "127.0.0.1:1338")]) :=
    arranged_singleton _ trivial
  have plugins := arranged_singleton "io.containerd.grpc.v1.cri" c.arranged_interface
  exact arranged_append (a := [_]) (b := [_, _]) (by simp [isTable]) (by simp [isTable])
    (by simp [metrics, plugins]) (by simp)

theorem read_config (c : ContainerdConfig) : Toml.read c.config.toList = some c.document := by
  rw [config, String.toList_ofList]
  exact read_documentText c.arranged_document c.fitsAll_document

theorem find?_interface (c : ContainerdConfig) (path : List String) :
    (Toml.table c.document).find? (interfacePath ++ path) =
      (Toml.table c.runtimeInterface).find? path := by
  have plugins : c.document.lookup "plugins" =
      some (.table [("io.containerd.grpc.v1.cri", .table c.runtimeInterface)]) := by
    rw [document, Dict.lookup_cons_of_ne _ _ (by decide), Dict.lookup_cons_of_ne _ _ (by decide),
      List.lookup_cons_self]
  simp only [interfacePath, List.cons_append, List.nil_append, find?, table?, Option.bind_some,
    plugins, List.lookup_cons_self]

theorem find?_registry (c : ContainerdConfig) (path : List String) :
    (Toml.table c.runtimeInterface).find? ("registry" :: path) =
      (Toml.table c.registry).find? path := by
  unfold runtimeInterface
  split <;> simp [find?, table?, List.lookup_cons]

theorem lookup_tableEntry (name r : String) (entries : Entries) (path : List String) :
    ((tableEntry name entries).lookup name).bind (·.find? (r :: path)) =
      (entries.lookup r).bind (·.find? path) := by
  cases entries with
  | nil => rfl
  | cons e rest => simp [tableEntry, find?, table?]

theorem lookup_tableEntry_of_ne {name k : String} (other : k ≠ name) (entries : Entries) :
    (tableEntry name entries).lookup k = none := by
  unfold tableEntry
  split
  · rfl
  · exact Dict.lookup_cons_of_ne _ [] other

theorem find?_mirrors (c : ContainerdConfig) (r : String) (path : List String) :
    (Toml.table c.document).find? (mirrorsPath ++ r :: path) =
      (c.registryMirrors.get? r).bind fun m =>
        (Toml.table [("endpoint", .strings m)]).find? path := by
  rw [mirrorsPath, List.append_assoc, find?_interface, List.cons_append, find?_registry,
    List.singleton_append, find?, table?, Option.bind_some, registry, List.lookup_append,
    lookup_tableEntry_of_ne (show "mirrors" ≠ "configs" by decide), Option.or_none,
    lookup_tableEntry,
    Dict.lookup_mapValues fun m => Toml.table [("endpoint", .strings m)], Option.bind_map]
  rfl

theorem find?_configs (c : ContainerdConfig) (r : String) (path : List String) :
    (Toml.table c.document).find? (configsPath ++ r :: path) =
      (c.access.get? r).bind fun a => a.toToml.find? path := by
  rw [configsPath, List.append_assoc, find?_interface, List.cons_append, find?_registry,
    List.singleton_append, find?, table?, Option.bind_some, registry, List.lookup_append,
    lookup_tableEntry_of_ne (show "configs" ≠ "mirrors" by decide), Option.none_or,
    lookup_tableEntry,
    Dict.lookup_mapValues Access.toToml, Option.bind_map]
  rfl

theorem find?_tls (c : ContainerdConfig) (r : String) (path : List String) :
    (Toml.table c.document).find? (configsPath ++ r :: "tls" :: path) =
      if r ∈ c.insecureRegistries then
        (Toml.table [("insecure_skip_verify", .bool true)]).find? path
      else none := by
  have inner : ∀ a : Access, a.toToml.find? ("tls" :: path) = if a.insecure then
      (Toml.table [("insecure_skip_verify", .bool true)]).find? path else none := by
    intro a
    cases secure : a.insecure <;> cases given : a.auth <;>
      simp [Access.toToml, secure, given, find?, table?, List.lookup_cons]
  rw [find?_configs, get?_access]
  by_cases insecure : r ∈ c.insecureRegistries
  · simp [inner, insecure]
  · split <;> simp [inner, insecure]

theorem find?_auth (c : ContainerdConfig) (r : String) (path : List String) :
    (Toml.table c.document).find? (configsPath ++ r :: "auth" :: path) =
      (c.registryCredentials.get? r).bind fun a =>
        (Toml.table (a.fields.map fun f => (f.1, .str f.2))).find? path := by
  have inner : ∀ a : Access, a.toToml.find? ("auth" :: path) = a.auth.bind fun auth =>
      (Toml.table (auth.fields.map fun f => (f.1, .str f.2))).find? path := by
    intro a
    cases secure : a.insecure <;> cases given : a.auth <;>
      simp [Access.toToml, secure, given, find?, table?, List.lookup_cons]
  rw [find?_configs, ← c.auth_of_access r, Option.bind_assoc]
  exact congrArg _ (funext inner)

theorem lookup_fields (a : AuthConfig) (k : String) (v : Toml) :
    (a.fields.map fun f => (f.1, Toml.str f.2)).lookup k = some v ↔
      ∃ s, v = .str s ∧ s ≠ "" ∧ (k, s) ∈ named a := by
  have filled : ∀ s, a.fields.lookup k = some s ↔ s ≠ "" ∧ (k, s) ∈ named a := by
    intro s
    have member : (k, s) ∈ a.fields ↔ a.fields.lookup k = some s :=
      ⟨Dict.lookup_of_mem (nodup_fields a), Dict.mem_of_lookup⟩
    rw [← member, AuthConfig.fields, List.mem_filter, and_comm]
    simp [named]
  rw [Dict.lookup_mapValues, Option.map_eq_some_iff]
  constructor
  · rintro ⟨s, found, rfl⟩
    exact ⟨s, rfl, (filled s).mp found⟩
  · rintro ⟨s, rfl, known⟩
    exact ⟨s, (filled s).mpr known, rfl⟩

/-- Whatever the texts in it are, the configuration is one that is read, and that says of every
registry what it was made from. -/
theorem config_says_registries (c : ContainerdConfig) : c.render = .ok c.config ∧
    ∃ entries, Toml.read c.config.toList = some entries ∧ c.Says (.table entries) := by
  refine ⟨c.render_eq, c.document, c.read_config, ?_⟩
  constructor
  case mirror =>
    intro r
    rw [find?_mirrors, Dict.contains]
    cases c.registryMirrors.get? r <;> rfl
  case endpoint =>
    intro r
    rw [find?_mirrors]
    cases c.registryMirrors.get? r <;> rfl
  case config =>
    intro r
    rw [find?_configs, get?_access]
    split
    · rename_i known
      simp [known, find?]
    · rename_i unknown
      simp [unknown]
  case tls =>
    intro r
    rw [find?_tls]
    by_cases insecure : r ∈ c.insecureRegistries <;> simp [insecure, find?]
  case insecure =>
    intro r
    rw [find?_tls]
    by_cases insecure : r ∈ c.insecureRegistries <;> simp [insecure, find?, table?]
  case auth =>
    intro r
    rw [find?_auth, Dict.contains]
    cases c.registryCredentials.get? r <;> rfl
  case field =>
    intro r a given k v
    rw [find?_auth, given, Option.bind_some, ← lookup_fields]
    simp [find?, table?]
  case image =>
    rw [find?_interface]
    unfold runtimeInterface
    by_cases empty : c.sandboxImage = "" <;> simp [empty, find?, table?, List.lookup_cons]

end ContainerdConfig

end MachineFleet
