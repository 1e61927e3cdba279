import MachineFleet.Container.Engine
import MachineFleet.Proofs.Dict

/-!
What is said of a registry in the configuration of containerd. The insecure registries and those
with credentials are put into one dictionary, in which a registry that is both has both.
-/

namespace MachineFleet.ContainerdConfig

theorem get?_insecure (rs : List String) (d : Dict Access) (k : String) :
    (rs.foldl (fun d r => d.insert r { (d.get? r).getD {} with insecure := true }) d).get? k =
      if k ∈ rs then some { (d.get? k).getD {} with insecure := true } else d.get? k := by
  induction rs generalizing d with
  | nil => rfl
  | cons r rest ih =>
    rw [List.foldl_cons, ih, Dict.get?_insert]
    by_cases same : k = r
    · subst same
      simp
    · simp [same]

theorem get?_credentials {es : List (String × AuthConfig)} (ordered : Dict.Ordered es)
    (d : Dict Access) (k : String) :
    (es.foldl (fun d e => d.insert e.1 { (d.get? e.1).getD {} with auth := some e.2 }) d).get? k =
      ((es.lookup k).map fun a => { (d.get? k).getD {} with auth := some a }).or (d.get? k) := by
  induction es generalizing d with
  | nil => rfl
  | cons e rest ih =>
    obtain ⟨first, later⟩ := List.pairwise_cons.mp ordered
    rw [List.foldl_cons, ih later, Dict.get?_insert]
    by_cases same : k = e.1
    · subst same
      rw [Dict.lookup_of_lt first, List.lookup_cons, beq_self_eq_true]
      simp
    · rw [if_neg same, Dict.lookup_cons_of_ne e.2 rest same]

theorem get?_access (c : ContainerdConfig) (k : String) : c.access.get? k =
    if k ∈ c.insecureRegistries ∨ c.registryCredentials.contains k = true then
      some ⟨k ∈ c.insecureRegistries, c.registryCredentials.get? k⟩
    else none := by
  have credentials : c.registryCredentials.entries.lookup k = c.registryCredentials.get? k := rfl
  have nothing : (Dict.empty : Dict Access).get? k = none := rfl
  rw [access, get?_credentials c.registryCredentials.ordered, get?_insecure, nothing, credentials,
    Dict.contains]
  cases c.registryCredentials.get? k <;> by_cases member : k ∈ c.insecureRegistries <;>
    simp [member]

theorem auth_of_access (c : ContainerdConfig) (k : String) :
    (c.access.get? k).bind (·.auth) = c.registryCredentials.get? k := by
  rw [get?_access, Dict.contains]
  cases c.registryCredentials.get? k <;> by_cases member : k ∈ c.insecureRegistries <;>
    simp [member]

end MachineFleet.ContainerdConfig
