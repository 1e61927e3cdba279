import MachineFleet.Proofs.Cloud.Section
import MachineFleet.Proofs.Json.Sameness

/-!
What the key of a specification tells. It stands for what the provider section says, whatever the
order of members in it, and for nothing else of the specification.
-/

namespace MachineFleet.ValidationCache

open Json

theorem canonicalText_eq (s : MachineSpec) :
    canonicalText s = (s.provider.getD .null).sorted.compact := by
  unfold canonicalText
  cases s.provider with
  | none => rfl
  | some v => rfl

theorem canonicalText_eq_iff {s s' : MachineSpec} :
    canonicalText s = canonicalText s' ↔ Same (s.provider.getD .null) (s'.provider.getD .null) := by
  rw [canonicalText_eq, canonicalText_eq, same_iff_compact_sorted]

/-- Where the digest tells the texts of the two provider sections apart, there is one key exactly
if the sections say the same, an absent one the same as `null`. -/
theorem key_identifies_section {s s' : MachineSpec}
    (separates : Digest.Separates [canonicalText s, canonicalText s']) :
    (key s = key s' ↔ Same (s.provider.getD .null) (s'.provider.getD .null)) ∧
      ∀ metadata taints kubelet providerId,
        key { s with metadata, taints, kubelet, providerId } = key s := by
  refine ⟨?_, fun _ _ _ _ => rfl⟩
  rw [← canonicalText_eq_iff]
  exact ⟨separates _ (by simp) _ (by simp), congrArg Digest.hex⟩

/-- A specification whose provider section has these members. -/
def sectionOf (members : List (String × Json)) : MachineSpec where
  provider := some (.obj members)

theorem items_in_other_order_have_other_key :
    let s := sectionOf [("b", .null), ("a", .arr [.obj [], .num (.int 1)])]
    let s' := sectionOf [("a", .arr [.obj [], .num (.int 1)]), ("b", .null)]
    let s'' := sectionOf [("a", .arr [.num (.int 1), .obj []]), ("b", .null)]
    Digest.Separates [canonicalText s, canonicalText s'] ∧
    Digest.Separates [canonicalText s, canonicalText s''] ∧
    key s = key s' ∧ key s ≠ key s'' := by
  intro s s' s''
  have one : canonicalText s = canonicalText s' := rfl
  have differ : Digest.hex (canonicalText s) ≠ Digest.hex (canonicalText s'') := by decide +kernel
  have together : Digest.Separates [canonicalText s, canonicalText s'] := by
    simp [Digest.Separates, one]
  have apart : Digest.Separates [canonicalText s, canonicalText s''] := by
    simp [Digest.Separates, differ, differ.symm]
  refine ⟨together, apart, ?_, ?_⟩
  · exact (key_identifies_section together).1.mpr (canonicalText_eq_iff.mp one)
  · intro same
    have alike := (key_identifies_section apart).1.mp same
    cases alike with
    | obj names each =>
      cases each "a" _ _ rfl rfl with
      | arr length items => cases items 0 _ _ rfl rfl

end MachineFleet.ValidationCache
