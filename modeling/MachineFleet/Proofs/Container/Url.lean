import MachineFleet.Container.Url
import MachineFleet.Proofs.Outcome

/-!
Web addresses as texts. What is read as an address of the scheme `http` or `https` begins with that
scheme, in capital or small letters, and its host is that of the authority behind it.
-/

namespace MachineFleet.Url

/-- Only letters are lowered to something else. -/
theorem eq_of_toLower {c m : Char} (mark : m.isLower = false) (same : c.toLower = m) : c = m := by
  unfold Char.toLower at same
  split at same
  · rename_i upper
    have low : 65 ≤ c.val.toNat := UInt32.le_iff_toNat_le.mp upper.1
    have high : c.val.toNat ≤ 90 := UInt32.le_iff_toNat_le.mp upper.2
    have shift : (32 : UInt32).toNat = 32 := rfl
    have shifted : m.val.toNat = c.val.toNat + 32 := by
      rw [← same]
      exact (UInt32.toNat_add c.val 32).trans (Nat.mod_eq_of_lt (by omega))
    have letter : m.isLower = true := by
      refine Bool.and_eq_true_iff.mpr ⟨decide_eq_true (UInt32.le_iff_toNat_le.mpr ?_),
        decide_eq_true (UInt32.le_iff_toNat_le.mpr ?_)⟩
      · rw [shifted]
        exact Nat.add_le_add_right low 32
      · rw [shifted]
        exact Nat.add_le_add_right high 32
    rw [letter] at mark
    cases mark
  · exact same

theorem eq_of_map_toLower {cs marks : List Char} (each : ∀ m ∈ marks, m.isLower = false)
    (same : cs.map Char.toLower = marks) : cs = marks := by
  induction cs generalizing marks with
  | nil => exact same
  | cons c rest ih =>
    subst same
    obtain ⟨first, later⟩ := List.forall_mem_cons.mp each
    exact congrArg₂ List.cons (eq_of_toLower first rfl) (ih later rfl)

theorem eq_of_dropCaseless? {word cs rest : List Char}
    (found : dropCaseless? word cs = some rest) :
    ∃ front, cs = front ++ rest ∧ front.map Char.toLower = word := by
  induction word generalizing cs with
  | nil => exact ⟨[], Option.some.inj found, rfl⟩
  | cons w word ih =>
    cases cs with
    | nil => cases found
    | cons c cs =>
      unfold dropCaseless? at found
      split at found
      · rename_i same
        obtain ⟨front, rfl, lowered⟩ := ih found
        exact ⟨c :: front, rfl, congrArg₂ List.cons same lowered⟩
      · cases found

/-- The scheme as it is written, and what stands behind its mark. -/
def Begins (name : String) (cs rest : List Char) : Prop :=
  ∃ written, cs = written ++ ':' :: '/' :: '/' :: rest ∧ written.map Char.toLower = name.toList

theorem begins_of_dropCaseless? {name : String} {cs rest : List Char}
    (found : dropCaseless? (name.toList ++ [':', '/', '/']) cs = some rest) :
    Begins name cs rest := by
  obtain ⟨front, rfl, lowered⟩ := eq_of_dropCaseless? found
  obtain ⟨written, mark, rfl, same, marked⟩ := List.map_eq_append_iff.mp lowered
  have marks : ∀ m ∈ [':', '/', '/'], m.isLower = false := by
    simp only [List.forall_mem_cons]
    exact ⟨rfl, rfl, rfl, List.forall_mem_nil _⟩
  obtain rfl := eq_of_map_toLower marks marked
  exact ⟨written, List.append_assoc _ _ _, same⟩

theorem begins_of_scheme {name : String} {cs rest : List Char}
    (web : name = "http" ∨ name = "https") (read : scheme cs = .ok (some (name, rest))) :
    Begins name cs rest := by
  unfold scheme at read
  split at read
  · rename_i found
    cases read
    exact begins_of_dropCaseless? found
  · rename_i found
    cases read
    exact begins_of_dropCaseless? found
  · dsimp only at read
    split at read
    · cases read
    split at read
    · rename_i behind
      split at read
      · cases read
      cases read
      have front := List.prefix_iff_eq_take.mp (List.takeWhile_prefix (l := cs) isSchemeChar)
      refine ⟨cs.takeWhile isSchemeChar, ?_, ?_⟩
      · calc
          cs = cs.take (cs.takeWhile isSchemeChar).length ++
              cs.drop (cs.takeWhile isSchemeChar).length := (List.take_append_drop _ _).symm
          _ = cs.takeWhile isSchemeChar ++ ':' :: '/' :: '/' :: rest := by rw [← front, behind]
      · rw [← String.toList_ofList (l := cs.takeWhile isSchemeChar)]
        rcases web with named | named
        · rw [named]
          rfl
        · rw [named]
          rfl
    · cases read

/-- The host in what stands behind the mark of the scheme. -/
def hostBehind (rest : List Char) : List Char := host (rest.takeWhile fun c => !isAuthorityEnd c)

theorem begins_of_read {u : String} {p : Parts} {name : String}
    (web : name = "http" ∨ name = "https")
    (result : read u = .ok p) (named : p.scheme = some name) :
    ∃ rest, Begins name u.toList rest ∧ p.host = hostBehind rest := by
  unfold read at result
  dsimp only at result
  split at result
  · cases result
  split at result
  · obtain ⟨_, -, result⟩ := ok_of_bind result
    cases result
    cases named
  obtain ⟨found, schemed, result⟩ := ok_of_bind result
  cases found with
  | none =>
    obtain ⟨_, -, result⟩ := ok_of_bind result
    cases result
  | some found =>
    obtain ⟨name', rest⟩ := found
    dsimp only at result
    split at result
    · cases result
    obtain ⟨_, -, result⟩ := ok_of_bind result
    split at result
    · cases result
    obtain ⟨_, -, result⟩ := ok_of_bind result
    cases result
    cases named
    exact ⟨rest, begins_of_scheme web schemed, rfl⟩

/-- A web address: the scheme in capital or small letters, and a host in the authority behind it. -/
def IsWeb (u : String) : Prop :=
  ∃ name rest, (name = "http" ∨ name = "https") ∧ Begins name u.toList rest ∧
    read u = .ok ⟨some name, hostBehind rest⟩ ∧ hostBehind rest ≠ []

end MachineFleet.Url
