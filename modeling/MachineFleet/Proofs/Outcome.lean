import Mathlib.Data.List.Forall2

/-!
Results that are a value or a failure: where a composed result is a value, so are its parts, and
where it is a failure, one of them is the first to fail.
-/

namespace MachineFleet

variable {ε δ α β : Type} {x : Except ε α}

theorem ok_of_bind {f : α → Except ε β} {b : β} (result : x >>= f = .ok b) :
    ∃ a, x = .ok a ∧ f a = .ok b := by
  cases x with
  | error e => cases result
  | ok a => exact ⟨a, rfl, result⟩

theorem ok_of_map {f : α → β} {b : β} (result : x.map f = .ok b) : ∃ a, x = .ok a ∧ f a = b := by
  cases x with
  | error e => cases result
  | ok a => exact ⟨a, rfl, Except.ok.inj result⟩

theorem ok_of_mapError {f : ε → δ} {a : α} (result : .ok a = x.mapError f) : x = .ok a := by
  cases x with
  | error e => cases result
  | ok b =>
    cases result
    rfl

theorem map_eq_error_iff {f : α → β} {e : ε} : x.map f = .error e ↔ x = .error e := by
  cases x <;> simp [Except.map]

theorem mapError_eq_ok_iff {f : ε → δ} {a : α} : x.mapError f = .ok a ↔ x = .ok a := by
  cases x <;> simp [Except.mapError]

theorem mapError_eq_error_iff {f : ε → δ} {d : δ} :
    x.mapError f = .error d ↔ ∃ e, x = .error e ∧ f e = d := by
  cases x <;> simp [Except.mapError]

theorem toOption_eq_some_iff {a : α} : x.toOption = some a ↔ x = .ok a := by
  cases x with
  | error e => exact ⟨nofun, nofun⟩
  | ok b => exact ⟨fun same => congrArg Except.ok (Option.some.inj same),
      fun same => congrArg some (Except.ok.inj same)⟩

/-- A list gives a value if each item does. -/
theorem mapM_eq_ok_iff {f : α → Except ε β} {xs : List α} {ys : List β} :
    xs.mapM f = .ok ys ↔ List.Forall₂ (fun x y => f x = .ok y) xs ys := by
  induction xs generalizing ys with
  | nil => cases ys <;> simp [pure, Except.pure]
  | cons x rest ih =>
    rw [List.mapM_cons]
    constructor
    · intro result
      obtain ⟨y, first, result⟩ := ok_of_bind result
      obtain ⟨ys', later, result⟩ := ok_of_bind result
      cases result
      exact .cons first (ih.mp later)
    · rintro (_ | ⟨first, later⟩)
      rw [first, ih.mpr later]
      rfl

theorem exists_of_mapM {f : α → Except ε β} {xs : List α} {ys : List β}
    (result : xs.mapM f = .ok ys) : ∀ y ∈ ys, ∃ x ∈ xs, f x = .ok y := by
  induction mapM_eq_ok_iff.mp result with
  | nil => exact nofun
  | cons first later ih =>
    refine List.forall_mem_cons.mpr ⟨⟨_, List.mem_cons_self, first⟩, fun y member => ?_⟩
    obtain ⟨x, before, value⟩ := ih (mapM_eq_ok_iff.mpr later) y member
    exact ⟨x, List.mem_cons_of_mem _ before, value⟩

/-- A list fails as its first item that fails. -/
theorem mapM_eq_error_iff {f : α → Except ε β} {xs : List α} {e : ε} :
    xs.mapM f = .error e ↔ ∃ before x after, xs = before ++ x :: after ∧
      (∀ y ∈ before, ∃ b, f y = .ok b) ∧ f x = .error e := by
  constructor
  · intro failed
    induction xs with
    | nil => cases failed
    | cons x rest ih =>
      rw [List.mapM_cons] at failed
      cases first : f x with
      | error e' =>
        rw [first] at failed
        cases failed
        exact ⟨[], x, rest, rfl, nofun, first⟩
      | ok y =>
        rw [first] at failed
        cases later : rest.mapM f with
        | ok ys =>
          rw [later] at failed
          cases failed
        | error e' =>
          rw [later] at failed
          cases failed
          obtain ⟨before, x', after, rfl, sound, fault⟩ := ih later
          exact ⟨x :: before, x', after, rfl, List.forall_mem_cons.mpr ⟨⟨y, first⟩, sound⟩, fault⟩
  · rintro ⟨before, x, after, rfl, sound, fault⟩
    induction before with
    | nil =>
      rw [List.nil_append, List.mapM_cons, fault]
      rfl
    | cons y before ih =>
      obtain ⟨⟨b, first⟩, sound⟩ := List.forall_mem_cons.mp sound
      rw [List.cons_append, List.mapM_cons, first, ih sound]
      rfl

end MachineFleet
