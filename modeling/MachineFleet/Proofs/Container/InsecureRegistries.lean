import MachineFleet.Proofs.Container.MirrorTexts
import Mathlib.Data.List.Basic
import Mathlib.Data.List.Induction
import Mathlib.Data.List.Nodup

/-!
Registries without transport security, as an option lists them. Each is kept where it is named
first, so a second option adds only what is new in it, and the list written as an option again is
read as it is.
-/

namespace MachineFleet

namespace InsecureRegistries

open Mirrors (pieces)

/-- What an option names, as often as it does. -/
def named (input : String) : List String := (Mirrors.tokens input).map String.ofList

/-- One more name behind those that are there, unless it is one of them. -/
def enlist (rs : List String) (r : String) : List String :=
  if rs.contains r then rs else rs ++ [r]

def collect (names : List String) : List String := names.foldl enlist []

theorem eq_collect (input : String) : insecureRegistries input = collect (named input) := rfl

variable {names rs : List String} {r : String}

theorem enlist_of_mem (known : r ∈ rs) : enlist rs r = rs :=
  if_pos (List.contains_iff_mem.mpr known)

theorem enlist_of_not_mem (new : r ∉ rs) : enlist rs r = rs ++ [r] :=
  if_neg fun known => new (List.contains_iff_mem.mp known)

theorem mem_enlist {r' : String} : r' ∈ enlist rs r ↔ r' ∈ rs ∨ r' = r := by
  by_cases known : r ∈ rs
  · rw [enlist_of_mem known]
    exact ⟨.inl, fun either => either.elim id fun same => same ▸ known⟩
  · rw [enlist_of_not_mem known, List.mem_append, List.mem_singleton]

theorem collect_concat (names : List String) (r : String) :
    collect (names ++ [r]) = enlist (collect names) r := by
  rw [collect, List.foldl_concat]
  rfl

theorem mem_collect : r ∈ collect names ↔ r ∈ names := by
  induction names using List.reverseRecOn with
  | nil => rfl
  | append_singleton names last ih =>
    rw [collect_concat, mem_enlist, ih, List.mem_append, List.mem_singleton]

theorem nodup_collect (names : List String) : (collect names).Nodup := by
  induction names using List.reverseRecOn with
  | nil => exact .nil
  | append_singleton names last ih =>
    rw [collect_concat]
    by_cases known : last ∈ collect names
    · rwa [enlist_of_mem known]
    · rw [enlist_of_not_mem known]
      exact List.Nodup.append ih (List.nodup_singleton last) (List.disjoint_singleton.mpr known)

/-- Registries stand in the order of the places where they are named first. -/
theorem ordered_collect (names : List String) :
    (collect names).Pairwise fun r r' => names.idxOf r < names.idxOf r' := by
  induction names using List.reverseRecOn with
  | nil => exact .nil
  | append_singleton names last ih =>
    -- the places of the names before the last one are as they were
    have before : (collect names).Pairwise fun r r' =>
        (names ++ [last]).idxOf r < (names ++ [last]).idxOf r' := by
      refine ih.imp_of_mem fun {r r'} member member' below => ?_
      rw [List.idxOf_append_of_mem (mem_collect.mp member),
        List.idxOf_append_of_mem (mem_collect.mp member')]
      exact below
    rw [collect_concat]
    by_cases known : last ∈ collect names
    · rwa [enlist_of_mem known]
    · rw [enlist_of_not_mem known]
      refine List.pairwise_append.mpr
        ⟨before, List.pairwise_singleton _ _, fun r member r' new => ?_⟩
      have here := mem_collect.mp member
      rw [List.mem_singleton.mp new, List.idxOf_append_of_mem here,
        List.idxOf_append_of_notMem fun again => known (mem_collect.mpr again)]
      exact Nat.lt_of_lt_of_le (List.idxOf_lt_length_iff.mpr here) (Nat.le_add_right _ _)

theorem collect_of_nodup (distinct : names.Nodup) : collect names = names := by
  induction names using List.reverseRecOn with
  | nil => rfl
  | append_singleton names last ih =>
    obtain ⟨before, -, apart⟩ := List.nodup_append.mp distinct
    have new : last ∉ names := fun known => apart last known last (by simp) rfl
    rw [collect_concat, ih before, enlist_of_not_mem new]

theorem collect_append (names later : List String) :
    collect (names ++ later) =
      collect names ++ (collect later).filter fun r => r ∉ collect names := by
  induction later using List.reverseRecOn with
  | nil => simp [collect]
  | append_singleton later last ih =>
    rw [← List.append_assoc, collect_concat, collect_concat, ih]
    by_cases known : last ∈ collect names
    · rw [enlist_of_mem (List.mem_append_left _ known)]
      by_cases again : last ∈ collect later
      · rw [enlist_of_mem again]
      · rw [enlist_of_not_mem again, List.filter_append,
          List.filter_cons_of_neg (by simpa using known), List.filter_nil, List.append_nil]
    · by_cases again : last ∈ collect later
      · rw [enlist_of_mem again, enlist_of_mem]
        exact List.mem_append_right _ (List.mem_filter.mpr ⟨again, by simpa using known⟩)
      · have new : last ∉ collect names ++ (collect later).filter fun r => r ∉ collect names := by
          simp [known, again]
        rw [enlist_of_not_mem new, enlist_of_not_mem again, List.filter_append,
          List.filter_cons_of_pos (by simpa using known), List.filter_nil, List.append_assoc]

/-- What stands before another name among some names does so among more of them. -/
theorem idxOf_lt_of_filter {p : String → Bool} {r' : String} (kept : p r = true)
    (kept' : p r' = true) (below : (names.filter p).idxOf r < (names.filter p).idxOf r') :
    names.idxOf r < names.idxOf r' := by
  induction names with
  | nil => exact below
  | cons first rest ih => grind

theorem named_append (a b : String) : named (a ++ "," ++ b) = named a ++ named b := by
  rw [named, Mirrors.tokens_append, List.map_append]
  rfl

theorem named_eq (input : String) : named input = (pieces input).filter (· ≠ "") := by
  simp [named, Mirrors.tokens_eq]

theorem mem_named {input : String} : r ∈ named input ↔ r ≠ "" ∧ r ∈ pieces input := by
  rw [named_eq, List.mem_filter]
  simp [and_comm]

end InsecureRegistries

open InsecureRegistries
open Mirrors (pieces)

/-- Behind the registries of one option a second one adds its own that are not among them. Each
registry is there once, in the order of where it is named first, and the list written as an option
is read as it is. -/
theorem insecure_registries_accumulate (a b : String) :
    insecureRegistries (a ++ "," ++ b) = insecureRegistries a ++
      (insecureRegistries b).filter (fun r => r ∉ insecureRegistries a) ∧
    (insecureRegistries a).Nodup ∧
    (∀ r, r ∈ insecureRegistries a ↔ r ≠ "" ∧ r ∈ pieces a) ∧
    (∀ r ∈ insecureRegistries a, Text.isAllBlank r = false ∧ Text.trim r = r) ∧
    (insecureRegistries a).Pairwise (fun r r' => (pieces a).idxOf r < (pieces a).idxOf r') ∧
    insecureRegistries (",".intercalate (insecureRegistries a)) = insecureRegistries a := by
  have members : ∀ r, r ∈ insecureRegistries a ↔ r ≠ "" ∧ r ∈ pieces a := by
    intro r
    rw [eq_collect, mem_collect, mem_named]
  have tokens : ∀ r ∈ insecureRegistries a, Mirrors.IsToken r.toList := by
    intro r member
    rw [eq_collect, mem_collect] at member
    obtain ⟨t, token, rfl⟩ := List.mem_map.mp member
    rw [String.toList_ofList]
    exact Mirrors.isToken_of_mem token
  refine ⟨?_, nodup_collect _, members, fun r member => ?_, ?_, ?_⟩
  · rw [eq_collect, named_append, collect_append]
    rfl
  · have token := tokens r member
    constructor
    · refine Bool.eq_false_iff.mpr fun blank => ?_
      have none := Mirrors.tokens_blank blank
      rw [token.tokens] at none
      cases none
    · rw [Text.trim, token.trimmed, String.ofList_toList]
  · refine (ordered_collect (named a)).imp_of_mem fun {r r'} member member' below => ?_
    rw [named_eq] at below
    refine idxOf_lt_of_filter ?_ ?_ below
    · simpa using ((members r).mp member).1
    · simpa using ((members r').mp member').1
  · have again : named (",".intercalate (insecureRegistries a)) = insecureRegistries a := by
      rw [named, Mirrors.tokens_intercalate tokens, List.map_map]
      simp
    rw [eq_collect, again]
    exact collect_of_nodup (nodup_collect (named a))

theorem repeated_registry_is_listed_once :
    "r.local" ∈ insecureRegistries " r.local , 10.0.0.1,, r.local" ∧
    Text.trim "r.local" = "r.local" ∧
    insecureRegistries (" r.local , 10.0.0.1,, r.local" ++ "," ++ "b.local,10.0.0.1") =
      ["r.local", "10.0.0.1", "b.local"] := by
  have member : "r.local" ∈ insecureRegistries " r.local , 10.0.0.1,, r.local" := by decide +kernel
  have whole := insecure_registries_accumulate " r.local , 10.0.0.1,, r.local" "b.local,10.0.0.1"
  exact ⟨member, (whole.2.2.2.1 "r.local" member).2, whole.1.trans (by decide +kernel)⟩

end MachineFleet
