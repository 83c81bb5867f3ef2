/- module: DddBoilerplate/Store/Keyed
   generality: G
   digest: Lists whose elements carry a key: the element found under a key, and rewriting under a key. -/

import Mathlib.Data.List.Nodup

set_option autoImplicit false
set_option relaxedAutoImplicit false
set_option linter.all false

namespace DddBoilerplate.Store

variable {κ ρ : Type} [DecidableEq κ] {key : ρ → κ} {k : κ} {f : ρ → ρ} {xs : List ρ}

/-- Rewrites every element under a key. -/
def mapKey (key : ρ → κ) (k : κ) (f : ρ → ρ) (xs : List ρ) : List ρ :=
  xs.map fun x => if key x = k then f x else x

theorem keys_mapKey (hf : ∀ x, key (f x) = key x) : (mapKey key k f xs).map key = xs.map key := by
  unfold mapKey
  rw [List.map_map]
  refine List.map_congr_left fun x _ => ?_
  show key (if key x = k then f x else x) = key x
  split
  · exact hf x
  · rfl

theorem mem_mapKey {x' : ρ} (h : x' ∈ mapKey key k f xs) :
    (∃ x ∈ xs, key x = k ∧ x' = f x) ∨ (x' ∈ xs ∧ key x' ≠ k) := by
  unfold mapKey at h
  obtain ⟨x, hmem, heq⟩ := List.mem_map.mp h
  by_cases hk : key x = k
  · rw [if_pos hk] at heq
    exact .inl ⟨x, hmem, hk, heq.symm⟩
  · rw [if_neg hk] at heq
    subst heq
    exact .inr ⟨hmem, hk⟩

theorem mem_of_findKey {x : ρ} (h : xs.find? (fun x => key x = k) = some x) : x ∈ xs ∧ key x = k :=
  ⟨List.mem_of_find?_eq_some h, by simpa using List.find?_some h⟩

theorem findKey_eq_none : xs.find? (fun x => key x = k) = none ↔ k ∉ xs.map key := by
  simp

/-- Where no two elements have the same key, the one found is the only one. -/
theorem eq_of_findKey {x x' : ρ} (hdistinct : (xs.map key).Nodup)
    (h : xs.find? (fun x => key x = k) = some x) (hmem : x' ∈ xs) (hkey : key x' = k) : x' = x := by
  obtain ⟨hx, hk⟩ := mem_of_findKey h
  exact List.inj_on_of_nodup_map hdistinct hmem hx (hkey.trans hk.symm)

/-- An element under a new key keeps the keys apart. -/
theorem nodup_keys_append {x : ρ} (hdistinct : (xs.map key).Nodup)
    (h : xs.find? (fun y => key y = key x) = none) : ((xs ++ [x]).map key).Nodup := by
  rw [List.map_append, List.map_singleton, List.nodup_append]
  refine ⟨hdistinct, List.nodup_singleton _, fun k hk k' hk' heq => ?_⟩
  rw [List.mem_singleton.mp hk'] at heq
  exact findKey_eq_none.mp h (heq ▸ hk)

end DddBoilerplate.Store
