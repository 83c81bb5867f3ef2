/- module: DddBoilerplate/Store/Table
   generality: G
   digest: Tables of rows with a unique key, in insertion order: lookup, insertion, update and deletion. -/

import Mathlib.Algebra.BigOperators.Group.List.Basic
import Mathlib.Data.List.Nodup
import Mathlib.Tactic.Abel

set_option autoImplicit false
set_option relaxedAutoImplicit false
set_option linter.all false

namespace DddBoilerplate.Store

/-- Rows in the order they were inserted, no two with the same key. -/
structure Table {κ ρ : Type} (key : ρ → κ) where
  rows : List ρ
  nodup : (rows.map key).Nodup

namespace Table

variable {κ ρ : Type} [DecidableEq κ] {key : ρ → κ}

def empty : Table key := ⟨[], List.nodup_nil⟩

def get? (t : Table key) (k : κ) : Option ρ :=
  t.rows.find? fun r => key r = k

theorem get?_eq_some {t : Table key} {k : κ} {r : ρ} :
    t.get? k = some r ↔ r ∈ t.rows ∧ key r = k := by
  constructor
  · intro h
    exact ⟨List.mem_of_find?_eq_some h, by simpa using List.find?_some h⟩
  · rintro ⟨hmem, rfl⟩
    obtain ⟨r', hr'⟩ : ∃ r', t.get? (key r) = some r' :=
      Option.isSome_iff_exists.mp (List.find?_isSome.mpr ⟨r, hmem, by simp⟩)
    have hkey : key r' = key r := by simpa using List.find?_some hr'
    have heq : r' = r :=
      List.inj_on_of_nodup_map t.nodup (List.mem_of_find?_eq_some hr') hmem hkey
    rw [hr', heq]

theorem get?_eq_none {t : Table key} {k : κ} :
    t.get? k = none ↔ ∀ r ∈ t.rows, key r ≠ k := by
  simp [get?]

theorem key_of_get? {t : Table key} {k : κ} {r : ρ} (h : t.get? k = some r) : key r = k :=
  (get?_eq_some.mp h).2

theorem mem_of_get? {t : Table key} {k : κ} {r : ρ} (h : t.get? k = some r) : r ∈ t.rows :=
  (get?_eq_some.mp h).1

theorem get?_of_mem {t : Table key} {r : ρ} (h : r ∈ t.rows) : t.get? (key r) = some r :=
  get?_eq_some.mpr ⟨h, rfl⟩

/-- The row under a key, with the evidence that it is that key's row. -/
def lookup (t : Table key) (k : κ) : Option {r : ρ // key r = k} :=
  match h : t.get? k with
  | some r => some ⟨r, key_of_get? h⟩
  | none => none

theorem lookup_eq_some {t : Table key} {k : κ} {r : {r : ρ // key r = k}} :
    t.lookup k = some r ↔ t.get? k = some r.1 := by
  unfold lookup
  split
  · rename_i v hv
    constructor
    · intro h
      rw [hv, ← Option.some.inj h]
    · intro h
      exact congrArg some (Subtype.ext (Option.some.inj (hv.symm.trans h)))
  · rename_i hv
    simp [hv]

theorem lookup_eq_none {t : Table key} {k : κ} : t.lookup k = none ↔ t.get? k = none := by
  unfold lookup
  split
  · rename_i v hv
    simp [hv]
  · rename_i hv
    simp [hv]

/-- A unique key turns away a second row. -/
def insert (t : Table key) (r : ρ) : Table key :=
  if h : t.get? (key r) = none then
    ⟨t.rows ++ [r], by
      rw [List.map_append, List.map_singleton]
      refine List.Nodup.append t.nodup (List.nodup_singleton _) ?_
      simp only [List.disjoint_singleton, List.mem_map, not_exists, not_and]
      exact get?_eq_none.mp h⟩
  else t

theorem rows_insert {t : Table key} {r : ρ} (h : t.get? (key r) = none) :
    (t.insert r).rows = t.rows ++ [r] := by
  rw [insert, dif_pos h]

theorem get?_insert {t : Table key} {r : ρ} (h : t.get? (key r) = none) (k : κ) :
    (t.insert r).get? k = if key r = k then some r else t.get? k := by
  rw [get?, rows_insert h, List.find?_append]
  by_cases hk : key r = k
  · subst hk
    have hnone : t.rows.find? (fun r' => key r' = key r) = none := h
    simp [hnone]
  · simp [get?, hk]

theorem mem_insert {t : Table key} {r r' : ρ} (h : t.get? (key r) = none) :
    r' ∈ (t.insert r).rows ↔ r' ∈ t.rows ∨ r' = r := by
  simp [rows_insert h]

/-- Rows inserted one after the other, each turned away where its key is taken, come after those
that were there. -/
theorem rows_inserts (t : Table key) (rs : List ρ) :
    ∃ more, (rs.foldl insert t).rows = t.rows ++ more ∧ ∀ r ∈ more, r ∈ rs := by
  induction rs generalizing t with
  | nil => exact ⟨[], (List.append_nil _).symm, fun r hr => hr⟩
  | cons r' rs ih =>
    obtain ⟨more, hrows, hmore⟩ := ih (t.insert r')
    have hrest : ∀ r ∈ more, r ∈ r' :: rs := fun r hr => List.mem_cons_of_mem _ (hmore r hr)
    rw [List.foldl_cons, hrows]
    by_cases hfree : t.get? (key r') = none
    · rw [rows_insert hfree, List.append_assoc]
      refine ⟨[r'] ++ more, rfl, fun r hr => ?_⟩
      rcases List.mem_append.mp hr with hr | hr
      · exact List.mem_singleton.mp hr ▸ List.mem_cons_self ..
      · exact hrest r hr
    · rw [insert, dif_neg hfree]
      exact ⟨more, rfl, hrest⟩

theorem mem_inserts {t : Table key} {rs : List ρ} {r : ρ} (h : r ∈ (rs.foldl insert t).rows) :
    r ∈ t.rows ∨ r ∈ rs := by
  obtain ⟨more, hrows, hmore⟩ := rows_inserts t rs
  rw [hrows] at h
  exact (List.mem_append.mp h).imp id (hmore r)

/-- Rewrites rows in place; what the keys say stays. -/
def update (t : Table key) (f : ρ → ρ) (hf : ∀ r, key (f r) = key r) : Table key :=
  ⟨t.rows.map f, by
    have hcomp : key ∘ f = key := funext hf
    rw [List.map_map, hcomp]
    exact t.nodup⟩

theorem get?_update {t : Table key} {f : ρ → ρ} (hf : ∀ r, key (f r) = key r) (k : κ) :
    (t.update f hf).get? k = (t.get? k).map f := by
  simp only [get?, update, List.find?_map]
  congr 2
  funext r
  simp [hf]

omit [DecidableEq κ] in
theorem mem_update {t : Table key} {f : ρ → ρ} {hf : ∀ r, key (f r) = key r} {r : ρ} :
    r ∈ (t.update f hf).rows ↔ ∃ r' ∈ t.rows, f r' = r := by
  simp [update]

omit [DecidableEq κ] in
theorem update_eq_self {t : Table key} {f : ρ → ρ} {hf : ∀ r, key (f r) = key r}
    (h : ∀ r ∈ t.rows, f r = r) : t.update f hf = t := by
  obtain ⟨rows, nodup⟩ := t
  have hrows : rows.map f = rows := (List.map_congr_left h).trans rows.map_id
  simp only [update, hrows]

/-- Replaces the row under its key. -/
def put (t : Table key) (r : ρ) : Table key :=
  t.update (fun r' => if key r' = key r then r else r') fun r' => by
    split
    · exact (by assumption : key r' = key r).symm
    · rfl

theorem get?_put {t : Table key} {r old : ρ} (h : t.get? (key r) = some old) (k : κ) :
    (t.put r).get? k = if key r = k then some r else t.get? k := by
  rw [put, get?_update]
  by_cases hk : key r = k
  · subst hk
    rw [h, if_pos rfl, Option.map_some, if_pos (key_of_get? h)]
  · rw [if_neg hk]
    cases hget : t.get? k with
    | none => rfl
    | some r' =>
      rw [Option.map_some, if_neg]
      intro heq
      exact hk (heq.symm.trans (key_of_get? hget))

theorem keys_put (t : Table key) (r : ρ) : (t.put r).rows.map key = t.rows.map key := by
  simp only [put, update, List.map_map]
  refine List.map_congr_left fun r' _ => ?_
  simp only [Function.comp_apply]
  split
  · rename_i hkey
    exact hkey.symm
  · rfl

theorem mem_put {t : Table key} {r r' : ρ} (h : r' ∈ (t.put r).rows) : r' = r ∨ r' ∈ t.rows := by
  obtain ⟨original, hmem, heq⟩ := mem_update.mp h
  split at heq
  · exact .inl heq.symm
  · exact .inr (heq ▸ hmem)

/-- A replacement that passes as the row it replaces passed leaves the number that pass. -/
theorem countP_put {t : Table key} {r old : ρ} {p : ρ → Bool} (h : t.get? (key r) = some old)
    (hp : p r = p old) : (t.put r).rows.countP p = t.rows.countP p := by
  unfold put update
  rw [List.countP_map]
  refine List.countP_congr fun r' hmem => ?_
  simp only [Function.comp_apply]
  split
  · rename_i hkey
    have hsame := get?_of_mem hmem
    rw [hkey, h] at hsame
    rw [hp, Option.some.inj hsame]
  · exact Iff.rfl

section Sums

variable {A : Type} [AddCommGroup A] (f : ρ → A)

theorem sum_replace {rows : List ρ} {r old : ρ} (hdistinct : (rows.map key).Nodup)
    (hmem : old ∈ rows) (hkey : key old = key r) :
    (rows.map fun r' => f (if key r' = key r then r else r')).sum =
      (rows.map f).sum + (f r - f old) := by
  induction rows with
  | nil => cases hmem
  | cons head rows ih =>
    obtain ⟨hnew, hrest⟩ := List.nodup_cons.mp hdistinct
    rw [List.map_cons, List.sum_cons, List.map_cons, List.sum_cons]
    by_cases hhead : key head = key r
    · have hold : old = head := by
        rcases List.mem_cons.mp hmem with heq | hmem
        · exact heq
        · exact absurd (List.mem_map.mpr ⟨old, hmem, hkey.trans hhead.symm⟩) hnew
      have hkept : (rows.map fun r' => f (if key r' = key r then r else r')) = rows.map f := by
        refine List.map_congr_left fun r' hr' => ?_
        rw [if_neg fun heq => hnew (List.mem_map.mpr ⟨r', hr', heq.trans hhead.symm⟩)]
      rw [hkept, if_pos hhead, hold]
      abel
    · have hmem' : old ∈ rows := by
        rcases List.mem_cons.mp hmem with heq | hmem
        · exact absurd (heq ▸ hkey) hhead
        · exact hmem
      rw [if_neg hhead, ih hrest hmem']
      abel

/-- A replacement changes a sum over the rows by what the row's part changes. -/
theorem sum_put {t : Table key} {r old : ρ} (h : t.get? (key r) = some old) :
    ((t.put r).rows.map f).sum = (t.rows.map f).sum + (f r - f old) := by
  unfold put update
  rw [List.map_map]
  exact sum_replace f t.nodup (mem_of_get? h) (key_of_get? h)

theorem sum_insert {t : Table key} {r : ρ} (h : t.get? (key r) = none) :
    ((t.insert r).rows.map f).sum = (t.rows.map f).sum + f r := by
  rw [rows_insert h, List.map_append, List.sum_append, List.map_singleton, List.sum_singleton]

end Sums

/-- Keeps the rows that pass. -/
def filter (t : Table key) (p : ρ → Bool) : Table key :=
  ⟨t.rows.filter p, t.nodup.sublist (List.Sublist.map key List.filter_sublist)⟩

theorem get?_filter {t : Table key} {p : ρ → Bool} {k : κ} {r : ρ} :
    (t.filter p).get? k = some r ↔ t.get? k = some r ∧ p r = true := by
  simp only [get?_eq_some, filter, List.mem_filter]
  constructor
  · rintro ⟨⟨hmem, hp⟩, hkey⟩
    exact ⟨⟨hmem, hkey⟩, hp⟩
  · rintro ⟨⟨hmem, hkey⟩, hp⟩
    exact ⟨⟨hmem, hp⟩, hkey⟩

/-- Rewrites the rows that pass, and counts them. -/
def updateMany (t : Table key) (p : ρ → Bool) (f : ρ → ρ) (hf : ∀ r, key (f r) = key r) :
    Nat × Table key :=
  (t.rows.countP p, t.update (fun r => if p r then f r else r) fun r => by
    split
    · exact hf r
    · rfl)

/-- Deletes the rows that pass, and counts them. -/
def deleteMany (t : Table key) (p : ρ → Bool) : Nat × Table key :=
  (t.rows.countP p, t.filter fun r => !p r)

theorem get?_updateMany {t : Table key} {p : ρ → Bool} {f : ρ → ρ} (hf : ∀ r, key (f r) = key r)
    {k : κ} :
    (t.updateMany p f hf).2.get? k = (t.get? k).map fun r => if p r then f r else r := by
  unfold updateMany
  rw [get?_update]

omit [DecidableEq κ] in
theorem mem_updateMany {t : Table key} {p : ρ → Bool} {f : ρ → ρ} {hf : ∀ r, key (f r) = key r}
    {r : ρ} :
    r ∈ (t.updateMany p f hf).2.rows ↔ ∃ r' ∈ t.rows, (if p r' then f r' else r') = r := by
  unfold updateMany
  rw [mem_update]

omit [DecidableEq κ] in
/-- Rewriting rows in a way that keeps what is read off each of them keeps the list of it. -/
theorem map_updateMany {β : Type} {t : Table key} {p : ρ → Bool} {f : ρ → ρ}
    (hf : ∀ r, key (f r) = key r) {label : ρ → β} (hlabel : ∀ r, label (f r) = label r) :
    (t.updateMany p f hf).2.rows.map label = t.rows.map label := by
  simp only [updateMany, update, List.map_map]
  refine List.map_congr_left fun r _ => ?_
  simp only [Function.comp_apply]
  split
  · exact hlabel r
  · rfl

omit [DecidableEq κ] in
theorem updateMany_eq_self {t : Table key} {p : ρ → Bool} {f : ρ → ρ}
    (hf : ∀ r, key (f r) = key r) (h : ∀ r ∈ t.rows, p r = false) : (t.updateMany p f hf).2 = t := by
  obtain ⟨rows, nodup⟩ := t
  have hsame : ∀ r ∈ rows, (if p r then f r else r) = id r := by
    intro r hr
    rw [h r hr, if_neg Bool.false_ne_true, id]
  have hrows := (List.map_congr_left hsame).trans rows.map_id
  simp only [updateMany, update, hrows]

theorem get?_deleteMany {t : Table key} {p : ρ → Bool} {k : κ} {r : ρ} :
    (t.deleteMany p).2.get? k = some r ↔ t.get? k = some r ∧ p r = false := by
  rw [show (t.deleteMany p).2 = t.filter fun r => !p r from rfl, get?_filter]
  simp

/-- Stores a row under its key, in place of the one there. -/
def upsert (t : Table key) (r : ρ) : Table key := (t.filter fun r' => key r' ≠ key r).insert r

theorem get?_upsert {t : Table key} {r : ρ} {k : κ} :
    (t.upsert r).get? k = if key r = k then some r else t.get? k := by
  have hfree : (t.filter fun r' => key r' ≠ key r).get? (key r) = none := by
    refine Option.eq_none_iff_forall_ne_some.mpr fun r' hr' => ?_
    obtain ⟨hget, hother⟩ := get?_filter.mp hr'
    exact of_decide_eq_true hother (key_of_get? hget)
  rw [upsert, get?_insert hfree]
  split
  · rfl
  · rename_i hk
    refine Option.ext fun r' => ?_
    rw [get?_filter]
    constructor
    · exact fun h => h.1
    · intro h
      refine ⟨h, decide_eq_true ?_⟩
      rw [key_of_get? h]
      exact fun heq => hk heq.symm

end Table

end DddBoilerplate.Store
