/- module: DddBoilerplate/Domain/Joined
   generality: G
   digest: Texts joined with a separator: two of them are equal just where their pieces are. -/

import Mathlib.Data.List.Basic

set_option autoImplicit false
set_option relaxedAutoImplicit false
set_option linter.all false

namespace DddBoilerplate.Joined

variable (sep : Char)

/-- What stands between the separators of a text. -/
def pieces (s : String) : List (List Char) := s.toList.splitOn sep

/-- The texts one after the other, with separators in between. -/
def joined (parts : List String) : String := (String.singleton sep).intercalate parts

variable {sep} {s t : String} {parts parts' : List String}

theorem pieces_inj : pieces sep s = pieces sep t ↔ s = t := by
  constructor
  · intro h
    have hjoined := congrArg [sep].intercalate h
    unfold pieces at hjoined
    rw [List.intercalate_splitOn, List.intercalate_splitOn] at hjoined
    exact String.toList_inj.mp hjoined
  · exact fun h => h ▸ rfl

theorem pieces_append : pieces sep (s ++ String.singleton sep ++ t) =
    pieces sep s ++ pieces sep t := by
  unfold pieces
  rw [String.toList_append, String.toList_append, String.toList_singleton, List.append_assoc,
    List.singleton_append, List.splitOn_append_cons_self]

theorem pieces_of_free (h : sep ∉ s.toList) : pieces sep s = [s.toList] :=
  List.splitOn_eq_singleton h

theorem pieces_joined (hne : parts ≠ []) :
    pieces sep (joined sep parts) = parts.flatMap (pieces sep) := by
  unfold joined
  induction parts with
  | nil => exact absurd rfl hne
  | cons part parts ih =>
    cases parts with
    | nil => simp
    | cons next parts =>
      rw [String.intercalate_cons_cons, pieces_append, ih (List.cons_ne_nil _ _)]
      rfl

/-- Two joined texts are the same just where the parts come to the same pieces. -/
theorem joined_inj_iff (hne : parts ≠ []) (hne' : parts' ≠ []) :
    joined sep parts = joined sep parts' ↔
      parts.flatMap (pieces sep) = parts'.flatMap (pieces sep) := by
  rw [← pieces_joined hne, ← pieces_joined hne', pieces_inj]

/-- Parts without the separator are read off the joined text. -/
theorem parts_of_pieces (h : parts.flatMap (pieces sep) = parts'.flatMap (pieces sep))
    (hfree : ∀ part ∈ parts, sep ∉ part.toList) (hfree' : ∀ part ∈ parts', sep ∉ part.toList) :
    parts = parts' := by
  have hpieces : ∀ parts : List String, (∀ part ∈ parts, sep ∉ part.toList) →
      parts.flatMap (pieces sep) = parts.map String.toList := by
    intro parts hfree
    induction parts with
    | nil => rfl
    | cons part parts ih =>
      rw [List.flatMap_cons, pieces_of_free (hfree part List.mem_cons_self),
        ih fun part' hpart' => hfree part' (List.mem_cons_of_mem _ hpart')]
      rfl
  rw [hpieces parts hfree, hpieces parts' hfree'] at h
  exact List.map_injective_iff.mpr (fun _ _ => String.toList_inj.mp) h

end DddBoilerplate.Joined
