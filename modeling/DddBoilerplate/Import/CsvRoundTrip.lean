/- module: DddBoilerplate/Import/CsvRoundTrip
   generality: I
   digest: Which tables come back from their comma-separated file, with the numbers of their records. -/

import Mathlib.Data.List.Nodup
import DddBoilerplate.Import.CsvFile

set_option autoImplicit false
set_option relaxedAutoImplicit false
set_option linter.all false

namespace DddBoilerplate.Import

open Text ImportFileParser

section Fields

variable {cell : String} {cells : List String} {cur chars rest : List Char}

theorem comma_ne_doubleQuote : ',' ≠ doubleQuote := by decide

/-- Outside quotes, characters that mean nothing are taken over. -/
theorem splitFields_plain (h : ∀ c ∈ chars, c ≠ doubleQuote ∧ c ≠ ',') :
    splitFields cur false false (chars ++ rest) = splitFields (cur ++ chars) false false rest := by
  induction chars generalizing cur with
  | nil => rw [List.nil_append, List.append_nil]
  | cons c chars ih =>
    obtain ⟨hquote, hcomma⟩ := h c List.mem_cons_self
    rw [List.cons_append, splitFields, if_neg Bool.false_ne_true, if_neg hquote,
      if_neg fun hc => hcomma hc.1, ih fun c' hc' => h c' (List.mem_cons_of_mem _ hc'),
      List.append_assoc, List.singleton_append]

theorem escaped_cons (c : Char) (chars : List Char) : escaped (c :: chars) =
    (if c = doubleQuote then [doubleQuote, doubleQuote] else [c]) ++ escaped chars := rfl

/-- Inside quotes, a field ends at the quote behind which no other stands. -/
theorem splitFields_escaped (hrest : rest.head? ≠ some doubleQuote) :
    splitFields cur true false (escaped chars ++ doubleQuote :: rest) =
      splitFields (cur ++ chars) false false rest := by
  induction chars generalizing cur with
  | nil =>
    have hclosing : ¬ (true = true ∧ rest.head? = some doubleQuote) := fun h => hrest h.2
    change splitFields cur true false (doubleQuote :: rest) = _
    rw [splitFields, if_neg Bool.false_ne_true, if_pos rfl, if_neg hclosing, List.append_nil]
    rfl
  | cons c chars ih =>
    rw [escaped_cons]
    by_cases hquote : c = doubleQuote
    · subst hquote
      have hdoubled : true = true ∧
          (doubleQuote :: (escaped chars ++ doubleQuote :: rest)).head? = some doubleQuote :=
        ⟨rfl, rfl⟩
      rw [if_pos rfl]
      change splitFields cur true false
        (doubleQuote :: doubleQuote :: (escaped chars ++ doubleQuote :: rest)) = _
      rw [splitFields, if_neg Bool.false_ne_true, if_pos rfl, if_pos hdoubled, splitFields,
        if_pos rfl, ih, List.append_assoc, List.singleton_append]
    · have hinside : ¬ (c = ',' ∧ true = false) := fun h => Bool.noConfusion h.2
      rw [if_neg hquote]
      change splitFields cur true false (c :: (escaped chars ++ doubleQuote :: rest)) = _
      rw [splitFields, if_neg Bool.false_ne_true, if_neg hquote, if_neg hinside, ih,
        List.append_assoc, List.singleton_append]

/-- A field is read to its end. -/
theorem splitFields_encodeCell (hrest : rest.head? ≠ some doubleQuote) :
    splitFields [] false false (encodeCell cell ++ rest) =
      splitFields cell.toList false false rest := by
  unfold encodeCell
  split
  · rw [List.cons_append, List.append_assoc, splitFields, if_neg Bool.false_ne_true, if_pos rfl,
      if_neg fun h => Bool.noConfusion h.1]
    exact splitFields_escaped hrest
  · rename_i hplain
    rw [splitFields_plain fun c hc => ?_, List.nil_append]
    have hc' := fun h => hplain (List.any_eq_true.mpr ⟨c, hc, h⟩)
    simp only [Bool.or_eq_true, decide_eq_true_eq] at hc'
    tauto

/-- The fields of a record are the cells it was made of. -/
theorem splitCsvLine_encodeRow (h : cells ≠ []) : splitCsvLine (encodeRow cells) = cells := by
  suffices hfields : splitFields [] false false (encodeRow cells) = cells.map String.toList by
    rw [splitCsvLine, hfields, List.map_map]
    exact List.map_id'' (fun cell => String.ofList_toList) cells
  induction cells with
  | nil => exact absurd rfl h
  | cons cell cells ih =>
    cases cells with
    | nil =>
      have hcell := @splitFields_encodeCell cell [] (by decide)
      rw [List.append_nil] at hcell
      exact hcell
    | cons next cells =>
      have hcomma : (',' :: encodeRow (next :: cells)).head? ≠ some doubleQuote := by
        rw [List.head?_cons]
        exact fun h => comma_ne_doubleQuote (Option.some.inj h)
      have hrest : splitFields [] false false (encodeRow (next :: cells)) =
          (next :: cells).map String.toList := ih (List.cons_ne_nil _ _)
      have hrow : encodeRow (cell :: next :: cells) =
          encodeCell cell ++ ',' :: encodeRow (next :: cells) := rfl
      rw [hrow, splitFields_encodeCell hcomma, splitFields, if_neg Bool.false_ne_true,
        if_neg comma_ne_doubleQuote, if_pos ⟨rfl, rfl⟩, hrest]
      rfl

end Fields

section Lines

variable {line rest : List Char} {rows : List (List String)} {row : List String}

theorem splitLines_of_free (h : lineFeed ∉ line) : splitLines line = [line] := by
  induction line with
  | nil => rfl
  | cons c line ih =>
    have hc : c ≠ lineFeed := fun heq => h (heq ▸ List.mem_cons_self)
    have hline : lineFeed ∉ line := fun hmem => h (List.mem_cons_of_mem _ hmem)
    have hbreak : ¬ (c = carriageReturn ∧ line.head? = some lineFeed) :=
      fun hbreak => hline (List.mem_of_head? hbreak.2)
    rw [splitLines, if_neg hc, if_neg hbreak, ih hline]
    rfl

/-- A line without line feeds ends at the next line break. -/
theorem splitLines_line (h : lineFeed ∉ line) :
    splitLines (line ++ carriageReturn :: lineFeed :: rest) = line :: splitLines rest := by
  induction line with
  | nil =>
    have hreturn : carriageReturn ≠ lineFeed := by decide
    rw [List.nil_append, splitLines, if_neg hreturn, if_pos ⟨rfl, rfl⟩, splitLines, if_pos rfl]
  | cons c line ih =>
    have hc : c ≠ lineFeed := fun heq => h (heq ▸ List.mem_cons_self)
    have hline : lineFeed ∉ line := fun hmem => h (List.mem_cons_of_mem _ hmem)
    have hbreak : ¬ (c = carriageReturn ∧
        (line ++ carriageReturn :: lineFeed :: rest).head? = some lineFeed) := by
      rintro ⟨_, hhead⟩
      cases line with
      | nil => exact absurd (Option.some.inj hhead) (by decide)
      | cons d line =>
        rw [List.cons_append, List.head?_cons] at hhead
        exact hline (Option.some.inj hhead ▸ List.mem_cons_self)
    rw [List.cons_append, splitLines, if_neg hc, if_neg hbreak, ih hline]
    rfl

theorem mem_escaped {c : Char} {chars : List Char} (h : c ∈ escaped chars) :
    c ∈ chars ∨ c = doubleQuote := by
  obtain ⟨d, hd, hc⟩ := List.mem_flatMap.mp h
  split at hc
  · exact .inr (by simpa using hc)
  · exact .inl (List.mem_singleton.mp hc ▸ hd)

theorem lineFeed_not_mem_encodeCell {cell : String} (h : lineFeed ∉ cell.toList) :
    lineFeed ∉ encodeCell cell := by
  have hquote : lineFeed ≠ doubleQuote := by decide
  unfold encodeCell
  split
  · intro hmem
    rcases List.mem_cons.mp hmem with heq | hmem
    · exact hquote heq
    · rcases List.mem_append.mp hmem with hmem | hmem
      · rcases mem_escaped hmem with hmem | heq
        · exact h hmem
        · exact hquote heq
      · exact hquote (List.mem_singleton.mp hmem)
  · exact h

theorem lineFeed_not_mem_encodeRow (h : ∀ cell ∈ row, lineFeed ∉ cell.toList) :
    lineFeed ∉ encodeRow row := by
  induction row with
  | nil => exact List.not_mem_nil
  | cons cell row ih =>
    have hcell := lineFeed_not_mem_encodeCell (h cell List.mem_cons_self)
    have hrow := ih fun cell' hcell' => h cell' (List.mem_cons_of_mem _ hcell')
    cases row with
    | nil => exact hcell
    | cons next row =>
      have hcomma : lineFeed ≠ ',' := by decide
      intro hmem
      rcases List.mem_append.mp hmem with hmem | hmem
      · exact hcell hmem
      · rcases List.mem_cons.mp hmem with heq | hmem
        · exact hcomma heq
        · exact hrow hmem

/-- Without line feeds in the cells, the lines of a file are its records. -/
theorem splitLines_encodeFile (final : Bool) (hne : rows ≠ [])
    (h : ∀ row ∈ rows, ∀ cell ∈ row, lineFeed ∉ cell.toList) :
    splitLines (encodeFile final rows) = rows.map encodeRow ++ if final then [[]] else [] := by
  induction rows with
  | nil => exact absurd rfl hne
  | cons row rows ih =>
    have hrow := lineFeed_not_mem_encodeRow (h row List.mem_cons_self)
    cases rows with
    | nil =>
      cases final with
      | false =>
        have hfile : encodeFile false [row] = encodeRow row := List.append_nil _
        rw [hfile, splitLines_of_free hrow]
        rfl
      | true => exact splitLines_line hrow
    | cons next rows =>
      have hrest := ih (List.cons_ne_nil _ _) fun row' hrow' => h row' (List.mem_cons_of_mem _ hrow')
      have hfile : encodeFile final (row :: next :: rows) =
          encodeRow row ++ carriageReturn :: lineFeed :: encodeFile final (next :: rows) := rfl
      rw [hfile, splitLines_line hrow, hrest]
      rfl

theorem encodeCell_eq_nil {cell : String} : encodeCell cell = [] ↔ cell = "" := by
  unfold encodeCell
  split
  · rename_i hquotes
    constructor
    · intro h
      cases h
    · rintro rfl
      exact absurd hquotes (by decide)
  · exact String.toList_eq_nil_iff

/-- Only a blank line has no characters. -/
theorem encodeRow_eq_nil (hne : row ≠ []) : encodeRow row = [] ↔ row = blankLine := by
  cases row with
  | nil => exact absurd rfl hne
  | cons cell row =>
    cases row with
    | nil =>
      unfold blankLine
      rw [List.cons.injEq, and_iff_left rfl]
      exact encodeCell_eq_nil
    | cons next row =>
      constructor
      · intro h
        exact absurd (List.append_eq_nil_iff.mp h).2 (List.cons_ne_nil _ _)
      · intro h
        cases h

/-- What the parser makes of the rows of a file: the blank lines are gone. -/
theorem lines_of_encodeFile (final : Bool) (hne : rows ≠ []) (hrows : ∀ row ∈ rows, row ≠ [])
    (h : ∀ row ∈ rows, ∀ cell ∈ row, lineFeed ∉ cell.toList) :
    ((splitLines (encodeFile final rows)).filter (· ≠ [])).map splitCsvLine =
      rows.filter (· ≠ blankLine) := by
  have hlast : (if final then [([] : List Char)] else []).filter (· ≠ []) = [] := by
    cases final <;> rfl
  have hblank : (rows.map encodeRow).filter (· ≠ []) =
      (rows.filter (· ≠ blankLine)).map encodeRow := by
    rw [List.filter_map]
    refine congrArg _ (List.filter_congr fun row hrow => ?_)
    simp only [Function.comp_apply, ne_eq, encodeRow_eq_nil (hrows row hrow)]
  rw [splitLines_encodeFile final hne h, List.filter_append, hlast, List.append_nil, hblank,
    List.map_map]
  refine (List.map_congr_left fun row hrow => ?_).trans (List.map_id _)
  exact splitCsvLine_encodeRow (hrows row (List.mem_of_mem_filter hrow))

end Lines

section Rows

variable {keys : List String} {row : List String} {rows : List (List String)}

/-- What the loop gathers: an entry for each line with a text under a key, up to its maximum. -/
theorem readRows_eq (maxRows i count : Nat) (lines : List (List String)) :
    readRows maxRows keys i count lines =
      (((lines.zipIdx i).filter fun r => !(textsUnder keys r.1).all (·.2 = "")).take
        (maxRows - count)).map fun r => ⟨r.2 + 1, (textsUnder keys r.1).foldl setText []⟩ := by
  induction lines generalizing i count with
  | nil => simp [readRows]
  | cons line lines ih =>
    rw [readRows, List.zipIdx_cons]
    by_cases hfull : maxRows ≤ count
    · rw [if_pos hfull, Nat.sub_eq_zero_of_le hfull, List.take_zero, List.map_nil]
    · obtain ⟨n, hn⟩ : ∃ n, maxRows - count = n + 1 := ⟨maxRows - count - 1, by omega⟩
      rw [if_neg hfull]
      by_cases hblank : (textsUnder keys line).all (·.2 = "") = true
      · have hskip : (!(textsUnder keys line).all (·.2 = "")) = false := by rw [hblank]; rfl
        simp only [hblank, if_true]
        rw [List.filter_cons_of_neg (by simp [hskip]), ih]
      · have hkeep : (!(textsUnder keys line).all (·.2 = "")) = true := by simpa using hblank
        have hrest : maxRows - (count + 1) = n := by omega
        rw [if_neg hblank, List.filter_cons_of_pos (by simp [hkeep]), hn, List.take_succ_cons,
          List.map_cons, ih, hrest]

/-- Of a record with a cell for every key, the texts are the trimmed cells. -/
theorem textsUnder_eq_zip (hkeys : ∀ key ∈ keys, key ≠ "") (hlength : row.length = keys.length) :
    textsUnder keys row = keys.zip (row.map trim) := by
  induction keys generalizing row with
  | nil => rfl
  | cons key keys ih =>
    cases row with
    | nil => cases hlength
    | cons cell row =>
      have hrest : row.length = keys.length := Nat.succ.inj hlength
      rw [textsUnder, if_neg (hkeys key List.mem_cons_self), List.tail_cons, List.headD_cons,
        ih (fun key' hkey' => hkeys key' (List.mem_cons_of_mem _ hkey')) hrest]
      rfl

theorem all_blank_iff (hlength : row.length = keys.length) :
    (keys.zip (row.map trim)).all (·.2 = "") = CsvTable.isBlank row := by
  induction keys generalizing row with
  | nil =>
    obtain rfl := List.length_eq_zero_iff.mp hlength
    rfl
  | cons key keys ih =>
    cases row with
    | nil => cases hlength
    | cons cell row =>
      have hrest := ih (Nat.succ.inj hlength)
      rw [List.map_cons, List.zip_cons_cons, List.all_cons, hrest]
      rfl

/-- Texts under distinct keys are all kept, but for the one key that names the prototype. -/
theorem foldl_setText (texts values : Record) (hnodup : (texts.map Prod.fst).Nodup)
    (hnew : ∀ key ∈ texts.map Prod.fst, key ∉ values.map Prod.fst) :
    texts.foldl setText values = values ++ texts.filter (·.1 ≠ "__proto__") := by
  induction texts generalizing values with
  | nil => rw [List.foldl_nil, List.filter_nil, List.append_nil]
  | cons entry texts ih =>
    obtain ⟨hfirst, hrest⟩ := List.nodup_cons.mp hnodup
    rw [List.foldl_cons]
    by_cases hproto : entry.1 = "__proto__"
    · have hset : setText values entry = values := if_pos hproto
      rw [hset, List.filter_cons_of_neg (by simp [hproto]),
        ih values hrest fun key hkey => hnew key (List.mem_cons_of_mem _ hkey)]
    · have habsent : ¬ values.any (·.1 = entry.1) = true := by
        intro hany
        obtain ⟨old, hold, heq⟩ := List.any_eq_true.mp hany
        exact hnew entry.1 List.mem_cons_self
          (List.mem_map.mpr ⟨old, hold, of_decide_eq_true heq⟩)
      have hset : setText values entry = values ++ [entry] := by
        rw [setText, if_neg hproto, Record.assign, if_neg habsent]
      rw [hset, List.filter_cons_of_pos (by simp [hproto]), ih _ hrest, List.append_assoc,
        List.singleton_append]
      intro key hkey hmem
      rw [List.map_append, List.map_singleton, List.mem_append, List.mem_singleton] at hmem
      rcases hmem with hmem | rfl
      · exact hnew key (List.mem_cons_of_mem _ hkey) hmem
      · exact hfirst hkey

/-- The values are the texts under their keys exactly if no key names the prototype. -/
theorem values_eq_iff {texts : List String} (hnodup : keys.Nodup)
    (hlength : texts.length = keys.length) :
    (keys.zip texts).foldl setText [] = keys.zip texts ↔ "__proto__" ∉ keys := by
  have hkeys : (keys.zip texts).map Prod.fst = keys := List.map_fst_zip (Nat.le_of_eq hlength.symm)
  have hfold := foldl_setText (keys.zip texts) [] (hkeys.symm ▸ hnodup) fun _ _ => List.not_mem_nil
  rw [List.nil_append] at hfold
  rw [hfold, List.filter_eq_self]
  constructor
  · intro hall hmem
    rw [← hkeys] at hmem
    obtain ⟨entry, hentry, heq⟩ := List.mem_map.mp hmem
    exact of_decide_eq_true (hall entry hentry) heq
  · intro hfree entry hentry
    refine decide_eq_true fun heq => hfree ?_
    rw [← hkeys, ← heq]
    exact List.mem_map_of_mem hentry

end Rows

section Numbering

variable {α β : Type} {counted keep : α → Bool} {f g : α → Nat → β} {P : Prop} {l : List α}

theorem forall_decomposition_cons (a : α) (Q : List α → α → Prop) :
    (∀ front b back, a :: l = front ++ b :: back → Q front b) ↔
      Q [] a ∧ ∀ front b back, l = front ++ b :: back → Q (a :: front) b := by
  constructor
  · intro h
    exact ⟨h [] a l rfl, fun front b back heq => h (a :: front) b back (congrArg (a :: ·) heq)⟩
  · rintro ⟨hfirst, hrest⟩ front b back heq
    cases front with
    | nil =>
      obtain ⟨rfl, rfl⟩ := List.cons.inj heq
      exact hfirst
    | cons a' front =>
      obtain ⟨rfl, hl⟩ := List.cons.inj heq
      exact hrest front b back hl

/-- Two numberings of the elements kept agree exactly if in front of each of them the first has
counted as many elements as the second. -/
theorem numbered_eq_iff (i j m : Nat) (hcounted : ∀ a ∈ l, keep a = true → counted a = true)
    (hfg : ∀ a ∈ l, keep a = true → ∀ i j, f a i = g a j ↔ i = j ∧ P) :
    ((((l.filter counted).zipIdx i).filter fun r => keep r.1).take m).map (fun r => f r.1 r.2) =
        (((l.zipIdx j).filter fun r => keep r.1).take m).map (fun r => g r.1 r.2) ↔
      ∀ front a back, l = front ++ a :: back → keep a = true → front.countP keep < m →
        i + front.countP counted = j + front.length ∧ P := by
  induction l generalizing i j m with
  | nil =>
    refine iff_of_true (by simp) fun front a back heq => ?_
    exact absurd heq.symm (List.append_ne_nil_of_right_ne_nil _ (List.cons_ne_nil _ _))
  | cons a l ih =>
    have hcounted' := fun b hb => hcounted b (List.mem_cons_of_mem a hb)
    have hfg' := fun b hb => hfg b (List.mem_cons_of_mem a hb)
    have hboth : ∀ x y, i + 1 + x = j + 1 + y ↔ i + (x + 1) = j + (y + 1) := by omega
    have hone : ∀ x y, i + x = j + 1 + y ↔ i + x = j + (y + 1) := by omega
    rw [forall_decomposition_cons, List.zipIdx_cons]
    by_cases hkeep : keep a = true
    · have hcount := hcounted a List.mem_cons_self hkeep
      have hkept : ∀ n (rest : List (α × Nat)), ((a, n) :: rest).filter (fun r => keep r.1) =
          (a, n) :: rest.filter fun r => keep r.1 := fun n rest => List.filter_cons_of_pos hkeep
      rw [List.filter_cons_of_pos hcount, List.zipIdx_cons, hkept, hkept]
      cases m with
      | zero => simp
      | succ m =>
        rw [List.take_succ_cons, List.take_succ_cons, List.map_cons, List.map_cons,
          List.cons.injEq, hfg a List.mem_cons_self hkeep, ih (i + 1) (j + 1) m hcounted' hfg']
        simp only [List.countP_cons_of_pos hkeep, List.countP_cons_of_pos hcount, List.length_cons,
          Nat.add_lt_add_iff_right, hboth]
        simp [hkeep]
    · have hfirst : keep a = true → ([] : List α).countP keep < m →
          i + ([] : List α).countP counted = j + ([] : List α).length ∧ P := fun h => absurd h hkeep
      have hdropped : ∀ n (rest : List (α × Nat)), ((a, n) :: rest).filter (fun r => keep r.1) =
          rest.filter fun r => keep r.1 := fun n rest => List.filter_cons_of_neg hkeep
      rw [and_iff_right hfirst, hdropped]
      by_cases hcount : counted a = true
      · rw [List.filter_cons_of_pos hcount, List.zipIdx_cons, hdropped,
          ih (i + 1) (j + 1) m hcounted' hfg']
        simp only [List.countP_cons_of_neg hkeep, List.countP_cons_of_pos hcount, List.length_cons,
          hboth]
      · rw [List.filter_cons_of_neg hcount, ih i (j + 1) m hcounted' hfg']
        simp only [List.countP_cons_of_neg hkeep, List.countP_cons_of_neg hcount, List.length_cons,
          hone]

end Numbering

section Returned

variable {text line field keys : List Char}

theorem lineFeed_not_mem_line (hmem : line ∈ splitLines text) : lineFeed ∉ line := by
  induction text generalizing line with
  | nil =>
    obtain rfl := List.mem_singleton.mp hmem
    exact List.not_mem_nil
  | cons c text ih =>
    rw [splitLines] at hmem
    split at hmem
    · rcases List.mem_cons.mp hmem with rfl | hrest
      · exact List.not_mem_nil
      · exact ih hrest
    · rename_i hc
      split at hmem
      · exact ih hmem
      · have hfirst : ∀ rest : List Char, lineFeed ∉ rest → lineFeed ∉ c :: rest := by
          intro rest hfree hin
          rcases List.mem_cons.mp hin with heq | hin
          · exact hc heq.symm
          · exact hfree hin
        cases hlines : splitLines text with
        | nil =>
          rw [hlines] at hmem
          obtain rfl := List.mem_singleton.mp hmem
          exact hfirst [] List.not_mem_nil
        | cons first lines =>
          rw [hlines] at hmem ih
          rcases List.mem_cons.mp hmem with rfl | hrest
          · exact hfirst first (ih List.mem_cons_self)
          · exact ih (List.mem_cons_of_mem _ hrest)

/-- A field is made of the characters of its line. -/
theorem mem_of_mem_splitFields {cur : List Char} {inQuotes skip : Bool} {c : Char}
    (hfield : field ∈ splitFields cur inQuotes skip line) (hc : c ∈ field) : c ∈ cur ∨ c ∈ line := by
  induction line generalizing cur inQuotes skip with
  | nil =>
    obtain rfl := List.mem_singleton.mp hfield
    exact .inl hc
  | cons d line ih =>
    have hgrown : ∀ e, e = d → c ∈ cur ++ [e] ∨ c ∈ line → c ∈ cur ∨ c ∈ d :: line := by
      rintro e rfl (hcur | hline)
      · rcases List.mem_append.mp hcur with hcur | hd
        · exact .inl hcur
        · exact .inr (List.mem_singleton.mp hd ▸ List.mem_cons_self)
      · exact .inr (List.mem_cons_of_mem _ hline)
    have hsame : c ∈ cur ∨ c ∈ line → c ∈ cur ∨ c ∈ d :: line :=
      Or.imp_right (List.mem_cons_of_mem _)
    rw [splitFields] at hfield
    split at hfield
    · exact hsame (ih hfield)
    · split at hfield
      · rename_i hquote
        split at hfield
        · exact hgrown doubleQuote hquote.symm (ih hfield)
        · exact hsame (ih hfield)
      · split at hfield
        · rcases List.mem_cons.mp hfield with rfl | hrest
          · exact .inl hc
          · exact .inr (List.mem_cons_of_mem _ ((ih hrest).resolve_left List.not_mem_nil))
        · exact hgrown d rfl (ih hfield)

theorem mem_of_mem_trim {s : String} {c : Char} (h : c ∈ (trim s).toList) : c ∈ s.toList := by
  rw [trim, String.toList_ofList, List.mem_reverse] at h
  have h' := (List.dropWhile_sublist _).subset h
  exact (List.dropWhile_sublist _).subset (List.mem_reverse.mp h')

/-- The cells of a line without line feeds have none either. -/
theorem lineFeed_not_mem_cell {cell : String} (hline : lineFeed ∉ line)
    (hcell : cell ∈ splitCsvLine line) : lineFeed ∉ cell.toList := by
  obtain ⟨field, hfield, rfl⟩ := List.mem_map.mp hcell
  rw [String.toList_ofList]
  intro hmem
  exact hline ((mem_of_mem_splitFields hfield hmem).resolve_left List.not_mem_nil)

/-- A text without line feeds. -/
def OneLine (s : String) : Prop := lineFeed ∉ s.toList

theorem OneLine.trim {s : String} (h : OneLine s) : OneLine (trim s) := fun hmem =>
  h (mem_of_mem_trim hmem)

theorem oneLine_of_mem_textsUnder {keys row : List String} (hkeys : ∀ key ∈ keys, OneLine key)
    (hrow : ∀ cell ∈ row, OneLine cell) :
    ∀ entry ∈ textsUnder keys row, OneLine entry.1 ∧ OneLine entry.2 := by
  induction keys generalizing row with
  | nil => exact fun entry hentry => absurd hentry List.not_mem_nil
  | cons key keys ih =>
    have hrest := ih (fun key' hkey' => hkeys key' (List.mem_cons_of_mem _ hkey'))
      fun cell hcell => hrow cell (List.mem_of_mem_tail hcell)
    have hcell : OneLine (row.headD "") := by
      cases row with
      | nil => exact List.not_mem_nil
      | cons cell row => exact hrow cell List.mem_cons_self
    rw [textsUnder]
    split
    · exact hrest
    · intro entry hentry
      rcases List.mem_cons.mp hentry with rfl | hentry
      · exact ⟨hkeys key List.mem_cons_self, hcell.trim⟩
      · exact hrest entry hentry

theorem oneLine_of_mem_setText {values : Record} {entry : String × String}
    (hvalues : ∀ e ∈ values, OneLine e.1 ∧ OneLine e.2) (hentry : OneLine entry.1 ∧ OneLine entry.2) :
    ∀ e ∈ setText values entry, OneLine e.1 ∧ OneLine e.2 := by
  unfold setText Record.assign
  split
  · exact hvalues
  · split
    · intro e he
      obtain ⟨old, hold, rfl⟩ := List.mem_map.mp he
      split
      · exact hentry
      · exact hvalues old hold
    · intro e he
      rcases List.mem_append.mp he with he | he
      · exact hvalues e he
      · exact List.mem_singleton.mp he ▸ hentry

theorem oneLine_of_mem_foldl {texts values : Record}
    (htexts : ∀ e ∈ texts, OneLine e.1 ∧ OneLine e.2)
    (hvalues : ∀ e ∈ values, OneLine e.1 ∧ OneLine e.2) :
    ∀ e ∈ texts.foldl setText values, OneLine e.1 ∧ OneLine e.2 := by
  induction texts generalizing values with
  | nil => exact hvalues
  | cons entry texts ih =>
    exact ih (fun e he => htexts e (List.mem_cons_of_mem _ he))
      (oneLine_of_mem_setText hvalues (htexts entry List.mem_cons_self))

/-- Whatever the file, no value the parser returns has a line feed in it, and no key. -/
theorem oneLine_of_mem_parseCsv {text : String} {maxRows : Nat} {row : ParsedRow}
    (hrow : row ∈ (parseCsv text maxRows).rows) :
    ∀ e ∈ row.values, OneLine e.1 ∧ OneLine e.2 := by
  generalize hmatrix : ((splitLines text.toList).filter (· ≠ [])).map splitCsvLine = matrix
  have hcells : ∀ cells ∈ matrix, ∀ cell ∈ cells, OneLine cell := by
    intro cells hcells cell hcell
    rw [← hmatrix] at hcells
    obtain ⟨line, hline, rfl⟩ := List.mem_map.mp hcells
    exact lineFeed_not_mem_cell (lineFeed_not_mem_line (List.mem_of_mem_filter hline)) hcell
  have hkeys : ∀ key ∈ ((matrix[detectHeaderRow matrix]?).getD []).map trim, OneLine key := by
    intro key hkey
    obtain ⟨cell, hcell, rfl⟩ := List.mem_map.mp hkey
    cases hheader : matrix[detectHeaderRow matrix]? with
    | none =>
      rw [hheader] at hcell
      exact absurd hcell List.not_mem_nil
    | some header =>
      rw [hheader] at hcell
      exact (hcells header (List.mem_of_getElem? hheader) cell hcell).trim
  rw [parseCsv, hmatrix, materialize, readRows_eq] at hrow
  obtain ⟨r, hr, rfl⟩ := List.mem_map.mp hrow
  have hline := List.fst_mem_of_mem_zipIdx (List.mem_of_mem_filter (List.mem_of_mem_take hr))
  exact oneLine_of_mem_foldl
    (oneLine_of_mem_textsUnder hkeys (hcells r.1 (List.mem_of_mem_drop hline)))
    fun e he => absurd he List.not_mem_nil

end Returned

namespace CsvTable

variable {table : CsvTable} {final : Bool} {maxRows : Nat} {row : List String}

theorem isBlank_blankLine : isBlank blankLine = true := by decide

theorem header_ne_blankLine (table : CsvTable) : table.header ≠ blankLine := by
  intro heq
  refine table.label_ne "" ?_ rfl
  rw [heq]
  decide

theorem length_of_mem (hmem : row ∈ table.records) (hblank : row ≠ blankLine) :
    row.length = table.labels.length := by
  rw [labels, List.length_map]
  exact (table.shape row hmem).resolve_left hblank

theorem labels_nodup (table : CsvTable) : table.labels.Nodup := table.distinct

theorem textsUnder_labels (hlength : row.length = table.labels.length) :
    textsUnder table.labels row = table.labels.zip (row.map trim) :=
  textsUnder_eq_zip table.label_ne hlength

theorem ne_nil_of_mem_rows (hmem : row ∈ table.rows) : row ≠ [] := by
  rcases List.mem_append.mp hmem with hbefore | hmem
  · exact table.before_ne row hbefore
  · rcases List.mem_cons.mp hmem with rfl | hrecord
    · exact table.header_ne
    · rcases table.shape row hrecord with rfl | hlength
      · exact List.cons_ne_nil _ _
      · intro heq
        rw [heq, List.length_nil] at hlength
        exact table.header_ne (List.length_eq_zero_iff.mp hlength.symm)

/-- Without line feeds, the rows come from the records behind the header that are no blank lines. -/
theorem parseCsv_eq (hfree : table.NoLineFeed) :
    (parseCsv (String.ofList (encodeFile final table.rows)) maxRows).rows =
      readRows maxRows table.labels ((table.before.filter (· ≠ blankLine)).length + 1) 0
        (table.records.filter (· ≠ blankLine)) := by
  have hrows : table.rows ≠ [] :=
    List.append_ne_nil_of_right_ne_nil _ (List.cons_ne_nil _ _)
  have hlines := lines_of_encodeFile final hrows (fun row hrow => ne_nil_of_mem_rows hrow) hfree
  have hrest : table.rows.filter (· ≠ blankLine) = table.before.filter (· ≠ blankLine) ++
      table.header :: table.records.filter (· ≠ blankLine) := by
    rw [rows, List.filter_append, List.filter_cons_of_pos (by simp [header_ne_blankLine])]
  have hheader := table.recognised
  rw [← rows, hrest] at hheader
  rw [parseCsv, String.toList_ofList, hlines, hrest]
  change readRows maxRows _ _ 0 _ = _
  have hbehind : (table.before.filter (· ≠ blankLine)).length + 1 =
      (table.before.filter (· ≠ blankLine) ++ [table.header]).length := by
    rw [List.length_append, List.length_singleton]
  have hdrop : (table.before.filter (· ≠ blankLine) ++
      table.header :: table.records.filter (· ≠ blankLine)).drop
        ((table.before.filter (· ≠ blankLine)).length + 1) =
      table.records.filter (· ≠ blankLine) := by
    rw [hbehind, List.append_cons _ table.header (table.records.filter (· ≠ blankLine)),
      List.drop_left]
  rw [hheader, List.getElem?_append_right (Nat.le_refl _), Nat.sub_self, hdrop]
  rfl

/-- The entry the parser makes of a record, and when it is the entry of the table. -/
theorem read_eq_entry_iff (hlength : row.length = table.labels.length) (i j : Nat) :
    (⟨i + 1, (textsUnder table.labels row).foldl setText []⟩ : ParsedRow) = table.entry row j ↔
      i = j ∧ "__proto__" ∉ table.labels := by
  have htexts : (row.map trim).length = table.labels.length := by rw [List.length_map, hlength]
  rw [entry, ParsedRow.mk.injEq, textsUnder_labels hlength,
    values_eq_iff table.labels_nodup htexts, Nat.add_right_cancel_iff]

/-- As many rows are left without the blank lines as there were, if there were none. -/
theorem counted_eq_iff (before front : List (List String)) :
    (before.filter (· ≠ blankLine)).length + 1 + front.countP (· ≠ blankLine) =
      before.length + 1 + front.length ↔ blankLine ∉ before ++ front := by
  have hall : ((before ++ front).filter (· ≠ blankLine)).length = (before ++ front).length ↔
      blankLine ∉ before ++ front := by
    rw [List.length_filter_eq_length_iff]
    constructor
    · exact fun h hmem => of_decide_eq_true (h _ hmem) rfl
    · exact fun h row hrow => decide_eq_true fun heq => h (heq ▸ hrow)
  rw [← hall, List.filter_append, List.length_append, List.length_append,
    List.countP_eq_length_filter]
  omega

/-- Without line feeds in the cells, a table comes back from its file exactly if no record that is
read has a blank line in front of it, or is read under a label that names the prototype. -/
theorem decodesBack_iff_undisturbed (table : CsvTable) (final : Bool) (maxRows : Nat)
    (hfree : table.NoLineFeed) :
    table.DecodesBack final maxRows ↔ table.Undisturbed maxRows := by
  have hread : ∀ row ∈ table.records, (!isBlank row) = true → decide (row ≠ blankLine) = true := by
    intro row _ hkeep
    refine decide_eq_true fun heq => ?_
    rw [heq, isBlank_blankLine] at hkeep
    exact Bool.false_ne_true hkeep
  have hentry : ∀ row ∈ table.records, (!isBlank row) = true → ∀ i j,
      (⟨i + 1, (textsUnder table.labels row).foldl setText []⟩ : ParsedRow) = table.entry row j ↔
        i = j ∧ "__proto__" ∉ table.labels := by
    intro row hmem hkeep
    exact read_eq_entry_iff (length_of_mem hmem (of_decide_eq_true (hread row hmem hkeep)))
  have hfilter : ∀ i, ((table.records.filter (· ≠ blankLine)).zipIdx i).filter
      (fun r => !(textsUnder table.labels r.1).all (·.2 = "")) =
      ((table.records.filter (· ≠ blankLine)).zipIdx i).filter fun r => !isBlank r.1 := by
    intro i
    refine List.filter_congr fun r hr => ?_
    obtain ⟨hmem, hblank⟩ := List.mem_filter.mp (List.fst_mem_of_mem_zipIdx hr)
    have hlength := length_of_mem hmem (of_decide_eq_true hblank)
    rw [textsUnder_labels hlength, all_blank_iff hlength]
  have hnumbered := numbered_eq_iff ((table.before.filter (· ≠ blankLine)).length + 1)
    (table.before.length + 1) maxRows hread hentry
  rw [DecodesBack, parseCsv_eq hfree, readRows_eq, Nat.sub_zero, hfilter]
  refine hnumbered.trans (forall_congr' fun front => forall_congr' fun row => forall_congr' fun back =>
    forall_congr' fun _ => ?_)
  rw [counted_eq_iff, Bool.not_eq_true']

/-- When a table comes back from its file. The second part is about every table: where an entry has a
line feed in it, the parser never returns it. -/
theorem csv_decodes_back (table : CsvTable) (final : Bool) (maxRows : Nat) :
    (table.NoLineFeed → (table.DecodesBack final maxRows ↔ table.Undisturbed maxRows)) ∧
      (table.DecodesBack final maxRows →
        ∀ row ∈ table.entries maxRows, ∀ e ∈ row.values, OneLine e.1 ∧ OneLine e.2) := by
  refine ⟨decodesBack_iff_undisturbed table final maxRows, ?_⟩
  intro hback row hrow
  rw [← hback] at hrow
  exact oneLine_of_mem_parseCsv hrow

/-- A table with a comma, quotes and a carriage return in its cells, and an empty record. -/
def quotedTable : CsvTable where
  before := []
  header := ["name", "note"]
  records := [["a, b", String.ofList [doubleQuote, 'x', doubleQuote]], ["", ""],
    [String.ofList ['c', carriageReturn, 'd'], " e "]]
  before_ne := by decide
  header_ne := by decide
  shape := by decide
  label_ne := by decide
  distinct := by decide
  recognised := by decide

theorem csv_decodes_back_quoted : quotedTable.DecodesBack true 10 := by
  have hfree : quotedTable.NoLineFeed := by
    unfold NoLineFeed
    decide
  refine ((csv_decodes_back quotedTable true 10).1 hfree).mpr fun front row back heq _ _ => ?_
  have hnone : blankLine ∉ quotedTable.records := by decide
  refine ⟨fun hmem => hnone ?_, by decide⟩
  rw [heq]
  exact List.mem_append_left _ hmem

/-- A cell of two lines. -/
def twoLines : CsvTable where
  before := []
  header := ["name", "note"]
  records := [["a", String.ofList ['x', lineFeed, 'y']]]
  before_ne := by decide
  header_ne := by decide
  shape := by decide
  label_ne := by decide
  distinct := by decide
  recognised := by decide

/-- A blank line in front of a record. -/
def blankBetween : CsvTable where
  before := []
  header := ["name", "note"]
  records := [blankLine, ["a", "x"]]
  before_ne := by decide
  header_ne := by decide
  shape := by decide
  label_ne := by decide
  distinct := by decide
  recognised := by decide

theorem csv_decoded_wrongly :
    ¬ (∀ (table : CsvTable) (final : Bool) (maxRows : Nat), table.DecodesBack final maxRows) ∧
      ¬ twoLines.DecodesBack true 10 ∧ ¬ blankBetween.DecodesBack true 10 := by
  have hcell : ¬ twoLines.DecodesBack true 10 := by
    unfold DecodesBack
    decide
  have hblank : ¬ blankBetween.DecodesBack true 10 := by
    unfold DecodesBack
    decide
  exact ⟨fun h => hcell (h twoLines true 10), hcell, hblank⟩

end CsvTable

end DddBoilerplate.Import
