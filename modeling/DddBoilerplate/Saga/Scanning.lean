/- module: DddBoilerplate/Saga/Scanning
   generality: I
   digest: What the scanner makes of a text, piece by piece, and of the texts a condition is built from. -/

import DddBoilerplate.Saga.Descent
import Mathlib.Data.List.TakeWhile

set_option autoImplicit false
set_option relaxedAutoImplicit false
set_option linter.all false

namespace DddBoilerplate.Saga.Expression

variable {ν : Type} {R : Runtime ν} {source : String}

theorem of_bind_error {α β : Type} {r : Except Failure α} {f : α → Except Failure β}
    {e : Failure} (h : (r >>= f) = .error e) :
    r = .error e ∨ ∃ a, r = .ok a ∧ f a = .error e := by
  cases r with
  | error e' =>
    cases h
    exact .inl rfl
  | ok a => exact .inr ⟨a, rfl, h⟩

section Rounds

/-- One round of the scanner, whatever text its messages quote. -/
def Takes (R : Runtime ν) (c : Char) (cs : List Char) (token : Option (Token ν))
    (rest : List Char) : Prop := scanToken R "" c cs = .ok (token, rest)

theorem scanToken_eq_ok_iff {c : Char} {cs rest : List Char} {token : Option (Token ν)} :
    scanToken R source c cs = .ok (token, rest) ↔ Takes R c cs token rest := by
  unfold Takes scanToken
  by_cases hblank : isBlank c = true
  · simp only [if_pos hblank]
  simp only [if_neg hblank]
  by_cases hquote : isQuote c = true
  · simp only [if_pos hquote]
    cases scanString c cs with
    | none => exact ⟨fun h => (nomatch h), fun h => (nomatch h)⟩
    | some read => exact Iff.rfl
  simp only [if_neg hquote]
  by_cases hdigit : c.isDigit = true
  · simp only [if_pos hdigit]
  simp only [if_neg hdigit]
  by_cases hident : isIdentStart c = true
  · simp only [if_pos hident]
  simp only [if_neg hident]
  cases Punct.read? Punct.two ((c :: cs).take 2) with
  | some p => exact Iff.rfl
  | none =>
    cases Punct.read? Punct.one [c] with
    | some p => exact Iff.rfl
    | none => exact ⟨fun h => (nomatch h), fun h => (nomatch h)⟩

theorem scanString_cons (q c : Char) (cs : List Char) :
    scanString q (c :: cs) =
      if c = q then some ([], cs)
      else if c = backslash then
        match cs with
        | [] => none
        | escaped :: rest => (scanString q rest).map fun read => (escaped :: read.1, read.2)
      else (scanString q cs).map fun read => (c :: read.1, read.2) :=
  scanString.eq_def q (c :: cs)

theorem scanString_quote (q : Char) (cs : List Char) :
    scanString q (q :: cs) = some ([], cs) := by
  rw [scanString_cons, if_pos rfl]

theorem scanString_plain {q c : Char} (hq : c ≠ q) (hslash : c ≠ backslash) (cs : List Char) :
    scanString q (c :: cs) = (scanString q cs).map fun read => (c :: read.1, read.2) := by
  rw [scanString_cons, if_neg hq, if_neg hslash]

theorem scanString_escaped {q : Char} (hq : backslash ≠ q) (c : Char) (cs : List Char) :
    scanString q (backslash :: c :: cs) =
      (scanString q cs).map fun read => (c :: read.1, read.2) := by
  rw [scanString_cons, if_neg hq, if_pos rfl]

theorem scanString_length {q : Char} {cs value rest : List Char}
    (h : scanString q cs = some (value, rest)) : rest.length < cs.length := by
  fun_induction scanString q cs generalizing value rest with
  | case1 => cases h
  | case2 cs =>
    cases h
    exact Nat.lt_succ_self _
  | case3 => cases h
  | case4 escaped more hne ih =>
    obtain ⟨read, hread, heq⟩ := Option.map_eq_some_iff.mp h
    cases heq
    have hless := ih hread
    simp only [List.length_cons]
    omega
  | case5 c cs hq hslash ih =>
    obtain ⟨read, hread, heq⟩ := Option.map_eq_some_iff.mp h
    cases heq
    have hless := ih hread
    simp only [List.length_cons]
    omega

/-- What follows the closing quote does not matter to a string literal. -/
theorem scanString_append {q : Char} {cs value rest : List Char}
    (h : scanString q cs = some (value, rest)) (ds : List Char) :
    scanString q (cs ++ ds) = some (value, rest ++ ds) := by
  fun_induction scanString q cs generalizing value rest with
  | case1 => cases h
  | case2 cs =>
    cases h
    exact scanString_quote q _
  | case3 => cases h
  | case4 escaped more hne ih =>
    obtain ⟨read, hread, heq⟩ := Option.map_eq_some_iff.mp h
    cases heq
    show scanString q (backslash :: escaped :: (more ++ ds)) = _
    rw [scanString_escaped hne, ih hread]
    rfl
  | case5 c cs hq hslash ih =>
    obtain ⟨read, hread, heq⟩ := Option.map_eq_some_iff.mp h
    cases heq
    show scanString q (c :: (cs ++ ds)) = _
    rw [scanString_plain hq hslash, ih hread]
    rfl

theorem takes_length {c : Char} {cs rest : List Char} {token : Option (Token ν)}
    (h : Takes R c cs token rest) : rest.length ≤ cs.length := by
  have hdrop : ∀ {p : Char → Bool}, p c = true →
      ((c :: cs).dropWhile p).length ≤ cs.length := by
    intro p hp
    rw [List.dropWhile_cons_of_pos hp]
    exact (List.dropWhile_suffix p).length_le
  unfold Takes scanToken at h
  split at h
  · cases h
    exact Nat.le_refl _
  split at h
  · split at h
    · rename_i hread
      cases h
      exact Nat.le_of_lt (scanString_length hread)
    · cases h
  split at h
  · rename_i hdigit
    cases h
    exact hdrop (by simp [isNumeric, hdigit])
  split at h
  · rename_i hident
    cases h
    refine hdrop ?_
    simp only [isIdentStart, isIdentPart, Char.isAlphanum, Bool.or_eq_true] at hident ⊢
    tauto
  split at h
  · cases h
    rw [List.length_drop]
    omega
  · split at h
    · cases h
      exact Nat.le_refl _
    · cases h

end Rounds

section Scans

/-- The scanner makes these tokens of the text. -/
inductive Scans (R : Runtime ν) : List Char → List (Token ν) → Prop where
  | nil : Scans R [] []
  | round {c : Char} {cs rest : List Char} {token : Option (Token ν)} {ts : List (Token ν)} :
    Takes R c cs token rest → Scans R rest ts → Scans R (c :: cs) (token.toList ++ ts)

theorem scan_eq_ok_iff {n : Nat} {cs : List Char} {ts : List (Token ν)} (hn : cs.length ≤ n) :
    scan R source n cs = .ok ts ↔ Scans R cs ts := by
  induction n generalizing cs ts with
  | zero =>
    obtain rfl := List.length_eq_zero_iff.mp (Nat.le_zero.mp hn)
    constructor
    · intro h
      cases h
      exact .nil
    · intro h
      cases h
      rfl
  | succ n ih =>
    cases cs with
    | nil =>
      constructor
      · intro h
        cases h
        exact .nil
      · intro h
        cases h
        rfl
    | cons c cs =>
      have hlength : cs.length ≤ n := Nat.le_of_succ_le_succ hn
      constructor
      · intro h
        obtain ⟨⟨token, rest⟩, htoken, h⟩ := of_bind_ok h
        obtain ⟨more, hmore, heq⟩ := of_bind_ok h
        cases heq
        have htakes := scanToken_eq_ok_iff.mp htoken
        exact .round htakes ((ih (Nat.le_trans (takes_length htakes) hlength)).mp hmore)
      · intro h
        cases h with
        | @round _ _ rest token more htakes hmore =>
          have hrun : scan R source (n + 1) (c :: cs) = (scanToken R source c cs >>= _) := rfl
          rw [hrun, scanToken_eq_ok_iff.mpr htakes]
          show (scan R source n rest >>= _) = _
          rw [(ih (Nat.le_trans (takes_length htakes) hlength)).mpr hmore]
          rfl

theorem tokenize_eq_ok_iff {text : String} {ts : List (Token ν)} :
    tokenize R text = .ok ts ↔ Scans R text.toList ts := by
  exact scan_eq_ok_iff (Nat.le_of_eq String.length_toList)

theorem scanToken_ne_outOfFuel {c : Char} {cs : List Char} :
    scanToken R source c cs ≠ .error .outOfFuel := by
  unfold scanToken
  split
  · exact fun h => nomatch h
  split
  · split <;> exact fun h => nomatch h
  split
  · exact fun h => nomatch h
  split
  · exact fun h => nomatch h
  split
  · exact fun h => nomatch h
  · split <;> exact fun h => nomatch h

theorem scan_ne_outOfFuel {n : Nat} {cs : List Char} (hn : cs.length ≤ n) :
    scan R source n cs ≠ .error .outOfFuel := by
  induction n generalizing cs with
  | zero =>
    obtain rfl := List.length_eq_zero_iff.mp (Nat.le_zero.mp hn)
    exact fun h => nomatch h
  | succ n ih =>
    cases cs with
    | nil => exact fun h => nomatch h
    | cons c cs =>
      intro h
      rcases of_bind_error h with htoken | ⟨⟨token, rest⟩, htoken, h⟩
      · exact scanToken_ne_outOfFuel htoken
      · have hlength := takes_length (scanToken_eq_ok_iff.mp htoken)
        rcases of_bind_error h with hrest | ⟨_, _, h⟩
        · exact ih (Nat.le_trans hlength (Nat.le_of_succ_le_succ hn)) hrest
        · cases h

/-- The scanner never runs out of fuel. -/
theorem tokenize_fueled (text : String) : tokenize R text ≠ .error .outOfFuel :=
  scan_ne_outOfFuel (Nat.le_of_eq String.length_toList)

theorem Scans.unique {cs : List Char} {ts us : List (Token ν)} (h : Scans R cs ts)
    (h' : Scans R cs us) : ts = us := by
  induction h generalizing us with
  | nil =>
    cases h'
    rfl
  | round htakes _ ih =>
    cases h' with
    | round htakes' hrest' =>
      cases htakes.symm.trans htakes'
      rw [ih hrest']

/-- A round that takes no token leaves the tokens to what follows. -/
theorem scans_cons_none {c : Char} {cs rest : List Char} {ts : List (Token ν)}
    (h : Takes R c cs none rest) : Scans R (c :: cs) ts ↔ Scans R rest ts := by
  constructor
  · intro hscans
    cases hscans with
    | round htakes hrest =>
      cases h.symm.trans htakes
      exact hrest
  · intro hrest
    exact .round h hrest

theorem scans_cons_some {c : Char} {cs rest : List Char} {token : Token ν}
    {ts : List (Token ν)} (h : Takes R c cs (some token) rest) :
    Scans R (c :: cs) ts ↔ ∃ more, ts = token :: more ∧ Scans R rest more := by
  constructor
  · intro hscans
    cases hscans with
    | round htakes hrest =>
      cases h.symm.trans htakes
      exact ⟨_, rfl, hrest⟩
  · rintro ⟨more, rfl, hrest⟩
    exact .round h hrest

theorem takes_blank {c : Char} (hc : isBlank c = true) (cs : List Char) :
    Takes R c cs none cs := by
  unfold Takes scanToken
  rw [if_pos hc]

/-- A character that ends whatever token stands before it. -/
def Parts (c : Char) : Prop :=
  isIdentPart c = false ∧ isNumeric c = false ∧ c ≠ '=' ∧ c ≠ '&' ∧ c ≠ '|'

instance (c : Char) : Decidable (Parts c) := by
  unfold Parts
  infer_instance

theorem takeWhile_append_of_head {p : Char → Bool} {d : Char} (hd : p d = false)
    (cs ds : List Char) :
    (cs ++ d :: ds).takeWhile p = cs.takeWhile p ∧
      (cs ++ d :: ds).dropWhile p = cs.dropWhile p ++ d :: ds := by
  induction cs with
  | nil => simp [hd]
  | cons c cs ih =>
    by_cases hc : p c = true
    · simp [hc, ih]
    · simp [hc]

theorem read?_two_of_parts {c d : Char} (hd : Parts d) : Punct.read? Punct.two [c, d] = none := by
  obtain ⟨-, -, heq, hand, hor⟩ := hd
  have hne : ∀ a b : Char, b = '=' ∨ b = '&' ∨ b = '|' → ¬[a, b] = [c, d] := by
    intro a b hb h
    have hbd : b = d := (List.cons.inj (List.cons.inj h).2).1
    rw [hbd] at hb
    rcases hb with hb | hb | hb
    · exact heq hb
    · exact hand hb
    · exact hor hb
  refine List.find?_eq_none.mpr fun p hp => ?_
  rw [decide_eq_true_iff]
  simp only [Punct.two, List.mem_cons, List.not_mem_nil, or_false] at hp
  rcases hp with rfl | rfl | rfl | rfl | rfl | rfl
  · exact hne '&' '&' (.inr (.inl rfl))
  · exact hne '|' '|' (.inr (.inr rfl))
  · exact hne '=' '=' (.inl rfl)
  · exact hne '!' '=' (.inl rfl)
  · exact hne '>' '=' (.inl rfl)
  · exact hne '<' '=' (.inl rfl)

theorem read?_two_singleton (c : Char) : Punct.read? Punct.two [c] = none := by
  refine List.find?_eq_none.mpr fun p hp => ?_
  rw [decide_eq_true_iff]
  simp only [Punct.two, List.mem_cons, List.not_mem_nil, or_false] at hp
  rcases hp with rfl | rfl | rfl | rfl | rfl | rfl <;> exact fun h => nomatch h

/-- A round does not look past a character that ends its token. -/
theorem takes_append {c d : Char} {cs rest : List Char} {token : Option (Token ν)}
    (h : Takes R c cs token rest) (hd : Parts d) (ds : List Char) :
    Takes R c (cs ++ d :: ds) token (rest ++ d :: ds) := by
  unfold Takes scanToken at h ⊢
  by_cases hblank : isBlank c = true
  · rw [if_pos hblank] at h ⊢
    cases h
    rfl
  rw [if_neg hblank] at h ⊢
  by_cases hquote : isQuote c = true
  · rw [if_pos hquote] at h ⊢
    cases hread : scanString c cs with
    | none =>
      rw [hread] at h
      cases h
    | some read =>
      obtain ⟨value, more⟩ := read
      rw [hread] at h
      cases h
      rw [scanString_append hread]
  rw [if_neg hquote] at h ⊢
  by_cases hdigit : c.isDigit = true
  · rw [if_pos hdigit] at h ⊢
    obtain ⟨htake, hdrop⟩ := takeWhile_append_of_head hd.2.1 (c :: cs) ds
    rw [List.cons_append] at htake hdrop
    rw [htake, hdrop]
    cases h
    rfl
  rw [if_neg hdigit] at h ⊢
  by_cases hident : isIdentStart c = true
  · rw [if_pos hident] at h ⊢
    obtain ⟨htake, hdrop⟩ := takeWhile_append_of_head hd.1 (c :: cs) ds
    rw [List.cons_append] at htake hdrop
    rw [htake, hdrop]
    cases h
    rfl
  rw [if_neg hident] at h ⊢
  cases cs with
  | nil =>
    have htwo : Punct.read? Punct.two ((c :: ([] ++ d :: ds)).take 2) = none :=
      read?_two_of_parts hd
    rw [htwo]
    have hone : Punct.read? Punct.two ([c].take 2) = none := read?_two_singleton c
    rw [hone] at h
    cases hread : Punct.read? Punct.one [c] with
    | none =>
      simp only [hread] at h
      cases h
    | some p =>
      simp only [hread] at h ⊢
      cases h
      rfl
  | cons x xs =>
    have htwo : (c :: (x :: xs ++ d :: ds)).take 2 = (c :: x :: xs).take 2 := rfl
    rw [htwo]
    cases hread : Punct.read? Punct.two ((c :: x :: xs).take 2) with
    | some p =>
      simp only [hread] at h ⊢
      cases h
      rfl
    | none =>
      simp only [hread] at h ⊢
      cases hsingle : Punct.read? Punct.one [c] with
      | none =>
        simp only [hsingle] at h
        cases h
      | some p =>
        simp only [hsingle] at h ⊢
        cases h
        rfl

/-- A text in front of a character that ends its last token is scanned as it is by itself. -/
theorem Scans.append_iff {cs : List Char} {ts : List (Token ν)} (h : Scans R cs ts) {d : Char}
    (hd : Parts d) (ds : List Char) {us : List (Token ν)} :
    Scans R (cs ++ d :: ds) us ↔ ∃ more, us = ts ++ more ∧ Scans R (d :: ds) more := by
  induction h generalizing us with
  | nil => exact ⟨fun h => ⟨us, rfl, h⟩, fun ⟨_, heq, h⟩ => heq ▸ h⟩
  | @round c cs rest token ts htakes _ ih =>
    have hround := takes_append htakes hd ds
    constructor
    · intro hscans
      cases hscans with
      | round htakes' hrest =>
        cases hround.symm.trans htakes'
        obtain ⟨more, rfl, hmore⟩ := ih.mp hrest
        exact ⟨more, (List.append_assoc ..).symm, hmore⟩
    · rintro ⟨more, rfl, hmore⟩
      rw [List.append_assoc]
      exact .round hround (ih.mpr ⟨more, rfl, hmore⟩)

end Scans

section Edges

open Text (isSpace trim)

theorem isIdentPart_iff (c : Char) : isIdentPart c = true ↔
    (65 ≤ c.toNat ∧ c.toNat ≤ 90) ∨ (97 ≤ c.toNat ∧ c.toNat ≤ 122) ∨
      (48 ≤ c.toNat ∧ c.toNat ≤ 57) ∨ c.toNat = 95 ∨ c.toNat = 36 := by
  have heq : ∀ d : Char, c = d ↔ c.toNat = d.toNat := fun d =>
    ⟨fun h => h ▸ rfl, fun h => Char.toNat_inj.mp h⟩
  delta isIdentPart Char.isAlphanum Char.isAlpha Char.isUpper Char.isLower Char.isDigit
  simp only [Bool.or_eq_true, Bool.and_eq_true, decide_eq_true_eq, heq, UInt32.le_iff_toNat_le,
    ge_iff_le]
  show ((((65 ≤ c.toNat ∧ c.toNat ≤ 90) ∨ 97 ≤ c.toNat ∧ c.toNat ≤ 122) ∨
    48 ≤ c.toNat ∧ c.toNat ≤ 57) ∨ c.toNat = 95) ∨ c.toNat = 36 ↔ _
  omega

theorem isDigit_iff (c : Char) : c.isDigit = true ↔ 48 ≤ c.toNat ∧ c.toNat ≤ 57 := by
  simp only [Char.isDigit, Bool.and_eq_true, decide_eq_true_eq, UInt32.le_iff_toNat_le, ge_iff_le]
  exact Iff.rfl

/-- White space is no part of a token: it is one of these characters or above them all. -/
theorem isSpace_cases {c : Char} (h : isSpace c = true) :
    c.toNat ≤ 0x20 ∨ 0xA0 ≤ c.toNat := by
  simp only [isSpace, Bool.or_eq_true, Bool.and_eq_true, decide_eq_true_eq, List.mem_cons,
    List.not_mem_nil, or_false] at h
  omega

theorem parts_of_isSpace {c : Char} (h : isSpace c = true) : Parts c := by
  have hrange := isSpace_cases h
  have hne : ∀ d : Char, 0x20 < d.toNat → d.toNat < 0xA0 → c ≠ d := by
    rintro d hlow hhigh rfl
    omega
  refine ⟨?_, ?_, hne _ (by decide) (by decide), hne _ (by decide) (by decide),
    hne _ (by decide) (by decide)⟩
  · rw [Bool.eq_false_iff, ne_eq, isIdentPart_iff]
    omega
  · have hdigit : c.isDigit = false := by
      rw [Bool.eq_false_iff, ne_eq, isDigit_iff]
      omega
    simp [isNumeric, hdigit, hne '.' (by decide) (by decide)]

theorem isSpace_of_isBlank {c : Char} (h : isBlank c = true) : isSpace c = true := by
  simp only [isBlank, isSpace, List.mem_cons, List.not_mem_nil, or_false, Bool.or_eq_true,
    decide_eq_true_eq] at h ⊢
  tauto

/-- White space the scanner does not know stops it. -/
theorem not_takes_of_exotic {c : Char} (h : isSpace c = true) (hblank : isBlank c = false)
    {cs rest : List Char} {token : Option (Token ν)} : ¬Takes R c cs token rest := by
  have hrange := isSpace_cases h
  have hne : ∀ d : Char, 0x20 < d.toNat → d.toNat < 0xA0 → c ≠ d := by
    rintro d hlow hhigh rfl
    omega
  obtain ⟨hident, hnumeric, -⟩ := parts_of_isSpace h
  have hquote : isQuote c = false := by
    simp [isQuote, hne singleQuote (by decide) (by decide),
      hne doubleQuote (by decide) (by decide)]
  have hdigit : c.isDigit = false := by
    simp only [isNumeric, Bool.or_eq_false_iff] at hnumeric
    exact hnumeric.1
  have hstart : isIdentStart c = false := by
    simp only [isIdentPart, isIdentStart, Char.isAlphanum, Bool.or_eq_false_iff] at hident ⊢
    tauto
  have hread : ∀ {candidates : List Punct} {chars : List Char},
      (∀ p ∈ candidates, ∃ d more, p.text.toList = d :: more ∧ 0x20 < d.toNat ∧ d.toNat < 0xA0) →
      Punct.read? candidates (c :: chars) = none := by
    intro candidates chars hcandidates
    refine List.find?_eq_none.mpr fun p hp => ?_
    rw [decide_eq_true_iff]
    obtain ⟨d, more, hd, hlow, hhigh⟩ := hcandidates p hp
    rw [hd]
    exact fun heq => hne d hlow hhigh (List.cons.inj heq).1.symm
  have htexts : ∀ p : Punct, ∃ d more, p.text.toList = d :: more ∧ 0x20 < d.toNat ∧
      d.toNat < 0xA0 := by
    intro p
    cases p <;> exact ⟨_, _, rfl, by decide, by decide⟩
  unfold Takes scanToken
  rw [if_neg (by simp [hblank]), if_neg (by simp [hquote]), if_neg (by simp [hdigit]),
    if_neg (by simp [hstart])]
  have htwo : Punct.read? Punct.two ((c :: cs).take 2) = none := hread fun p _ => htexts p
  have hone : Punct.read? Punct.one [c] = none := hread fun p _ => htexts p
  rw [htwo, hone]
  exact fun heq => nomatch heq

theorem scans_blanks {ws : List Char} (h : ∀ c ∈ ws, isBlank c = true) {cs : List Char}
    {ts : List (Token ν)} : Scans R (ws ++ cs) ts ↔ Scans R cs ts := by
  induction ws with
  | nil => exact Iff.rfl
  | cons c ws ih =>
    have hround : Takes R c (ws ++ cs) none (ws ++ cs) := takes_blank (h c List.mem_cons_self) _
    exact (scans_cons_none hround).trans (ih fun d hd => h d (List.mem_cons_of_mem _ hd))

theorem blank_of_scans {ws : List Char} (h : ∀ c ∈ ws, isSpace c = true) {cs : List Char}
    {ts : List (Token ν)} (hscans : Scans R (ws ++ cs) ts) : ∀ c ∈ ws, isBlank c = true := by
  induction ws with
  | nil => exact fun _ hc => nomatch hc
  | cons c ws ih =>
    have hc : isBlank c = true := by
      by_contra hblank
      cases hscans with
      | round htakes _ =>
        exact not_takes_of_exotic (h c List.mem_cons_self) (by simpa using hblank) htakes
    have hround : Takes R c (ws ++ cs) none (ws ++ cs) := takes_blank hc _
    have hrest := ih (fun d hd => h d (List.mem_cons_of_mem _ hd))
      ((scans_cons_none hround).mp hscans)
    intro d hd
    rcases List.mem_cons.mp hd with rfl | hd
    · exact hc
    · exact hrest d hd

/-- What `trim` removes from the front of a text, and from its end. -/
def leading (s : String) : List Char := s.toList.takeWhile isSpace

def trailing (s : String) : List Char :=
  ((s.toList.dropWhile isSpace).reverse.takeWhile isSpace).reverse

/-- The white space around the text is of the kind the scanner skips. -/
def PlainEdges (s : String) : Prop :=
  (∀ c ∈ leading s, isBlank c = true) ∧ ∀ c ∈ trailing s, isBlank c = true

instance (s : String) : Decidable (PlainEdges s) :=
  @instDecidableAnd _ _ (List.decidableBAll _ _) (List.decidableBAll _ _)

theorem trim_split (s : String) : s.toList = leading s ++ ((trim s).toList ++ trailing s) := by
  unfold leading trailing trim
  rw [String.toList_ofList, ← List.reverse_append, List.takeWhile_append_dropWhile,
    List.reverse_reverse, List.takeWhile_append_dropWhile]

theorem isSpace_of_mem_takeWhile {cs : List Char} {c : Char} (h : c ∈ cs.takeWhile isSpace) :
    isSpace c = true := List.mem_takeWhile_imp h

/-- A text in front of a character that ends its last token: scanned as its trimmed copy, if the
scanner knows the white space around it. -/
theorem scans_padded_iff {s : String} {ts : List (Token ν)} (h : Scans R (trim s).toList ts)
    {d : Char} (hd : Parts d) (ds : List Char) {us : List (Token ν)} :
    Scans R (s.toList ++ d :: ds) us ↔
      PlainEdges s ∧ ∃ more, us = ts ++ more ∧ Scans R (d :: ds) more := by
  have hlead : ∀ c ∈ leading s, isSpace c = true := fun c hc => isSpace_of_mem_takeWhile hc
  have htrail : ∀ c ∈ trailing s, isSpace c = true := fun c hc =>
    isSpace_of_mem_takeWhile (List.mem_reverse.mp hc)
  have hsplit : s.toList ++ d :: ds =
      leading s ++ ((trim s).toList ++ (trailing s ++ d :: ds)) := by
    conv_lhs => rw [trim_split s]
    simp only [List.append_assoc]
  have hcore : ∀ {us}, Scans R ((trim s).toList ++ (trailing s ++ d :: ds)) us ↔
      ∃ more, us = ts ++ more ∧ Scans R (trailing s ++ d :: ds) more := by
    intro us
    cases htrailing : trailing s with
    | nil => exact h.append_iff hd ds
    | cons c ws =>
      have hc : isSpace c = true := htrail c (htrailing ▸ List.mem_cons_self)
      exact h.append_iff (parts_of_isSpace hc) (ws ++ d :: ds)
  rw [hsplit]
  constructor
  · intro hscans
    have hleading := blank_of_scans hlead hscans
    obtain ⟨more, rfl, hmore⟩ := hcore.mp ((scans_blanks hleading).mp hscans)
    have htrailing := blank_of_scans htrail hmore
    exact ⟨⟨hleading, htrailing⟩, more, rfl, (scans_blanks htrailing).mp hmore⟩
  · rintro ⟨⟨hleading, htrailing⟩, more, rfl, hmore⟩
    exact (scans_blanks hleading).mpr (hcore.mpr ⟨more, rfl, (scans_blanks htrailing).mpr hmore⟩)

end Edges

end DddBoilerplate.Saga.Expression
