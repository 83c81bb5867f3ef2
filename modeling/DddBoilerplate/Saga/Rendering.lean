/- module: DddBoilerplate/Saga/Rendering
   generality: I
   digest: The texts of an expression, and that each of them evaluates to what the expression denotes. -/

import DddBoilerplate.Saga.Conjunction

set_option autoImplicit false
set_option relaxedAutoImplicit false
set_option linter.all false

namespace DddBoilerplate.Saga.Expression

open Text (trim isSpace)

variable {ν : Type} {R : Runtime ν} {scope : Scope ν}

section Written

def ComparisonOp.token : ComparisonOp → Token ν
  | .equal => .punct .equal
  | .notEqual => .punct .notEqual
  | .greater => .punct .greater
  | .less => .punct .less
  | .greaterOrEqual => .punct .greaterOrEqual
  | .lessOrEqual => .punct .lessOrEqual
  | .in_ => .ident "in"

/-- The level that takes the phrases of this one as they are. -/
def Level.looser : Level → Option Level
  | .primary => some .chained
  | .chained => some .unary
  | .unary => some .comparison
  | .comparison => some .and
  | .and => some .or
  | .or | .items => none

/-- The tokens of an expression. A looser one stands in a tighter place in parentheses only; `&&`
and `||` need none around operands of their own kind, on either side. -/
inductive Writes : Level → List (Expr ν) → List (Token ν) → Prop where
  | literal {token : Token ν} {value : Value ν} :
    token.literal? = some value → Writes .primary [.literal value] [token]
  | name {x : String} : x ∉ reservedWords → Writes .primary [.name x] [.ident x]
  | path {x name : String} {names : List String} : x ∉ reservedWords →
    Writes .chained [.path (.name x) (name :: names)] (.ident x :: dots (name :: names))
  | group {e : Expr ν} {ts : List (Token ν)} : Writes .or [e] ts →
    Writes .primary [e] (.punct .openParen :: (ts ++ [Token.punct .closeParen]))
  | empty : Writes .primary [.array []] [.punct .openBracket, .punct .closeBracket]
  | array {items : List (Expr ν)} {ts : List (Token ν)} : Writes .items items ts →
    Writes .primary [.array items] (.punct .openBracket :: (ts ++ [Token.punct .closeBracket]))
  | item {e : Expr ν} {ts : List (Token ν)} : Writes .or [e] ts → Writes .items [e] ts
  | items {e : Expr ν} {items : List (Expr ν)} {ts us : List (Token ν)} :
    Writes .or [e] ts → Writes .items items us →
    Writes .items (e :: items) (ts ++ .punct .comma :: us)
  | not {e : Expr ν} {ts : List (Token ν)} :
    Writes .unary [e] ts → Writes .unary [.not e] (.punct .bang :: ts)
  | compare {l r : Expr ν} {op : ComparisonOp} {ts us : List (Token ν)} :
    Writes .unary [l] ts → Writes .unary [r] us →
    Writes .comparison [.binary (.compare op) l r] (ts ++ op.token :: us)
  | conj {l r : Expr ν} {ts us : List (Token ν)} : Writes .and [l] ts → Writes .and [r] us →
    Writes .and [.binary .and l r] (ts ++ .punct .andAnd :: us)
  | disj {l r : Expr ν} {ts us : List (Token ν)} : Writes .or [l] ts → Writes .or [r] us →
    Writes .or [.binary .or l r] (ts ++ .punct .orOr :: us)
  | loosen {e : Expr ν} {level level' : Level} {ts : List (Token ν)} :
    level.looser = some level' → Writes level [e] ts → Writes level' [e] ts

theorem ComparisonOp.peek_token (op : ComparisonOp) (ts : List (Token ν)) :
    peekComparisonOperator (op.token :: ts) = some op := by
  cases op <;> rfl

theorem Derives.loosen {e : Expr ν} {level level' : Level} {ts rest : List (Token ν)}
    (hlevel : level.looser = some level') (h : Derives level [e] ts rest) :
    Derives level' [e] ts rest := by
  cases level with
  | primary =>
    cases hlevel
    exact .primary h
  | chained =>
    cases hlevel
    exact .unary h
  | unary =>
    cases hlevel
    exact .comparison h
  | comparison =>
    cases hlevel
    exact .operand h
  | and =>
    cases hlevel
    exact .alternative h
  | or => cases hlevel
  | items => cases hlevel

/-- What is written is derived, whatever follows it. -/
theorem Writes.derives {level : Level} {es : List (Expr ν)} {ts : List (Token ν)}
    (h : Writes level es ts) : ∀ rest, Derives level es (ts ++ rest) rest := by
  induction h with
  | literal hvalue => exact fun _ => .literal hvalue
  | name hname => exact fun _ => .name hname
  | path hname => exact fun _ => .path (.name hname)
  | group _ ih =>
    intro rest
    rw [List.cons_append, List.append_assoc]
    exact .group (ih _)
  | empty => exact fun _ => .empty
  | array _ ih =>
    intro rest
    rw [List.cons_append, List.append_assoc]
    exact .array (ih _)
  | item _ ih => exact fun rest => .item (ih rest)
  | items _ _ ih ih' =>
    intro rest
    rw [List.append_assoc]
    exact .items (ih _) (ih' rest)
  | not _ ih => exact fun rest => .not (ih rest)
  | @compare _ _ op _ _ _ _ ih ih' =>
    intro rest
    rw [List.append_assoc]
    exact .compare (ih _) (op.peek_token _) (ih' rest)
  | conj _ _ ih ih' =>
    intro rest
    rw [List.append_assoc]
    exact .conj (ih _) (ih' rest)
  | disj _ _ ih ih' =>
    intro rest
    rw [List.append_assoc]
    exact .disj (ih _) (ih' rest)
  | loosen hlevel _ ih => exact fun rest => (ih rest).loosen hlevel

end Written

section Spelled

/-- A string between quotes: any character may be escaped, the quote and the backslash must be. -/
inductive Quoted (q : Char) : List Char → List Char → Prop where
  | nil : Quoted q [] []
  | plain {c : Char} {value cs : List Char} : c ≠ q → c ≠ backslash → Quoted q value cs →
    Quoted q (c :: value) (c :: cs)
  | escaped {c : Char} {value cs : List Char} : Quoted q value cs →
    Quoted q (c :: value) (backslash :: c :: cs)

/-- The characters of a token. -/
inductive Lexeme (R : Runtime ν) : Token ν → List Char → Prop where
  | number {c : Char} {cs : List Char} : c.isDigit = true → (∀ d ∈ cs, isNumeric d = true) →
    Lexeme R (.number (R.number (String.ofList (c :: cs)))) (c :: cs)
  | ident {c : Char} {cs : List Char} : isIdentStart c = true →
    (∀ d ∈ cs, isIdentPart d = true) → Lexeme R (.ident (String.ofList (c :: cs))) (c :: cs)
  | string {q : Char} {value cs : List Char} : isQuote q = true → Quoted q value cs →
    Lexeme R (.string (String.ofList value)) (q :: (cs ++ [q]))
  | punct (p : Punct) : Lexeme R (.punct p) p.text.toList

/-- The token does not run on into the characters that follow it. -/
def Apart : Token ν → List Char → Prop
  | .number _, rest => ∀ c ∈ rest.head?, isNumeric c = false
  | .ident _, rest => ∀ c ∈ rest.head?, isIdentPart c = false
  | .string _, _ => True
  | .punct p, rest => p ∈ [.bang, .greater, .less] → rest.head? ≠ some '='

/-- The tokens one after the other, with any blanks between them that keep them apart. -/
inductive Spells (R : Runtime ν) : List (Token ν) → List Char → Prop where
  | one {token : Token ν} {cs : List Char} : Lexeme R token cs → Spells R [token] cs
  | cons {token : Token ν} {ts : List (Token ν)} {cs ws rest : List Char} :
    Lexeme R token cs → (∀ c ∈ ws, isBlank c = true) → Spells R ts rest →
    Apart token (ws ++ rest) → Spells R (token :: ts) (cs ++ (ws ++ rest))

/-- A text of the expression, with any white space around it. -/
def Renders (R : Runtime ν) (e : Expr ν) (text : String) : Prop :=
  ∃ ts cs before after, Writes .or [e] ts ∧ Spells R ts cs ∧
    text.toList = before ++ (cs ++ after) ∧ (∀ c ∈ before, isSpace c = true) ∧
    ∀ c ∈ after, isSpace c = true

theorem scanString_quoted {q : Char} (hq : q ≠ backslash) {value cs : List Char}
    (h : Quoted q value cs) (rest : List Char) :
    scanString q (cs ++ q :: rest) = some (value, rest) := by
  induction h with
  | nil => exact scanString_quote q rest
  | plain hc hslash _ ih =>
    rw [List.cons_append, scanString_plain hc hslash, ih]
    rfl
  | escaped _ ih =>
    rw [List.cons_append, List.cons_append, scanString_escaped hq.symm, ih]
    rfl

theorem isQuote_iff (c : Char) : isQuote c = true ↔ c.toNat = 0x27 ∨ c.toNat = 0x22 := by
  have heq : ∀ d : Char, c = d ↔ c.toNat = d.toNat := fun d =>
    ⟨fun h => h ▸ rfl, fun h => Char.toNat_inj.mp h⟩
  simp only [isQuote, Bool.or_eq_true, decide_eq_true_eq, heq]
  exact Iff.rfl

theorem isBlank_iff (c : Char) : isBlank c = true ↔
    c.toNat = 0x20 ∨ c.toNat = 0x09 ∨ c.toNat = 0x0A ∨ c.toNat = 0x0D := by
  simp [isBlank]

theorem isIdentStart_iff (c : Char) : isIdentStart c = true ↔
    (65 ≤ c.toNat ∧ c.toNat ≤ 90) ∨ (97 ≤ c.toNat ∧ c.toNat ≤ 122) ∨
      c.toNat = 95 ∨ c.toNat = 36 := by
  have heq : ∀ d : Char, c = d ↔ c.toNat = d.toNat := fun d =>
    ⟨fun h => h ▸ rfl, fun h => Char.toNat_inj.mp h⟩
  delta isIdentStart Char.isAlpha Char.isUpper Char.isLower
  simp only [Bool.or_eq_true, Bool.and_eq_true, decide_eq_true_eq, heq, UInt32.le_iff_toNat_le,
    ge_iff_le]
  show (((65 ≤ c.toNat ∧ c.toNat ≤ 90) ∨ 97 ≤ c.toNat ∧ c.toNat ≤ 122) ∨ c.toNat = 95) ∨
    c.toNat = 36 ↔ _
  omega

theorem takeWhile_all_append {p : Char → Bool} {cs rest : List Char}
    (hcs : ∀ c ∈ cs, p c = true) (hrest : ∀ c ∈ rest.head?, p c = false) :
    (cs ++ rest).takeWhile p = cs ∧ (cs ++ rest).dropWhile p = rest := by
  rw [List.takeWhile_append_of_pos hcs, List.dropWhile_append_of_pos hcs]
  cases rest with
  | nil => simp
  | cons c rest =>
    have hc : p c = false := hrest c rfl
    simp [hc]

theorem isIdentPart_of_isIdentStart {c : Char} (h : isIdentStart c = true) :
    isIdentPart c = true := by
  simp only [isIdentStart, isIdentPart, Char.isAlphanum, Bool.or_eq_true] at h ⊢
  tauto

theorem Lexeme.ne_nil {token : Token ν} {cs : List Char} (h : Lexeme R token cs) : cs ≠ [] := by
  cases h with
  | number _ _ => exact List.cons_ne_nil _ _
  | ident _ _ => exact List.cons_ne_nil _ _
  | string _ _ => exact List.cons_ne_nil _ _
  | punct p => cases p <;> decide

/-- Punctuation is taken as far as it goes. -/
theorem Punct.takes (p : Punct) {c : Char} {cs rest : List Char}
    (h : p.text.toList = c :: cs) (hapart : Apart (.punct p : Token ν) rest) :
    Takes R c (cs ++ rest) (some (.punct p)) rest := by
  have hdouble : ∀ {a b : Char}, isBlank a = false → isQuote a = false → a.isDigit = false →
      isIdentStart a = false → Punct.read? Punct.two [a, b] = some p →
      Takes R a ([b] ++ rest) (some (.punct p)) rest := by
    intro a b hblank hquote hdigit hident htwo
    unfold Takes scanToken
    rw [if_neg (by simp [hblank]), if_neg (by simp [hquote]), if_neg (by simp [hdigit]),
      if_neg (by simp [hident])]
    rw [show (a :: ([b] ++ rest)).take 2 = [a, b] from rfl, htwo]
    rfl
  have hbefore : ∀ {a : Char}, isBlank a = false → isQuote a = false → a.isDigit = false →
      isIdentStart a = false → a ≠ '&' → a ≠ '|' → rest.head? ≠ some '=' →
      Punct.read? Punct.one [a] = some p → Takes R a rest (some (.punct p)) rest := by
    intro a hblank hquote hdigit hident hand hor hnext hone
    have hnone : Punct.read? Punct.two ((a :: rest).take 2) = none := by
      refine List.find?_eq_none.mpr fun q hq => ?_
      rw [decide_eq_true_iff]
      intro htext
      have hsecond : ∀ {d e : Char}, [d, e] = (a :: rest).take 2 → d = a ∧ rest.head? = some e := by
        intro d e heq
        cases rest with
        | nil => cases heq
        | cons f rest =>
          cases heq
          exact ⟨rfl, rfl⟩
      simp only [Punct.two, List.mem_cons, List.not_mem_nil, or_false] at hq
      rcases hq with rfl | rfl | rfl | rfl | rfl | rfl
      · exact hand (hsecond htext).1.symm
      · exact hor (hsecond htext).1.symm
      · exact hnext (hsecond htext).2
      · exact hnext (hsecond htext).2
      · exact hnext (hsecond htext).2
      · exact hnext (hsecond htext).2
    unfold Takes scanToken
    rw [if_neg (by simp [hblank]), if_neg (by simp [hquote]), if_neg (by simp [hdigit]),
      if_neg (by simp [hident]), hnone, hone]
  have hsingle : ∀ {a : Char}, isBlank a = false → isQuote a = false → a.isDigit = false →
      isIdentStart a = false → a ∉ ['&', '|', '=', '!', '>', '<'] →
      Punct.read? Punct.one [a] = some p → Takes R a rest (some (.punct p)) rest :=
    fun hblank hquote hdigit hident hnot hone =>
      takes_punct hblank hquote hdigit hident (two_ne_cons hnot) hone rest
  cases p with
  | andAnd | orOr | equal | notEqual | greaterOrEqual | lessOrEqual =>
    cases h
    exact hdouble (by decide) (by decide) (by decide) (by decide) (by decide)
  | openParen | closeParen | openBracket | closeBracket | comma | dot =>
    cases h
    exact hsingle (by decide) (by decide) (by decide) (by decide) (by decide) (by decide)
  | bang | greater | less =>
    cases h
    exact hbefore (by decide) (by decide) (by decide) (by decide) (by decide) (by decide)
      (hapart (by decide)) (by decide)

/-- A token that stands apart from what follows is taken whole. -/
theorem Lexeme.takes {token : Token ν} {c : Char} {cs rest : List Char}
    (h : Lexeme R token (c :: cs)) (hapart : Apart token rest) :
    Takes R c (cs ++ rest) (some token) rest := by
  generalize htext : c :: cs = text at h
  cases h with
  | @number d ds hdigit hds =>
    cases htext
    have hnat := (isDigit_iff c).mp hdigit
    have hblank : isBlank c = false := by
      rw [Bool.eq_false_iff, ne_eq, isBlank_iff]
      omega
    have hquote : isQuote c = false := by
      rw [Bool.eq_false_iff, ne_eq, isQuote_iff]
      omega
    have hall : ∀ d ∈ c :: cs, isNumeric d = true := by
      intro d hd
      rcases List.mem_cons.mp hd with rfl | hd
      · simp [isNumeric, hdigit]
      · exact hds d hd
    obtain ⟨htake, hdrop⟩ := takeWhile_all_append hall hapart
    unfold Takes scanToken
    rw [if_neg (by simp [hblank]), if_neg (by simp [hquote]), if_pos hdigit, ← List.cons_append,
      htake, hdrop]
  | @ident d ds hstart hds =>
    cases htext
    have hall : ∀ d ∈ c :: cs, isIdentPart d = true := by
      intro d hd
      rcases List.mem_cons.mp hd with rfl | hd
      · exact isIdentPart_of_isIdentStart hstart
      · exact hds d hd
    have hnat := (isIdentPart_iff c).mp (hall c List.mem_cons_self)
    have hblank : isBlank c = false := by
      rw [Bool.eq_false_iff, ne_eq, isBlank_iff]
      omega
    have hquote : isQuote c = false := by
      rw [Bool.eq_false_iff, ne_eq, isQuote_iff]
      omega
    have hdigit : c.isDigit = false := by
      have hletter := (isIdentStart_iff c).mp hstart
      rw [Bool.eq_false_iff, ne_eq, isDigit_iff]
      omega
    obtain ⟨htake, hdrop⟩ := takeWhile_all_append hall hapart
    unfold Takes scanToken
    rw [if_neg (by simp [hblank]), if_neg (by simp [hquote]), if_neg (by simp [hdigit]),
      if_pos hstart, ← List.cons_append, htake, hdrop]
  | @string q value ds hquote hquoted =>
    cases htext
    have hnat := (isQuote_iff c).mp hquote
    have hblank : isBlank c = false := by
      rw [Bool.eq_false_iff, ne_eq, isBlank_iff]
      omega
    have hslash : c ≠ backslash := by
      rintro rfl
      exact absurd hquote (by decide)
    unfold Takes scanToken
    rw [if_neg (by simp [hblank]), if_pos hquote, List.append_assoc]
    rw [show ds ++ ([c] ++ rest) = ds ++ c :: rest from rfl, scanString_quoted hslash hquoted]
  | punct p => exact p.takes htext.symm hapart

/-- The scanner makes the tokens of what is spelled. -/
theorem Spells.scans {ts : List (Token ν)} {cs : List Char} (h : Spells R ts cs) :
    Scans R cs ts := by
  have hround : ∀ {token : Token ν} {cs rest : List Char} {ts : List (Token ν)},
      Lexeme R token cs → Apart token rest → Scans R rest ts →
      Scans R (cs ++ rest) (token :: ts) := by
    intro token cs rest ts hlexeme hapart hrest
    cases cs with
    | nil => exact absurd rfl hlexeme.ne_nil
    | cons c cs => exact .round (hlexeme.takes hapart) hrest
  induction h with
  | @one token cs hlexeme =>
    have hend : Apart token [] := by
      cases token with
      | number _ => exact fun _ h => nomatch h
      | ident _ => exact fun _ h => nomatch h
      | string _ => trivial
      | punct p => exact fun _ h => nomatch h
    have hscans := hround hlexeme hend .nil
    rwa [List.append_nil] at hscans
  | cons hlexeme hblank _ hapart ih => exact hround hlexeme hapart ((scans_blanks hblank).mpr ih)

/-- No white space at either end. -/
def Firm (cs : List Char) : Prop :=
  (∃ c rest, cs = c :: rest ∧ isSpace c = false) ∧ ∃ rest c, cs = rest ++ [c] ∧ isSpace c = false

theorem Lexeme.firm {token : Token ν} {cs : List Char} (h : Lexeme R token cs) : Firm cs := by
  have hends : ∀ {c : Char} {cs : List Char}, (∀ d ∈ c :: cs, isSpace d = false) →
      Firm (c :: cs) := by
    intro c cs hall
    refine ⟨⟨c, cs, rfl, hall c List.mem_cons_self⟩, (c :: cs).dropLast, (c :: cs).getLast (by simp),
      (List.dropLast_append_getLast (by simp)).symm, hall _ (List.getLast_mem _)⟩
  have hfirm : ∀ d : Char, isIdentPart d = true ∨ isNumeric d = true → isSpace d = false := by
    intro d hd
    by_contra hspace
    obtain ⟨hident, hnumeric, -⟩ := parts_of_isSpace (c := d) (by simpa using hspace)
    rcases hd with hd | hd
    · rw [hident] at hd
      cases hd
    · rw [hnumeric] at hd
      cases hd
  cases h with
  | @number c ds hdigit hds =>
    refine hends fun d hd => hfirm d (.inr ?_)
    rcases List.mem_cons.mp hd with rfl | hd
    · simp [isNumeric, hdigit]
    · exact hds d hd
  | @ident c ds hstart hds =>
    refine hends fun d hd => hfirm d (.inl ?_)
    rcases List.mem_cons.mp hd with rfl | hd
    · exact isIdentPart_of_isIdentStart hstart
    · exact hds d hd
  | @string q value ds hquote _ =>
    have hspace : isSpace q = false := by
      simp only [isQuote, Bool.or_eq_true, decide_eq_true_eq] at hquote
      rcases hquote with rfl | rfl <;> decide
    exact ⟨⟨q, _, rfl, hspace⟩, q :: ds, q, rfl, hspace⟩
  | punct p =>
    have hplain : p.text.toList.all (fun d => !isSpace d) = true := by cases p <;> decide
    have hall : ∀ d ∈ p.text.toList, isSpace d = false := by simpa using hplain
    cases p <;> exact hends hall

theorem Spells.firm {ts : List (Token ν)} {cs : List Char} (h : Spells R ts cs) : Firm cs := by
  induction h with
  | one hlexeme => exact hlexeme.firm
  | @cons _ _ _ ws _ hlexeme _ _ _ ih =>
    obtain ⟨⟨c, front, rfl, hc⟩, -⟩ := hlexeme.firm
    obtain ⟨-, back, d, rfl, hd⟩ := ih
    refine ⟨⟨c, _, rfl, hc⟩, c :: front ++ (ws ++ back), d, ?_, hd⟩
    simp only [List.append_assoc]

/-- Trimming removes the white space around what is spelled, and nothing of it. -/
theorem trim_of_firm {s : String} {before cs after : List Char}
    (hs : s.toList = before ++ (cs ++ after)) (hbefore : ∀ c ∈ before, isSpace c = true)
    (hafter : ∀ c ∈ after, isSpace c = true) (h : Firm cs) : (trim s).toList = cs := by
  obtain ⟨⟨c, front, hfront, hc⟩, back, d, hback, hd⟩ := h
  have hleft : s.toList.dropWhile isSpace = cs ++ after := by
    rw [hs, List.dropWhile_append_of_pos hbefore, hfront, List.cons_append,
      List.dropWhile_cons_of_neg (by simp [hc])]
  have hright : (cs ++ after).reverse.dropWhile isSpace = cs.reverse := by
    rw [List.reverse_append,
      List.dropWhile_append_of_pos fun c hc => hafter c (List.mem_reverse.mp hc), hback,
      List.reverse_append, List.reverse_singleton, List.singleton_append,
      List.dropWhile_cons_of_neg (by simp [hd])]
  rw [trim, hleft, hright, List.reverse_reverse, String.toList_ofList]

theorem Renders.readsAs {e : Expr ν} {text : String} (h : Renders R e text) :
    ReadsAs R text e := by
  obtain ⟨ts, cs, before, after, hwrites, hspells, htext, hbefore, hafter⟩ := h
  refine ⟨ts, ?_, ?_⟩
  · rw [trim_of_firm htext hbefore hafter hspells.firm]
    exact hspells.scans
  · have hderives := hwrites.derives []
    rwa [List.append_nil] at hderives

end Spelled

section Value

/-- The value of every proper prefix of a path is there, and not null. -/
def Rooted (R : Runtime ν) (scope : Scope ν) (e : Expr ν) : Prop :=
  ∀ head names value, Part (.path head names) e → denote R scope head = some value →
    ∀ before x after, names = before ++ x :: after → isNullish (readPath R value before) = false

theorem Rooted.not_pathBreaks {e : Expr ν} (h : Rooted R scope e) : ¬PathBreaks R scope e := by
  rintro ⟨head, names, value, hpart, hhead, before, x, y, after, hnames, hnull⟩
  rw [h head names value hpart hhead before x (y :: after) hnames] at hnull
  cases hnull

/-- A text of an expression evaluates to what the expression denotes, where its paths lead
somewhere. -/
theorem evaluateExpression_renders (R : Runtime ν) (scope : Scope ν) (e : Expr ν) (text : String)
    (hrenders : Renders R e text) (hrooted : Rooted R scope e) (v : Value ν) :
    evaluateExpression R text scope = .ok v ↔ denote R scope e = some v := by
  have hreads : ReadsAs R text e := hrenders.readsAs
  have hblank : trim text ≠ "" := fun hblank => not_readsAs_blank hblank e hreads
  rw [evaluateExpression_eq_ok_iff hblank, ← eval_eq_denote e hrooted.not_pathBreaks]
  constructor
  · rintro ⟨e', hreads', heval⟩
    rw [eval_eq_of_readsAs hreads hreads']
    exact heval
  · intro heval
    exact ⟨e, hreads, heval⟩

/-- A path may not be headed by `undefined`, which the parser takes for a literal. -/
theorem undefined_is_reserved :
    Spells plainRuntime [.ident "undefined"] "undefined".toList ∧
      denote plainRuntime [("undefined", .bool true)] (.name "undefined") = some (.bool true) ∧
      evaluateExpression plainRuntime "undefined" [("undefined", .bool true)] ≠
        .ok (.bool true) := by
  refine ⟨.one ?_, rfl, ?_⟩
  · exact .ident (by decide) (List.all_eq_true.mp (by decide))
  · intro h
    have hcondition : evaluateCondition plainRuntime (some "undefined")
        [("undefined", .bool true)] = .ok false := by decide +kernel
    have hblank : trim "undefined" ≠ "" := by decide
    simp only [evaluateCondition, if_neg hblank, h] at hcondition
    cases hcondition

/-- `!a. b` where `a` has a property `b` that is true. -/
theorem rendered_path_evaluates :
    evaluateExpression plainRuntime "!a. b" [("a", .object 1 [("b", .bool true)])] =
      .ok (.bool false) := by
  have hwrites : @Writes (Option Nat) .or [.not (.path (.name "a") ["b"])]
      [.punct .bang, .ident "a", .punct .dot, .ident "b"] := by
    have hpath : @Writes (Option Nat) .chained [.path (.name "a") ["b"]]
        (.ident "a" :: dots ["b"]) := .path (by decide)
    exact @Writes.loosen _ _ .and _ _ rfl (@Writes.loosen _ _ .comparison _ _ rfl
      (@Writes.loosen _ _ .unary _ _ rfl (.not (@Writes.loosen _ _ .chained _ _ rfl hpath))))
  have hspells : Spells plainRuntime [.punct .bang, .ident "a", .punct .dot, .ident "b"]
      (Punct.bang.text.toList ++ ([] ++ (['a'] ++ ([] ++ (Punct.dot.text.toList ++
        ([' '] ++ ['b'])))))) := by
    have hident : ∀ c : Char, isIdentStart c = true →
        Lexeme plainRuntime (.ident (String.ofList [c])) [c] := fun c hc => .ident hc (by simp)
    have hblank : ∀ c ∈ [' '], isBlank c = true := List.all_eq_true.mp (by decide)
    refine .cons (.punct .bang) (by simp) (.cons (hident 'a' (by decide)) (by simp)
      (.cons (.punct .dot) hblank (.one (hident 'b' (by decide))) (by simp [Apart]))
      (?_ : Apart _ _)) (?_ : Apart _ _)
    · intro c hc
      cases hc
      decide
    · unfold Apart
      decide
  refine (evaluateExpression_renders plainRuntime [("a", .object 1 [("b", .bool true)])]
    (.not (.path (.name "a") ["b"])) "!a. b" ?_ ?_ (.bool false)).mpr rfl
  · exact ⟨_, _, [], [], hwrites, hspells, by decide, by simp, by simp⟩
  · intro head names value hpart hhead before x after hnames
    cases hpart with
    | operand hpart =>
      cases hpart with
      | self =>
        cases hhead
        cases before with
        | nil => rfl
        | cons y before =>
          have hlength := congrArg List.length hnames
          simp at hlength
      | head hpart => cases hpart

end Value

end DddBoilerplate.Saga.Expression
