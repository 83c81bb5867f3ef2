/- module: DddBoilerplate/Saga/Conjunction
   generality: I
   digest: The text `andConditions` builds, how it is scanned and read, and when it is a conjunction. -/

import DddBoilerplate.Saga.PlanBuilder
import DddBoilerplate.Saga.WellFormed

set_option autoImplicit false
set_option relaxedAutoImplicit false
set_option linter.all false

namespace DddBoilerplate.Saga.Expression

open PlanBuilder (andConditions notBlank)
open Text (trim isSpace)

variable {ν : Type} {R : Runtime ν} {scope : Scope ν}

section Texts

/-- Two conditions in parentheses. -/
def combined (c d : String) : String := "(" ++ c ++ ") && (" ++ d ++ ")"

theorem toList_combined (c d : String) : (combined c d).toList =
    '(' :: (c.toList ++ ')' :: ' ' :: '&' :: '&' :: ' ' :: '(' :: (d.toList ++ [')'])) := by
  simp [combined, String.toList_append]

theorem trim_eq_self {s : String} {c d : Char} {inner : List Char}
    (h : s.toList = c :: (inner ++ [d])) (hc : isSpace c = false) (hd : isSpace d = false) :
    trim s = s := by
  have hfront : s.toList.dropWhile isSpace = s.toList := by
    rw [h, List.dropWhile_cons_of_neg (by simp [hc])]
  have hback : s.toList.reverse.dropWhile isSpace = s.toList.reverse := by
    rw [h, List.reverse_cons, List.reverse_append, List.reverse_singleton, List.cons_append,
      List.cons_append, List.dropWhile_cons_of_neg (by simp [hd])]
  rw [trim, hfront, hback, List.reverse_reverse, String.ofList_toList]

theorem trim_combined (c d : String) : trim (combined c d) = combined c d := by
  refine @trim_eq_self _ '(' ')' (c.toList ++ ')' :: ' ' :: '&' :: '&' :: ' ' :: '(' :: d.toList)
    ?_ (by decide) (by decide)
  rw [toList_combined]
  simp

theorem combined_not_blank (c d : String) : trim (combined c d) ≠ "" := by
  rw [trim_combined]
  intro h
  have hlist := congrArg String.toList h
  rw [toList_combined] at hlist
  cases hlist

/-- Punctuation of one character that begins none of two. -/
theorem takes_punct {c : Char} {p : Punct} (hblank : isBlank c = false) (hquote : isQuote c = false)
    (hdigit : c.isDigit = false) (hident : isIdentStart c = false)
    (htwo : ∀ q ∈ Punct.two, ∀ more, q.text.toList ≠ c :: more)
    (hone : Punct.read? Punct.one [c] = some p) (cs : List Char) :
    Takes R c cs (some (.punct p)) cs := by
  have hnone : Punct.read? Punct.two ((c :: cs).take 2) = none := by
    refine List.find?_eq_none.mpr fun q hq => ?_
    rw [decide_eq_true_iff]
    exact htwo q hq _
  unfold Takes scanToken
  rw [if_neg (by simp [hblank]), if_neg (by simp [hquote]), if_neg (by simp [hdigit]),
    if_neg (by simp [hident]), hnone, hone]

theorem two_ne_cons {c : Char} (h : c ∉ ['&', '|', '=', '!', '>', '<']) :
    ∀ q ∈ Punct.two, ∀ more, q.text.toList ≠ c :: more := by
  intro q hq more heq
  have hhead : ∀ {d e : Char}, [d, e] = c :: more →
      d ∈ ['&', '|', '=', '!', '>', '<'] → False := by
    intro d e heq hd
    rw [(List.cons.inj heq).1] at hd
    exact h hd
  simp only [Punct.two, List.mem_cons, List.not_mem_nil, or_false] at hq
  rcases hq with rfl | rfl | rfl | rfl | rfl | rfl <;> exact hhead heq (by decide)

theorem takes_openParen (cs : List Char) : Takes R '(' cs (some (.punct .openParen)) cs :=
  takes_punct (by decide) (by decide) (by decide) (by decide) (two_ne_cons (by decide))
    (by decide) cs

theorem takes_closeParen (cs : List Char) : Takes R ')' cs (some (.punct .closeParen)) cs :=
  takes_punct (by decide) (by decide) (by decide) (by decide) (two_ne_cons (by decide))
    (by decide) cs

theorem takes_andAnd (cs : List Char) : Takes R '&' ('&' :: cs) (some (.punct .andAnd)) cs := by
  have htwo : Punct.read? Punct.two (('&' :: '&' :: cs).take 2) = some .andAnd := by
    show Punct.read? Punct.two ['&', '&'] = _
    decide
  unfold Takes scanToken
  rw [if_neg (by decide), if_neg (by decide), if_neg (by decide), if_neg (by decide), htwo]
  rfl

theorem scans_joint (cs : List Char) (ts : List (Token ν)) :
    Scans R (')' :: ' ' :: '&' :: '&' :: ' ' :: '(' :: cs) ts ↔
      ∃ more, ts = .punct .closeParen :: .punct .andAnd :: .punct .openParen :: more ∧
        Scans R cs more := by
  rw [scans_cons_some (takes_closeParen _)]
  have hafter : ∀ us : List (Token ν), Scans R (' ' :: '&' :: '&' :: ' ' :: '(' :: cs) us ↔
      ∃ more, us = .punct .andAnd :: .punct .openParen :: more ∧ Scans R cs more := by
    intro us
    rw [scans_cons_none (takes_blank (by decide) _), scans_cons_some (takes_andAnd _)]
    constructor
    · rintro ⟨more, rfl, h⟩
      rw [scans_cons_none (takes_blank (by decide) _), scans_cons_some (takes_openParen _)] at h
      obtain ⟨more, rfl, h⟩ := h
      exact ⟨more, rfl, h⟩
    · rintro ⟨more, rfl, h⟩
      refine ⟨_, rfl, ?_⟩
      rw [scans_cons_none (takes_blank (by decide) _), scans_cons_some (takes_openParen _)]
      exact ⟨more, rfl, h⟩
  constructor
  · rintro ⟨us, rfl, hus⟩
    obtain ⟨more, rfl, hmore⟩ := (hafter us).mp hus
    exact ⟨more, rfl, hmore⟩
  · rintro ⟨more, rfl, h⟩
    exact ⟨_, rfl, (hafter _).mpr ⟨more, rfl, h⟩⟩

/-- The tokens of a combination whose first part scans by itself. -/
theorem scans_combined_iff {c d : String} {ts : List (Token ν)} (h : Scans R (trim c).toList ts)
    (us : List (Token ν)) :
    Scans R (combined c d).toList us ↔ PlainEdges c ∧ ∃ more,
      us = .punct .openParen :: (ts ++ .punct .closeParen :: .punct .andAnd ::
        .punct .openParen :: more) ∧ Scans R (d.toList ++ [')']) more := by
  rw [toList_combined, scans_cons_some (takes_openParen _)]
  constructor
  · rintro ⟨more, rfl, hmore⟩
    obtain ⟨hedges, last, rfl, hlast⟩ := (scans_padded_iff h (by decide) _).mp hmore
    obtain ⟨inner, rfl, hinner⟩ := (scans_joint _ _).mp hlast
    exact ⟨hedges, inner, rfl, hinner⟩
  · rintro ⟨hedges, more, rfl, hmore⟩
    refine ⟨_, rfl, (scans_padded_iff h (by decide) _).mpr ⟨hedges, _, rfl, ?_⟩⟩
    exact (scans_joint _ _).mpr ⟨more, rfl, hmore⟩

theorem scans_closed_iff {d : String} {ts : List (Token ν)} (h : Scans R (trim d).toList ts)
    (us : List (Token ν)) :
    Scans R (d.toList ++ [')']) us ↔ PlainEdges d ∧ us = ts ++ [Token.punct .closeParen] := by
  rw [scans_padded_iff h (by decide) []]
  refine and_congr_right fun _ => ⟨?_, ?_⟩
  · rintro ⟨more, rfl, hmore⟩
    rw [scans_cons_some (takes_closeParen _)] at hmore
    obtain ⟨last, rfl, hlast⟩ := hmore
    cases hlast
    rfl
  · rintro rfl
    refine ⟨_, rfl, ?_⟩
    rw [scans_cons_some (takes_closeParen _)]
    exact ⟨[], rfl, .nil⟩

end Texts

section Readings

/-- Only the first token says whether an operator comes next. -/
theorem peek_cons (token : Token ν) (ts us : List (Token ν)) :
    peekComparisonOperator (token :: ts) = peekComparisonOperator (token :: us) := by
  cases token with
  | number _ => rfl
  | string _ => rfl
  | punct p => cases p <;> rfl
  | ident x =>
    by_cases hin : x = "in"
    · subst hin
      rfl
    · simp [peekComparisonOperator, hin]

/-- What follows a phrase does not matter to its derivation. -/
theorem Derives.append {level : Level} {es : List (Expr ν)} {ts rest : List (Token ν)}
    (h : Derives level es ts rest) (us : List (Token ν)) :
    Derives level es (ts ++ us) (rest ++ us) := by
  induction h with
  | literal hvalue => exact .literal hvalue
  | name hname => exact .name hname
  | group _ ih => exact .group ih
  | empty => exact .empty
  | array _ ih => exact .array ih
  | item _ ih => exact .item ih
  | items _ _ ih ih' => exact .items ih ih'
  | primary _ ih => exact .primary ih
  | path _ ih =>
    rw [List.append_assoc] at ih
    exact .path ih
  | unary _ ih => exact .unary ih
  | not _ ih => exact .not ih
  | comparison _ ih => exact .comparison ih
  | @compare l r op ts mid rest _ hop _ ihl ihr =>
    have hpeek : peekComparisonOperator (mid ++ us) = some op ∧
        (mid ++ us).tail = mid.tail ++ us := by
      cases mid with
      | nil => cases hop
      | cons token mid => exact ⟨(peek_cons token _ _).trans hop, rfl⟩
    exact .compare ihl hpeek.1 (hpeek.2 ▸ ihr)
  | operand _ ih => exact .operand ih
  | conj _ _ ih ih' => exact .conj ih ih'
  | alternative _ ih => exact .alternative ih
  | disj _ _ ih ih' => exact .disj ih ih'

/-- A whole expression in parentheses is an operand. -/
theorem Derives.parenthesised {e : Expr ν} {ts : List (Token ν)} (h : Derives .or [e] ts [])
    (us : List (Token ν)) :
    Derives .and [e] (.punct .openParen :: (ts ++ .punct .closeParen :: us)) us :=
  .operand (.comparison (.unary (.primary (.group (h.append (.punct .closeParen :: us))))))

end Readings

section Conditions

theorem evaluateCondition_of_blank {source : String} (h : trim source = "") :
    evaluateCondition R (some source) scope = .ok true := by
  simp only [evaluateCondition, if_pos h]

theorem evaluateCondition_eq_ok_iff {source : String} (h : trim source ≠ "") (b : Bool) :
    evaluateCondition R (some source) scope = .ok b ↔
      ∃ e v, ReadsAs R source e ∧ eval R scope e = some v ∧ truthy R v = b := by
  have hthis : evaluateCondition R (some source) scope =
      (truthy R) <$> evaluateExpression R source scope := by
    simp only [evaluateCondition, if_neg h]
  rw [hthis]
  constructor
  · intro hrun
    cases hvalue : evaluateExpression R source scope with
    | error e =>
      rw [hvalue] at hrun
      cases hrun
    | ok v =>
      rw [hvalue] at hrun
      obtain ⟨e, hreads, heval⟩ := (evaluateExpression_eq_ok_iff h v).mp hvalue
      exact ⟨e, v, hreads, heval, Except.ok.inj hrun⟩
  · rintro ⟨e, v, hreads, heval, rfl⟩
    rw [(evaluateExpression_eq_ok_iff h v).mpr ⟨e, hreads, heval⟩]
    rfl

theorem notBlank_iff (s : String) : notBlank s = true ↔ trim s ≠ "" := by
  simp [notBlank]

theorem filter_blank {c : String} (h : trim c = "") : (some c).filter notBlank = none := by
  simp [Option.filter, notBlank, h]

theorem filter_present {c : String} (h : trim c ≠ "") : (some c).filter notBlank = some c := by
  simp [Option.filter, notBlank, h]

/-- Both conditions are there, and not blank. -/
def Present (l r : Option String) (c d : String) : Prop :=
  l = some c ∧ r = some d ∧ trim c ≠ "" ∧ trim d ≠ ""

theorem andConditions_present {l r : Option String} {c d : String} (h : Present l r c d) :
    andConditions l r = some (combined c d) := by
  obtain ⟨rfl, rfl, hc, hd⟩ := h
  simp only [andConditions, filter_present hc, filter_present hd]
  rfl

/-- An absent or blank condition is as if it were true, and the other one is kept as it is. -/
theorem andConditions_neutral {l r : Option String} (h : ∀ c d, ¬Present l r c d) :
    (andConditions l r = none ∧ evaluateCondition R l scope = .ok true ∧
      evaluateCondition R r scope = .ok true) ∨
    (andConditions l r = l ∧ evaluateCondition R r scope = .ok true) ∨
    (andConditions l r = r ∧ evaluateCondition R l scope = .ok true) := by
  have hcases : ∀ o : Option String, (o.filter notBlank = none ∧
      evaluateCondition R o scope = .ok true) ∨ ∃ c, o = some c ∧ trim c ≠ "" := by
    intro o
    cases o with
    | none => exact .inl ⟨rfl, rfl⟩
    | some c =>
      by_cases hc : trim c = ""
      · exact .inl ⟨filter_blank hc, evaluateCondition_of_blank hc⟩
      · exact .inr ⟨c, rfl, hc⟩
  rcases hcases l with ⟨hl, hltrue⟩ | ⟨c, rfl, hc⟩
  · rcases hcases r with ⟨hr, hrtrue⟩ | ⟨d, rfl, hd⟩
    · exact .inl ⟨by simp only [andConditions, hl, hr], hltrue, hrtrue⟩
    · exact .inr (.inr ⟨by simp only [andConditions, hl, filter_present hd], hltrue⟩)
  · rcases hcases r with ⟨hr, hrtrue⟩ | ⟨d, rfl, hd⟩
    · exact .inr (.inl ⟨by simp only [andConditions, hr, filter_present hc], hrtrue⟩)
    · exact absurd ⟨rfl, rfl, hc, hd⟩ (h c d)

/-- Two conditions that evaluate are combined into their conjunction exactly when the scanner
knows the white space around each of them, if both are there. -/
theorem andConditions_conj_iff (R : Runtime ν) (scope : Scope ν) (l r : Option String)
    (bl br : Bool) (hl : evaluateCondition R l scope = .ok bl)
    (hr : evaluateCondition R r scope = .ok br) :
    evaluateCondition R (andConditions l r) scope = .ok (bl && br) ↔
      ∀ c d, Present l r c d → PlainEdges c ∧ PlainEdges d := by
  by_cases hpresent : ∃ c d, Present l r c d
  · obtain ⟨c, d, hboth⟩ := hpresent
    have hgoal : (∀ c d, Present l r c d → PlainEdges c ∧ PlainEdges d) ↔
        PlainEdges c ∧ PlainEdges d := by
      refine ⟨fun h => h c d hboth, fun h c' d' h' => ?_⟩
      cases h'.1.symm.trans hboth.1
      cases h'.2.1.symm.trans hboth.2.1
      exact h
    rw [hgoal, andConditions_present hboth]
    obtain ⟨rfl, rfl, hc, hd⟩ := hboth
    obtain ⟨el, vl, ⟨tl, hscansl, hderivesl⟩, hevall, rfl⟩ :=
      (evaluateCondition_eq_ok_iff hc bl).mp hl
    obtain ⟨er, vr, ⟨tr, hscansr, hderivesr⟩, hevalr, rfl⟩ :=
      (evaluateCondition_eq_ok_iff hd br).mp hr
    rw [evaluateCondition_eq_ok_iff (combined_not_blank c d)]
    constructor
    · rintro ⟨e, v, ⟨ts, hscans, -⟩, -, -⟩
      rw [trim_combined] at hscans
      obtain ⟨hplain, more, rfl, hmore⟩ := (scans_combined_iff hscansl ts).mp hscans
      exact ⟨hplain, ((scans_closed_iff hscansr more).mp hmore).1⟩
    · rintro ⟨hplainl, hplainr⟩
      have hscans := (scans_combined_iff hscansl _).mpr ⟨hplainl, _, rfl,
        (scans_closed_iff hscansr _).mpr ⟨hplainr, rfl⟩⟩
      refine ⟨.binary .and el er, .bool (truthy R vl && truthy R vr),
        ⟨_, (trim_combined c d).symm ▸ hscans, ?_⟩, ?_, truthy_bool _⟩
      · exact .alternative (.conj (hderivesl.parenthesised _) (hderivesr.parenthesised []))
      · rw [eval_binary, hevall, hevalr]
        rfl
  · have hnone : ∀ c d, ¬Present l r c d := fun c d h => hpresent ⟨c, d, h⟩
    refine iff_of_true ?_ fun c d h => absurd h (hnone c d)
    rcases @andConditions_neutral _ R scope l r hnone with
      ⟨heq, hltrue, hrtrue⟩ | ⟨heq, hrtrue⟩ | ⟨heq, hltrue⟩
    · cases hl.symm.trans hltrue
      cases hr.symm.trans hrtrue
      rw [heq]
      rfl
    · cases hr.symm.trans hrtrue
      rw [heq, Bool.and_true]
      exact hl
    · cases hl.symm.trans hltrue
      rw [heq, Bool.true_and]
      exact hr

/-- A no-break space ahead of a condition that evaluates by itself. -/
def padded : String := String.ofList [Char.ofNat 0xA0, 't', 'r', 'u', 'e']

/-- Both conditions are true, and their combination throws. -/
theorem combination_throws :
    evaluateCondition plainRuntime (some padded) [] = .ok true ∧
      evaluateCondition plainRuntime (some "true") [] = .ok true ∧
      ¬evaluateCondition plainRuntime (andConditions (some padded) (some "true")) [] =
        .ok (true && true) := by
  decide +kernel

/-- `'a' == "a"` and `!x`, combined in an empty scope. -/
theorem combination_holds :
    evaluateCondition plainRuntime (andConditions (some "'a' == \"a\"") (some "!x")) [] =
      .ok (true && true) :=
  (andConditions_conj_iff plainRuntime [] (some "'a' == \"a\"") (some "!x") true true
    (by decide +kernel) (by decide +kernel)).mpr (by
      rintro c d ⟨hc, hd, -, -⟩
      cases hc
      cases hd
      decide +kernel)

end Conditions

end DddBoilerplate.Saga.Expression
