/- module: DddBoilerplate/Saga/Descent
   generality: I
   digest: The fused recursive descent against the grammar: what it reads, where it stops, how it evaluates. -/

import DddBoilerplate.Saga.Grammar

set_option autoImplicit false
set_option relaxedAutoImplicit false
set_option linter.all false

namespace DddBoilerplate.Saga.Expression

variable {ν : Type} {R : Runtime ν} {scope : Scope ν} {source : String}

section Boundaries

/-- The tokens do not begin with this punctuation. -/
def Free (p : Punct) (ts : List (Token ν)) : Prop := ∀ rest, ts ≠ .punct p :: rest

/-- What an early return of a path leaves. -/
def StartsDot (ts : List (Token ν)) : Prop := ∃ rest, ts = .punct .dot :: rest

/-- Thrown, or returned in front of a dot that no routine takes. -/
def Stuck {α : Type} (reading : Except Failure (α × List (Token ν))) : Prop :=
  ∀ value rest, reading = .ok (value, rest) → StartsDot rest

theorem free_cons {p q : Punct} {ts : List (Token ν)} (h : q ≠ p) :
    Free p ((.punct q : Token ν) :: ts) := by
  intro rest heq
  cases heq
  exact h rfl

theorem free_nil {p : Punct} : Free p ([] : List (Token ν)) := fun _ h => nomatch h

theorem StartsDot.free {ts : List (Token ν)} (h : StartsDot ts) {p : Punct} (hp : .dot ≠ p) :
    Free p ts := by
  obtain ⟨rest, rfl⟩ := h
  exact free_cons hp

theorem StartsDot.peek {ts : List (Token ν)} (h : StartsDot ts) :
    peekComparisonOperator ts = none := by
  obtain ⟨rest, rfl⟩ := h
  rfl

theorem free_dot_of_peek {ts : List (Token ν)} {op : ComparisonOp}
    (h : peekComparisonOperator ts = some op) : Free .dot ts := by
  rintro rest rfl
  cases h

theorem stuck_error {α : Type} (e : Failure) :
    Stuck (.error e : Except Failure (α × List (Token ν))) := fun _ _ h => nomatch h

theorem stuck_ok {α : Type} {value : α} {rest : List (Token ν)} (h : StartsDot rest) :
    Stuck (.ok (value, rest) : Except Failure (α × List (Token ν))) := by
  intro value' rest' heq
  cases heq
  exact h

/-- A routine behind one that is stuck is stuck if it takes no dot. -/
theorem Stuck.bind {α β : Type} {reading : Except Failure (α × List (Token ν))}
    {f : α × List (Token ν) → Except Failure (β × List (Token ν))} (h : Stuck reading)
    (hf : ∀ value rest, StartsDot rest → Stuck (f (value, rest))) : Stuck (reading >>= f) := by
  cases reading with
  | error e => exact stuck_error e
  | ok read =>
    obtain ⟨value, rest⟩ := read
    exact hf value rest (h value rest rfl)

end Boundaries

section Routines

theorem orLoop_free {n : Nat} {value : Value ν} {ts : List (Token ν)} (h : Free .orOr ts) :
    orLoop R source scope (n + 1) value ts = .ok (value, ts) := by
  rcases ts with _ | ⟨token, ts⟩
  · rfl
  · cases token with
    | punct p => cases p <;> first | rfl | exact absurd rfl (h ts)
    | _ => rfl

theorem andLoop_free {n : Nat} {value : Value ν} {ts : List (Token ν)} (h : Free .andAnd ts) :
    andLoop R source scope (n + 1) value ts = .ok (value, ts) := by
  rcases ts with _ | ⟨token, ts⟩
  · rfl
  · cases token with
    | punct p => cases p <;> first | rfl | exact absurd rfl (h ts)
    | _ => rfl

theorem postfixLoop_free {value : Value ν} {ts : List (Token ν)} (h : Free .dot ts) :
    postfixLoop R source value ts = .ok (value, ts) := by
  rcases ts with _ | ⟨token, ts⟩
  · rfl
  · cases token with
    | punct p => cases p <;> first | rfl | exact absurd rfl (h ts)
    | _ => rfl

theorem parseUnary_free {n : Nat} {ts : List (Token ν)} (h : Free .bang ts) :
    parseUnary R source scope (n + 1) ts = parsePostfix R source scope n ts := by
  rcases ts with _ | ⟨token, ts⟩
  · rfl
  · cases token with
    | punct p => cases p <;> first | rfl | exact absurd rfl (h ts)
    | _ => rfl

theorem parsePrimary_bracket {n : Nat} {ts : List (Token ν)} (h : Free .closeBracket ts) :
    parsePrimary R source scope (n + 1) (.punct .openBracket :: ts) = (do
      let (items, ts) ← parseItems R source scope n ts
      match ts with
      | .punct .closeBracket :: ts => .ok (.array none items, ts)
      | _ => fail source "expected \"]\"") := by
  rcases ts with _ | ⟨token, ts⟩
  · rfl
  · cases token with
    | punct p => cases p <;> first | rfl | exact absurd rfl (h ts)
    | _ => rfl

theorem stuck_orLoop {n : Nat} {value : Value ν} {ts : List (Token ν)} (h : StartsDot ts) :
    Stuck (orLoop R source scope n value ts) := by
  cases n with
  | zero => exact stuck_error _
  | succ n =>
    rw [orLoop_free (h.free (by decide))]
    exact stuck_ok h

theorem stuck_andLoop {n : Nat} {value : Value ν} {ts : List (Token ν)} (h : StartsDot ts) :
    Stuck (andLoop R source scope n value ts) := by
  cases n with
  | zero => exact stuck_error _
  | succ n =>
    rw [andLoop_free (h.free (by decide))]
    exact stuck_ok h

/-- The value a loop over `&&` holds behind its next operand; the first one it holds as it is. -/
def joinAnd (R : Runtime ν) (acc : Option Bool) (value : Value ν) : Value ν :=
  match acc with
  | none => value
  | some held => .bool (held && truthy R value)

def joinOr (R : Runtime ν) (acc : Option Bool) (value : Value ν) : Value ν :=
  match acc with
  | none => value
  | some held => .bool (held || truthy R value)

/-- The next operand of `&&` and the loop behind it. -/
def andFrom (R : Runtime ν) (source : String) (scope : Scope ν) (acc : Option Bool) (n : Nat)
    (ts : List (Token ν)) : Except Failure (Value ν × List (Token ν)) := do
  let (value, ts) ← parseComparison R source scope n ts
  andLoop R source scope n (joinAnd R acc value) ts

def orFrom (R : Runtime ν) (source : String) (scope : Scope ν) (acc : Option Bool) (n : Nat)
    (ts : List (Token ν)) : Except Failure (Value ν × List (Token ν)) := do
  let (value, ts) ← parseAnd R source scope n ts
  orLoop R source scope n (joinOr R acc value) ts

theorem parseAnd_succ (n : Nat) (ts : List (Token ν)) :
    parseAnd R source scope (n + 1) ts = andFrom R source scope none n ts := rfl

theorem parseOr_succ (n : Nat) (ts : List (Token ν)) :
    parseOr R source scope (n + 1) ts = orFrom R source scope none n ts := rfl

theorem andLoop_succ (n : Nat) (value : Value ν) (ts : List (Token ν)) :
    andLoop R source scope (n + 1) value (.punct .andAnd :: ts) =
      andFrom R source scope (some (truthy R value)) n ts := rfl

theorem orLoop_succ (n : Nat) (value : Value ν) (ts : List (Token ν)) :
    orLoop R source scope (n + 1) value (.punct .orOr :: ts) =
      orFrom R source scope (some (truthy R value)) n ts := rfl

theorem truthy_bool (b : Bool) : truthy R (.bool b) = b := by
  cases b <;> rfl

/-- `&&` may be grouped either way. -/
theorem joinAnd_assoc (acc : Option Bool) (v w : Value ν) :
    joinAnd R (some (truthy R (joinAnd R acc v))) w =
      joinAnd R acc (.bool (truthy R v && truthy R w)) := by
  cases acc with
  | none => rfl
  | some held => simp only [joinAnd, truthy_bool, Bool.and_assoc]

theorem joinOr_assoc (acc : Option Bool) (v w : Value ν) :
    joinOr R (some (truthy R (joinOr R acc v))) w =
      joinOr R acc (.bool (truthy R v || truthy R w)) := by
  cases acc with
  | none => rfl
  | some held => simp only [joinOr, truthy_bool, Bool.or_assoc]

theorem readIdent_of_literal (R : Runtime ν) (scope : Scope ν) {x : String} {value : Value ν}
    (h : (Token.ident x : Token ν).literal? = some value) : readIdent R scope x = value := by
  unfold Token.literal? at h
  split at h
  · rename_i heq
    cases heq
  · rename_i heq
    cases heq
  · rename_i heq
    cases heq
    cases h
    rfl
  · rename_i heq
    cases heq
    cases h
    rfl
  · rename_i heq
    cases heq
    cases h
    rfl
  · rename_i heq
    cases heq
    cases h
    rfl
  · cases h

theorem readIdent_of_name (R : Runtime ν) (scope : Scope ν) {x : String} (h : x ∉ reservedWords) :
    readIdent R scope x = readScope R scope x := by
  unfold readIdent
  split
  · exact absurd (by decide) h
  · exact absurd (by decide) h
  · exact absurd (by decide) h
  · exact absurd (by decide) h
  · rfl

end Routines

section Complete

/-- What a routine makes of a phrase: its value in front of the rest, or it gets stuck. -/
def Comes {α : Type} (value : Option α) (reading : Except Failure (α × List (Token ν)))
    (rest : List (Token ν)) : Prop :=
  match value with
  | some v => reading = .ok (v, rest)
  | none => Stuck reading

/-- The loop over the dots of a path follows it as `walk` does, or returns ahead of a dot. -/
theorem postfixLoop_dots (value : Value ν) (names : List String) {rest : List (Token ν)}
    (hrest : Free .dot rest) :
    Comes (walk R value names) (postfixLoop R source value (dots names ++ rest)) rest := by
  induction names generalizing value with
  | nil => exact postfixLoop_free hrest
  | cons name names ih =>
    have hloop : postfixLoop R source value (dots (name :: names) ++ rest) =
        if isNullish value then .ok (.undefined, dots names ++ rest)
        else postfixLoop R source (readProperty R value name) (dots names ++ rest) := rfl
    by_cases hnull : isNullish value = true
    · rw [hloop, if_pos hnull, walk, if_pos hnull]
      cases names with
      | nil => rfl
      | cons next names => exact stuck_ok ⟨_, rfl⟩
    · rw [hloop, if_neg hnull, walk, if_neg hnull]
      exact ih (readProperty R value name)

/-- No routine up to `&&` goes on behind the phrase. -/
structure Ends (rest : List (Token ν)) : Prop where
  dot : Free .dot rest
  comparison : peekComparisonOperator rest = none

/-- What the routine of a level makes of the phrases of that level, fuel given. The loops are
taken from any operand they already hold. -/
def Reads (R : Runtime ν) (source : String) (scope : Scope ν) :
    Level → List (Expr ν) → List (Token ν) → List (Token ν) → Prop
  | .primary, es, ts, rest => ∀ e, es = [e] → ∀ n, 8 * ts.length + 1 ≤ n →
    match eval R scope e with
    | some v => parsePrimary R source scope n ts = .ok (v, rest)
    | none => ∃ err, parsePrimary R source scope n ts = .error err
  | .chained, es, ts, rest => ∀ e, es = [e] → Free .dot rest → ∀ n, 8 * ts.length + 2 ≤ n →
    Comes (eval R scope e) (parsePostfix R source scope n ts) rest
  | .unary, es, ts, rest => ∀ e, es = [e] → Free .dot rest → ∀ n, 8 * ts.length + 3 ≤ n →
    Comes (eval R scope e) (parseUnary R source scope n ts) rest
  | .comparison, es, ts, rest => ∀ e, es = [e] → Ends rest → ∀ n, 8 * ts.length + 4 ≤ n →
    Comes (eval R scope e) (parseComparison R source scope n ts) rest
  | .and, es, ts, rest => ∀ e, es = [e] → Ends rest → ∀ acc n, 8 * ts.length + 4 ≤ n →
    match eval R scope e with
    | some v => ∃ m, 8 * rest.length + 1 ≤ m ∧
        andFrom R source scope acc n ts = andLoop R source scope m (joinAnd R acc v) rest
    | none => Stuck (andFrom R source scope acc n ts)
  | .or, es, ts, rest => ∀ e, es = [e] → Ends rest → Free .andAnd rest → ∀ acc n,
    8 * ts.length + 5 ≤ n →
    match eval R scope e with
    | some v => ∃ m, 8 * rest.length + 1 ≤ m ∧
        orFrom R source scope acc n ts = orLoop R source scope m (joinOr R acc v) rest
    | none => Stuck (orFrom R source scope acc n ts)
  | .items, es, ts, rest => Ends rest → Free .andAnd rest → Free .orOr rest → Free .comma rest →
    ∀ n, 8 * ts.length + 7 ≤ n →
    Comes (evalItems R scope es) (parseItems R source scope n ts) rest

theorem ends_of_punct {p : Punct} {ts : List (Token ν)} (hdot : p ≠ .dot)
    (hpeek : peekComparisonOperator ((.punct p : Token ν) :: ts) = none) :
    Ends ((.punct p : Token ν) :: ts) := ⟨free_cons hdot, hpeek⟩

theorem Reads.or_comes {e : Expr ν} {ts rest : List (Token ν)}
    (h : Reads R source scope .or [e] ts rest) (hends : Ends rest) (hand : Free .andAnd rest)
    (hor : Free .orOr rest) {n : Nat} (hn : 8 * ts.length + 6 ≤ n) :
    Comes (eval R scope e) (parseOr R source scope n ts) rest := by
  obtain ⟨k, rfl⟩ : ∃ k, n = k + 1 := ⟨n - 1, by omega⟩
  have hread := h e rfl hends hand none k (by omega)
  rw [parseOr_succ]
  cases hvalue : eval R scope e with
  | none =>
    rw [hvalue] at hread
    exact hread
  | some v =>
    rw [hvalue] at hread
    obtain ⟨m, hm, hrun⟩ := hread
    obtain ⟨m, rfl⟩ : ∃ k, m = k + 1 := ⟨m - 1, by omega⟩
    rw [hrun]
    exact orLoop_free hor

/-- A phrase begins with a token that is no bracket, comma or operator but `!`. -/
def Opens (token : Token ν) : Prop :=
  ∀ p, token = .punct p → p = .openParen ∨ p = .openBracket ∨ p = .bang

theorem literal_opens {token : Token ν} {value : Value ν} (h : token.literal? = some value)
    (p : Punct) : token ≠ .punct p := by
  rintro rfl
  cases h

theorem Derives.opens {level : Level} {es : List (Expr ν)} {ts rest : List (Token ν)}
    (h : Derives level es ts rest) : ∃ token more, ts = token :: more ∧ Opens token := by
  induction h with
  | literal hvalue => exact ⟨_, _, rfl, fun p hp => absurd hp (literal_opens hvalue p)⟩
  | name => exact ⟨_, _, rfl, fun _ hp => nomatch hp⟩
  | group => exact ⟨_, _, rfl, fun _ hp => by cases hp; exact .inl rfl⟩
  | empty => exact ⟨_, _, rfl, fun _ hp => by cases hp; exact .inr (.inl rfl)⟩
  | array => exact ⟨_, _, rfl, fun _ hp => by cases hp; exact .inr (.inl rfl)⟩
  | not => exact ⟨_, _, rfl, fun _ hp => by cases hp; exact .inr (.inr rfl)⟩
  | item _ ih => exact ih
  | items _ _ ih => exact ih
  | primary _ ih => exact ih
  | path _ ih => exact ih
  | unary _ ih => exact ih
  | comparison _ ih => exact ih
  | compare _ _ _ ih => exact ih
  | operand _ ih => exact ih
  | conj _ _ ih => exact ih
  | alternative _ ih => exact ih
  | disj _ _ ih => exact ih

theorem Derives.free_closeBracket {level : Level} {es : List (Expr ν)}
    {ts rest : List (Token ν)} (h : Derives level es ts rest) : Free .closeBracket ts := by
  obtain ⟨token, more, rfl, hopens⟩ := h.opens
  intro rest heq
  cases heq
  rcases hopens _ rfl with h | h | h <;> cases h

theorem Derives.free_bang {es : List (Expr ν)} {ts rest : List (Token ν)}
    (h : Derives .chained es ts rest) : Free .bang ts := by
  have hprimary : ∀ {es : List (Expr ν)} {ts rest : List (Token ν)},
      Derives .primary es ts rest → Free .bang ts := by
    intro es ts rest h
    cases h with
    | literal hvalue =>
      intro rest heq
      cases heq
      cases hvalue
    | name => exact fun _ h => nomatch h
    | group => exact free_cons (by decide)
    | empty => exact free_cons (by decide)
    | array => exact free_cons (by decide)
  cases h with
  | primary h => exact hprimary h
  | path h => exact hprimary h

theorem eval_binary (op : BinaryOp) (l r : Expr ν) :
    eval R scope (.binary op l r) = (eval R scope l).bind fun v =>
      (eval R scope r).bind fun w => applyBinary R op v w := rfl

theorem eval_not (e : Expr ν) :
    eval R scope (.not e) = (eval R scope e).bind fun v => some (.bool (!truthy R v)) := rfl

theorem eval_path (head : Expr ν) (names : List String) :
    eval R scope (.path head names) = (eval R scope head).bind fun v => walk R v names := rfl

theorem eval_array (items : List (Expr ν)) :
    eval R scope (.array items) = (evalItems R scope items).bind fun vs => some (.array none vs) :=
  rfl

theorem evalItems_cons (e : Expr ν) (items : List (Expr ν)) :
    evalItems R scope (e :: items) = (eval R scope e).bind fun v =>
      (evalItems R scope items).bind fun vs => some (v :: vs) := rfl

theorem Reads.literal {token : Token ν} {value : Value ν} {rest : List (Token ν)}
    (h : token.literal? = some value) :
    Reads R source scope .primary [.literal value] (token :: rest) rest := by
  rintro e he n hn
  cases he
  obtain ⟨k, rfl⟩ : ∃ k, n = k + 1 := ⟨n - 1, by omega⟩
  show parsePrimary R source scope (k + 1) (token :: rest) = .ok (value, rest)
  cases token with
  | number v =>
    cases h
    rfl
  | string s =>
    cases h
    rfl
  | ident x =>
    rw [← readIdent_of_literal R scope h]
    rfl
  | punct p => cases h

theorem Reads.name {x : String} {rest : List (Token ν)} (h : x ∉ reservedWords) :
    Reads R source scope .primary [.name x] (.ident x :: rest) rest := by
  rintro e he n hn
  cases he
  obtain ⟨k, rfl⟩ : ∃ k, n = k + 1 := ⟨n - 1, by omega⟩
  show _ = Except.ok (readScope R scope x, rest)
  rw [← readIdent_of_name R scope h]
  rfl

theorem Reads.group {e : Expr ν} {inner rest : List (Token ν)}
    (h : Reads R source scope .or [e] inner (.punct .closeParen :: rest)) :
    Reads R source scope .primary [e] (.punct .openParen :: inner) rest := by
  rintro e' he n hn
  cases he
  obtain ⟨k, rfl⟩ : ∃ k, n = k + 1 := ⟨n - 1, by omega⟩
  have hinner := h.or_comes (ends_of_punct (by decide) rfl) (free_cons (by decide))
    (free_cons (by decide)) (n := k) (by simp only [List.length_cons] at hn; omega)
  have hrun : parsePrimary R source scope (k + 1) (.punct .openParen :: inner) =
      (parseOr R source scope k inner >>= _) := rfl
  rw [hrun]
  cases hvalue : eval R scope e with
  | some v =>
    rw [hvalue] at hinner
    have hok : parseOr R source scope k inner = .ok (v, .punct .closeParen :: rest) := hinner
    rw [hok]
    rfl
  | none =>
    rw [hvalue] at hinner
    cases hread : parseOr R source scope k inner with
    | error err => exact ⟨err, rfl⟩
    | ok read =>
      obtain ⟨v, ts⟩ := read
      obtain ⟨more, rfl⟩ := hinner v ts hread
      exact ⟨_, rfl⟩

theorem Reads.empty {rest : List (Token ν)} :
    Reads R source scope .primary [.array []]
      (.punct .openBracket :: .punct .closeBracket :: rest) rest := by
  rintro e he n hn
  cases he
  obtain ⟨k, rfl⟩ : ∃ k, n = k + 1 := ⟨n - 1, by omega⟩
  rfl

theorem Reads.array {items : List (Expr ν)} {inner rest : List (Token ν)}
    (hfree : Free .closeBracket inner)
    (h : Reads R source scope .items items inner (.punct .closeBracket :: rest)) :
    Reads R source scope .primary [.array items] (.punct .openBracket :: inner) rest := by
  rintro e he n hn
  cases he
  obtain ⟨k, rfl⟩ : ∃ k, n = k + 1 := ⟨n - 1, by omega⟩
  have hinner := h (ends_of_punct (by decide) rfl) (free_cons (by decide))
    (free_cons (by decide)) (free_cons (by decide)) k
    (by simp only [List.length_cons] at hn; omega)
  rw [parsePrimary_bracket hfree, eval_array]
  cases hvalue : evalItems R scope items with
  | some vs =>
    rw [hvalue] at hinner
    have hok : parseItems R source scope k inner = .ok (vs, .punct .closeBracket :: rest) := hinner
    rw [hok]
    rfl
  | none =>
    rw [hvalue] at hinner
    cases hread : parseItems R source scope k inner with
    | error err => exact ⟨err, rfl⟩
    | ok read =>
      obtain ⟨vs, ts⟩ := read
      obtain ⟨more, rfl⟩ := hinner vs ts hread
      exact ⟨_, rfl⟩

theorem Reads.item {e : Expr ν} {ts rest : List (Token ν)}
    (h : Reads R source scope .or [e] ts rest) : Reads R source scope .items [e] ts rest := by
  intro hends hand hor hcomma n hn
  obtain ⟨k, rfl⟩ : ∃ k, n = k + 1 := ⟨n - 1, by omega⟩
  have hread := h.or_comes hends hand hor (n := k) (by omega)
  have hrun : parseItems R source scope (k + 1) ts =
      (parseOr R source scope k ts >>= _) := rfl
  rw [hrun, evalItems_cons]
  cases hvalue : eval R scope e with
  | some v =>
    rw [hvalue] at hread
    have hok : parseOr R source scope k ts = .ok (v, rest) := hread
    rw [hok]
    rcases rest with _ | ⟨token, rest⟩
    · rfl
    · cases token with
      | punct p => cases p <;> first | rfl | exact absurd rfl (hcomma rest)
      | _ => rfl
  | none =>
    rw [hvalue] at hread
    refine Stuck.bind hread fun value more hmore => ?_
    obtain ⟨more, rfl⟩ := hmore
    exact stuck_ok ⟨more, rfl⟩

theorem Reads.items {e : Expr ν} {items : List (Expr ν)} {ts mid rest : List (Token ν)}
    (hlength : mid.length + 1 < ts.length)
    (h : Reads R source scope .or [e] ts (.punct .comma :: mid))
    (h' : Reads R source scope .items items mid rest) :
    Reads R source scope .items (e :: items) ts rest := by
  intro hends hand hor hcomma n hn
  obtain ⟨k, rfl⟩ : ∃ k, n = k + 1 := ⟨n - 1, by omega⟩
  have hread := h.or_comes (ends_of_punct (by decide) rfl) (free_cons (by decide))
    (free_cons (by decide)) (n := k) (by omega)
  have hmore := h' hends hand hor hcomma k (by omega)
  have hrun : parseItems R source scope (k + 1) ts =
      (parseOr R source scope k ts >>= _) := rfl
  rw [hrun, evalItems_cons]
  cases hvalue : eval R scope e with
  | some v =>
    rw [hvalue] at hread
    have hok : parseOr R source scope k ts = .ok (v, .punct .comma :: mid) := hread
    rw [hok]
    cases hvalues : evalItems R scope items with
    | some vs =>
      rw [hvalues] at hmore
      have hok' : parseItems R source scope k mid = .ok (vs, rest) := hmore
      show (parseItems R source scope k mid >>= _) = _
      rw [hok']
      rfl
    | none =>
      rw [hvalues] at hmore
      show Stuck (parseItems R source scope k mid >>= _)
      exact Stuck.bind hmore fun _ _ hdot => stuck_ok hdot
  | none =>
    rw [hvalue] at hread
    refine Stuck.bind hread fun value more hmore => ?_
    obtain ⟨more, rfl⟩ := hmore
    exact stuck_ok ⟨more, rfl⟩

theorem Reads.chained {e : Expr ν} {ts rest : List (Token ν)}
    (h : Reads R source scope .primary [e] ts rest) :
    Reads R source scope .chained [e] ts rest := by
  rintro e' he hdot n hn
  cases he
  obtain ⟨k, rfl⟩ : ∃ k, n = k + 1 := ⟨n - 1, by omega⟩
  have hread := h e rfl k (by omega)
  show Comes _ (parsePrimary R source scope k ts >>= _) rest
  cases hvalue : eval R scope e with
  | some v =>
    rw [hvalue] at hread
    have hok : parsePrimary R source scope k ts = .ok (v, rest) := hread
    rw [hok]
    exact postfixLoop_free hdot
  | none =>
    rw [hvalue] at hread
    obtain ⟨err, herr⟩ := hread
    rw [herr]
    exact stuck_error err

theorem Reads.path {e : Expr ν} {names : List String} {ts rest : List (Token ν)}
    (h : Reads R source scope .primary [e] ts (dots names ++ rest)) :
    Reads R source scope .chained [.path e names] ts rest := by
  rintro e' he hdot n hn
  cases he
  obtain ⟨k, rfl⟩ : ∃ k, n = k + 1 := ⟨n - 1, by omega⟩
  have hread := h e rfl k (by omega)
  show Comes _ (parsePrimary R source scope k ts >>= _) rest
  rw [eval_path]
  cases hvalue : eval R scope e with
  | some v =>
    rw [hvalue] at hread
    have hok : parsePrimary R source scope k ts = .ok (v, dots names ++ rest) := hread
    rw [hok]
    exact postfixLoop_dots v names hdot
  | none =>
    rw [hvalue] at hread
    obtain ⟨err, herr⟩ := hread
    rw [herr]
    exact stuck_error err

theorem Reads.unary {e : Expr ν} {ts rest : List (Token ν)} (hbang : Free .bang ts)
    (h : Reads R source scope .chained [e] ts rest) :
    Reads R source scope .unary [e] ts rest := by
  rintro e' he hdot n hn
  cases he
  obtain ⟨k, rfl⟩ : ∃ k, n = k + 1 := ⟨n - 1, by omega⟩
  rw [parseUnary_free hbang]
  exact h e rfl hdot k (by omega)

theorem Reads.not {e : Expr ν} {ts rest : List (Token ν)}
    (h : Reads R source scope .unary [e] ts rest) :
    Reads R source scope .unary [.not e] (.punct .bang :: ts) rest := by
  rintro e' he hdot n hn
  cases he
  obtain ⟨k, rfl⟩ : ∃ k, n = k + 1 := ⟨n - 1, by omega⟩
  have hread := h e rfl hdot k (by simp only [List.length_cons] at hn; omega)
  show Comes _ (parseUnary R source scope k ts >>= _) rest
  rw [eval_not]
  cases hvalue : eval R scope e with
  | some v =>
    rw [hvalue] at hread
    have hok : parseUnary R source scope k ts = .ok (v, rest) := hread
    rw [hok]
    rfl
  | none =>
    rw [hvalue] at hread
    exact Stuck.bind hread fun _ _ hmore => stuck_ok hmore

theorem parseComparison_succ (n : Nat) (ts : List (Token ν)) :
    parseComparison R source scope (n + 1) ts = (do
      let (left, ts) ← parseUnary R source scope n ts
      match peekComparisonOperator ts with
      | none => .ok (left, ts)
      | some op =>
        let (right, ts) ← parseUnary R source scope n ts.tail
        match compare R op left right with
        | some value => .ok (value, ts)
        | none => .error (.thrown "Cannot convert object to primitive value")) := rfl

theorem Reads.comparison {e : Expr ν} {ts rest : List (Token ν)}
    (h : Reads R source scope .unary [e] ts rest) :
    Reads R source scope .comparison [e] ts rest := by
  rintro e' he hends n hn
  cases he
  obtain ⟨k, rfl⟩ : ∃ k, n = k + 1 := ⟨n - 1, by omega⟩
  have hread := h e rfl hends.dot k (by omega)
  rw [parseComparison_succ]
  cases hvalue : eval R scope e with
  | some v =>
    rw [hvalue] at hread
    have hok : parseUnary R source scope k ts = .ok (v, rest) := hread
    rw [hok]
    show (match peekComparisonOperator rest with | none => _ | some op => _) = _
    rw [hends.comparison]
  | none =>
    rw [hvalue] at hread
    refine Stuck.bind hread fun value more hmore => ?_
    show Stuck (match peekComparisonOperator more with | none => _ | some op => _)
    rw [hmore.peek]
    exact stuck_ok hmore

theorem Reads.compare {l r : Expr ν} {op : ComparisonOp} {ts mid rest : List (Token ν)}
    (hlength : mid.length < ts.length) (hop : peekComparisonOperator mid = some op)
    (hl : Reads R source scope .unary [l] ts mid)
    (hr : Reads R source scope .unary [r] mid.tail rest) :
    Reads R source scope .comparison [.binary (.compare op) l r] ts rest := by
  rintro e' he hends n hn
  cases he
  obtain ⟨k, rfl⟩ : ∃ k, n = k + 1 := ⟨n - 1, by omega⟩
  have hleft := hl l rfl (free_dot_of_peek hop) k (by omega)
  have hright := hr r rfl hends.dot k (by rw [List.length_tail]; omega)
  rw [parseComparison_succ, eval_binary]
  cases hv : eval R scope l with
  | none =>
    rw [hv] at hleft
    refine Stuck.bind hleft fun value more hmore => ?_
    show Stuck (match peekComparisonOperator more with | none => _ | some op => _)
    rw [hmore.peek]
    exact stuck_ok hmore
  | some v =>
    rw [hv] at hleft
    have hok : parseUnary R source scope k ts = .ok (v, mid) := hleft
    rw [hok]
    show Comes _ (match peekComparisonOperator mid with | none => _ | some op => _) rest
    rw [hop]
    show Comes _ (parseUnary R source scope k mid.tail >>= _) rest
    cases hw : eval R scope r with
    | none =>
      rw [hw] at hright
      refine Stuck.bind hright fun value more hmore => ?_
      show Stuck (match Expression.compare R op v value with | some value => _ | none => _)
      cases Expression.compare R op v value with
      | none => exact stuck_error _
      | some result => exact stuck_ok hmore
    | some w =>
      rw [hw] at hright
      have hok' : parseUnary R source scope k mid.tail = .ok (w, rest) := hright
      rw [hok']
      show Comes (Expression.compare R op v w)
        (match Expression.compare R op v w with | some value => _ | none => _) rest
      cases Expression.compare R op v w with
      | none => exact stuck_error _
      | some result => rfl

theorem Reads.operand {e : Expr ν} {ts rest : List (Token ν)} (hlength : rest.length < ts.length)
    (h : Reads R source scope .comparison [e] ts rest) :
    Reads R source scope .and [e] ts rest := by
  rintro e' he hends acc n hn
  cases he
  have hread := h e rfl hends n hn
  cases hvalue : eval R scope e with
  | none =>
    rw [hvalue] at hread
    exact Stuck.bind hread fun _ _ hmore => stuck_andLoop hmore
  | some v =>
    rw [hvalue] at hread
    have hok : parseComparison R source scope n ts = .ok (v, rest) := hread
    refine ⟨n, by omega, ?_⟩
    unfold andFrom
    rw [hok]
    rfl

theorem Reads.conj {l r : Expr ν} {ts mid rest : List (Token ν)}
    (hl : Reads R source scope .and [l] ts (.punct .andAnd :: mid))
    (hr : Reads R source scope .and [r] mid rest) :
    Reads R source scope .and [.binary .and l r] ts rest := by
  rintro e' he hends acc n hn
  cases he
  have hleft := hl l rfl (ends_of_punct (by decide) rfl) acc n hn
  rw [eval_binary]
  cases hv : eval R scope l with
  | none =>
    rw [hv] at hleft
    exact hleft
  | some v =>
    rw [hv] at hleft
    obtain ⟨m, hm, hrun⟩ := hleft
    rw [List.length_cons] at hm
    obtain ⟨m, rfl⟩ : ∃ k, m = k + 1 := ⟨m - 1, by omega⟩
    rw [andLoop_succ] at hrun
    have hright := hr r rfl hends (some (truthy R (joinAnd R acc v))) m (by omega)
    rw [hrun]
    cases hw : eval R scope r with
    | none =>
      rw [hw] at hright
      exact hright
    | some w =>
      rw [hw] at hright
      obtain ⟨m', hm', hrun'⟩ := hright
      rw [joinAnd_assoc] at hrun'
      exact ⟨m', hm', hrun'⟩

theorem Reads.alternative {e : Expr ν} {ts rest : List (Token ν)}
    (hlength : rest.length < ts.length) (h : Reads R source scope .and [e] ts rest) :
    Reads R source scope .or [e] ts rest := by
  rintro e' he hends hand acc n hn
  cases he
  obtain ⟨k, rfl⟩ : ∃ k, n = k + 1 := ⟨n - 1, by omega⟩
  have hread := h e rfl hends none k (by omega)
  rw [← parseAnd_succ] at hread
  cases hvalue : eval R scope e with
  | none =>
    rw [hvalue] at hread
    exact Stuck.bind hread fun _ _ hmore => stuck_orLoop hmore
  | some v =>
    rw [hvalue] at hread
    obtain ⟨m, hm, hrun⟩ := hread
    obtain ⟨m, rfl⟩ : ∃ k, m = k + 1 := ⟨m - 1, by omega⟩
    rw [andLoop_free hand] at hrun
    refine ⟨k + 1, by omega, ?_⟩
    unfold orFrom
    rw [hrun]
    rfl

theorem Reads.disj {l r : Expr ν} {ts mid rest : List (Token ν)}
    (hl : Reads R source scope .or [l] ts (.punct .orOr :: mid))
    (hr : Reads R source scope .or [r] mid rest) :
    Reads R source scope .or [.binary .or l r] ts rest := by
  rintro e' he hends hand acc n hn
  cases he
  have hleft := hl l rfl (ends_of_punct (by decide) rfl) (free_cons (by decide)) acc n hn
  rw [eval_binary]
  cases hv : eval R scope l with
  | none =>
    rw [hv] at hleft
    exact hleft
  | some v =>
    rw [hv] at hleft
    obtain ⟨m, hm, hrun⟩ := hleft
    rw [List.length_cons] at hm
    obtain ⟨m, rfl⟩ : ∃ k, m = k + 1 := ⟨m - 1, by omega⟩
    rw [orLoop_succ] at hrun
    have hright := hr r rfl hends hand (some (truthy R (joinOr R acc v))) m (by omega)
    rw [hrun]
    cases hw : eval R scope r with
    | none =>
      rw [hw] at hright
      exact hright
    | some w =>
      rw [hw] at hright
      obtain ⟨m', hm', hrun'⟩ := hright
      rw [joinOr_assoc] at hrun'
      exact ⟨m', hm', hrun'⟩

/-- Complete: what the grammar derives is read to its value, or gets the parser stuck. -/
theorem Derives.reads {level : Level} {es : List (Expr ν)} {ts rest : List (Token ν)}
    (h : Derives level es ts rest) : Reads R source scope level es ts rest := by
  induction h with
  | literal hvalue => exact .literal hvalue
  | name hname => exact .name hname
  | group _ ih => exact .group ih
  | empty => exact .empty
  | array hitems ih => exact .array hitems.free_closeBracket ih
  | item _ ih => exact .item ih
  | items hfirst _ ih ih' => exact .items hfirst.length_lt ih ih'
  | primary _ ih => exact .chained ih
  | path _ ih => exact .path ih
  | unary hpostfix ih => exact .unary hpostfix.free_bang ih
  | not _ ih => exact .not ih
  | comparison _ ih => exact .comparison ih
  | compare hl hop _ ihl ihr => exact .compare hl.length_lt hop ihl ihr
  | operand hread ih => exact .operand hread.length_lt ih
  | conj _ _ ihl ihr => exact .conj ihl ihr
  | alternative hread ih => exact .alternative hread.length_lt ih
  | disj _ _ ihl ihr => exact .disj ihl ihr

end Complete

section Sound

/-- A routine that returned read a phrase of its level, or left a dot no routine takes. -/
def Found (R : Runtime ν) (scope : Scope ν) (level : Level) (ts : List (Token ν)) (v : Value ν)
    (rest : List (Token ν)) : Prop :=
  StartsDot rest ∨ ∃ e, Derives level [e] ts rest ∧ eval R scope e = some v

theorem of_bind_ok {α β : Type} {r : Except Failure α} {f : α → Except Failure β} {b : β}
    (h : (r >>= f) = .ok b) : ∃ a, r = .ok a ∧ f a = .ok b := by
  cases r with
  | error e => cases h
  | ok a => exact ⟨a, rfl, h⟩

theorem postfixLoop_sound {v w : Value ν} {ts rest : List (Token ν)}
    (h : postfixLoop R source v ts = .ok (w, rest)) :
    StartsDot rest ∨ ∃ names, ts = dots names ++ rest ∧ walk R v names = some w := by
  fun_induction postfixLoop R source v ts with
  | case1 v name ts hnull =>
    cases h
    refine .inr ⟨[name], rfl, ?_⟩
    simp [walk, hnull]
  | case2 v name ts hsome ih =>
    refine (ih h).imp_right ?_
    rintro ⟨names, hts, hwalk⟩
    refine ⟨name :: names, ?_, ?_⟩
    · rw [hts]
      rfl
    · rw [walk, if_neg hsome]
      exact hwalk
  | case3 => cases h
  | case4 v ts =>
    cases h
    exact .inr ⟨[], rfl, rfl⟩

/-- What the routines read with this much fuel is derived by the grammar. -/
structure Sound (R : Runtime ν) (source : String) (scope : Scope ν) (n : Nat) : Prop where
  primary : ∀ {ts v rest}, parsePrimary R source scope n ts = .ok (v, rest) →
    ∃ e, Derives .primary [e] ts rest ∧ eval R scope e = some v
  chained : ∀ {ts v rest}, parsePostfix R source scope n ts = .ok (v, rest) →
    Found R scope .chained ts v rest
  unary : ∀ {ts v rest}, parseUnary R source scope n ts = .ok (v, rest) →
    Found R scope .unary ts v rest
  comparison : ∀ {ts v rest}, parseComparison R source scope n ts = .ok (v, rest) →
    Found R scope .comparison ts v rest
  andLoop : ∀ {held ts v rest}, andLoop R source scope n held ts = .ok (v, rest) →
    (v = held ∧ rest = ts) ∨ ∃ mid, ts = .punct .andAnd :: mid ∧ (StartsDot rest ∨
      ∃ e w, Derives .and [e] mid rest ∧ eval R scope e = some w ∧
        v = .bool (truthy R held && truthy R w))
  and : ∀ {ts v rest}, parseAnd R source scope n ts = .ok (v, rest) →
    Found R scope .and ts v rest
  orLoop : ∀ {held ts v rest}, orLoop R source scope n held ts = .ok (v, rest) →
    (v = held ∧ rest = ts) ∨ ∃ mid, ts = .punct .orOr :: mid ∧ (StartsDot rest ∨
      ∃ e w, Derives .or [e] mid rest ∧ eval R scope e = some w ∧
        v = .bool (truthy R held || truthy R w))
  or : ∀ {ts v rest}, parseOr R source scope n ts = .ok (v, rest) → Found R scope .or ts v rest
  items : ∀ {ts vs rest}, parseItems R source scope n ts = .ok (vs, rest) →
    StartsDot rest ∨ ∃ es, Derives .items es ts rest ∧ evalItems R scope es = some vs

namespace Sound

variable {n : Nat} {ts rest : List (Token ν)} {v held : Value ν}

theorem zero : Sound R source scope 0 where
  primary h := nomatch h
  chained h := nomatch h
  unary h := nomatch h
  comparison h := nomatch h
  andLoop h := nomatch h
  and h := nomatch h
  orLoop h := nomatch h
  or h := nomatch h
  items h := nomatch h

theorem chained_succ (hn : Sound R source scope n)
    (h : parsePostfix R source scope (n + 1) ts = .ok (v, rest)) :
    Found R scope .chained ts v rest := by
  obtain ⟨⟨base, mid⟩, hbase, hloop⟩ := of_bind_ok h
  obtain ⟨e, hderives, heval⟩ := hn.primary hbase
  rcases postfixLoop_sound hloop with hdot | ⟨names, rfl, hwalk⟩
  · exact .inl hdot
  · cases names with
    | nil =>
      cases hwalk
      exact .inr ⟨e, .primary hderives, heval⟩
    | cons name names =>
      refine .inr ⟨.path e (name :: names), .path hderives, ?_⟩
      rw [eval_path, heval]
      exact hwalk

theorem unary_succ (hn : Sound R source scope n)
    (h : parseUnary R source scope (n + 1) ts = .ok (v, rest)) :
    Found R scope .unary ts v rest := by
  by_cases hbang : Free .bang ts
  · rw [parseUnary_free hbang] at h
    exact (hn.chained h).imp_right fun ⟨e, hderives, heval⟩ => ⟨e, .unary hderives, heval⟩
  · obtain ⟨mid, rfl⟩ : ∃ mid, ts = .punct .bang :: mid := by
      by_contra hnone
      exact hbang fun rest heq => hnone ⟨rest, heq⟩
    obtain ⟨⟨operand, more⟩, hoperand, heq⟩ := of_bind_ok h
    cases heq
    refine (hn.unary hoperand).imp_right fun ⟨e, hderives, heval⟩ => ⟨.not e, .not hderives, ?_⟩
    rw [eval_not, heval]
    rfl

theorem comparison_succ (hn : Sound R source scope n)
    (h : parseComparison R source scope (n + 1) ts = .ok (v, rest)) :
    Found R scope .comparison ts v rest := by
  rw [parseComparison_succ] at h
  obtain ⟨⟨left, mid⟩, hleft, h⟩ := of_bind_ok h
  cases hop : peekComparisonOperator mid with
  | none =>
    simp only [hop] at h
    cases h
    exact (hn.unary hleft).imp_right fun ⟨e, hderives, heval⟩ => ⟨e, .comparison hderives, heval⟩
  | some op =>
    simp only [hop] at h
    obtain ⟨⟨right, more⟩, hright, h⟩ := of_bind_ok h
    cases hvalue : compare R op left right with
    | none =>
      simp only [hvalue] at h
      cases h
    | some value =>
      simp only [hvalue] at h
      cases h
      rcases hn.unary hleft with hdot | ⟨l, hl, hlv⟩
      · rw [hdot.peek] at hop
        cases hop
      · refine (hn.unary hright).imp_right fun ⟨r, hr, hrv⟩ => ⟨_, .compare hl hop hr, ?_⟩
        rw [eval_binary, hlv, hrv]
        exact hvalue

/-- The operand a loop over `&&` reads next, and what the loop makes of the operands behind it. -/
theorem andFrom_sound (hn : Sound R source scope n) {acc : Option Bool}
    (h : andFrom R source scope acc n ts = .ok (v, rest)) :
    StartsDot rest ∨ ∃ e w, Derives .and [e] ts rest ∧ eval R scope e = some w ∧
      v = joinAnd R acc w := by
  obtain ⟨⟨first, mid⟩, hfirst, hloop⟩ := of_bind_ok h
  rcases hn.andLoop hloop with ⟨rfl, rfl⟩ | ⟨more, rfl, hdot | ⟨e, w, hderives, heval, rfl⟩⟩
  · exact (hn.comparison hfirst).imp_right fun ⟨e, hderives, heval⟩ =>
      ⟨e, first, .operand hderives, heval, rfl⟩
  · exact .inl hdot
  · rcases hn.comparison hfirst with ⟨_, hdot⟩ | ⟨l, hl, hlv⟩
    · cases hdot
    · refine .inr ⟨_, _, .conj (.operand hl) hderives, ?_, (joinAnd_assoc acc first w)⟩
      rw [eval_binary, hlv, heval]
      rfl

theorem orFrom_sound (hn : Sound R source scope n) {acc : Option Bool}
    (h : orFrom R source scope acc n ts = .ok (v, rest)) :
    StartsDot rest ∨ ∃ e w, Derives .or [e] ts rest ∧ eval R scope e = some w ∧
      v = joinOr R acc w := by
  obtain ⟨⟨first, mid⟩, hfirst, hloop⟩ := of_bind_ok h
  rcases hn.orLoop hloop with ⟨rfl, rfl⟩ | ⟨more, rfl, hdot | ⟨e, w, hderives, heval, rfl⟩⟩
  · exact (hn.and hfirst).imp_right fun ⟨e, hderives, heval⟩ =>
      ⟨e, first, .alternative hderives, heval, rfl⟩
  · exact .inl hdot
  · rcases hn.and hfirst with ⟨_, hdot⟩ | ⟨l, hl, hlv⟩
    · cases hdot
    · refine .inr ⟨_, _, .disj (.alternative hl) hderives, ?_, (joinOr_assoc acc first w)⟩
      rw [eval_binary, hlv, heval]
      rfl

theorem andLoop_succ (hn : Sound R source scope n)
    (h : Expression.andLoop R source scope (n + 1) held ts = .ok (v, rest)) :
    (v = held ∧ rest = ts) ∨ ∃ mid, ts = .punct .andAnd :: mid ∧ (StartsDot rest ∨
      ∃ e w, Derives .and [e] mid rest ∧ eval R scope e = some w ∧
        v = .bool (truthy R held && truthy R w)) := by
  by_cases hand : Free .andAnd ts
  · rw [andLoop_free hand] at h
    cases h
    exact .inl ⟨rfl, rfl⟩
  · obtain ⟨mid, rfl⟩ : ∃ mid, ts = .punct .andAnd :: mid := by
      by_contra hnone
      exact hand fun rest heq => hnone ⟨rest, heq⟩
    rw [Expression.andLoop_succ] at h
    exact .inr ⟨mid, rfl, hn.andFrom_sound h⟩

theorem orLoop_succ (hn : Sound R source scope n)
    (h : Expression.orLoop R source scope (n + 1) held ts = .ok (v, rest)) :
    (v = held ∧ rest = ts) ∨ ∃ mid, ts = .punct .orOr :: mid ∧ (StartsDot rest ∨
      ∃ e w, Derives .or [e] mid rest ∧ eval R scope e = some w ∧
        v = .bool (truthy R held || truthy R w)) := by
  by_cases hor : Free .orOr ts
  · rw [orLoop_free hor] at h
    cases h
    exact .inl ⟨rfl, rfl⟩
  · obtain ⟨mid, rfl⟩ : ∃ mid, ts = .punct .orOr :: mid := by
      by_contra hnone
      exact hor fun rest heq => hnone ⟨rest, heq⟩
    rw [Expression.orLoop_succ] at h
    exact .inr ⟨mid, rfl, hn.orFrom_sound h⟩

theorem and_succ (hn : Sound R source scope n)
    (h : parseAnd R source scope (n + 1) ts = .ok (v, rest)) : Found R scope .and ts v rest := by
  rw [parseAnd_succ] at h
  refine (hn.andFrom_sound h).imp_right fun ⟨e, w, hderives, heval, heq⟩ => ⟨e, hderives, ?_⟩
  rw [heval, heq]
  rfl

theorem or_succ (hn : Sound R source scope n)
    (h : parseOr R source scope (n + 1) ts = .ok (v, rest)) : Found R scope .or ts v rest := by
  rw [parseOr_succ] at h
  refine (hn.orFrom_sound h).imp_right fun ⟨e, w, hderives, heval, heq⟩ => ⟨e, hderives, ?_⟩
  rw [heval, heq]
  rfl

theorem items_succ (hn : Sound R source scope n) {vs : List (Value ν)}
    (h : parseItems R source scope (n + 1) ts = .ok (vs, rest)) :
    StartsDot rest ∨ ∃ es, Derives .items es ts rest ∧ evalItems R scope es = some vs := by
  obtain ⟨⟨first, mid⟩, hfirst, h⟩ := of_bind_ok h
  have hsingle : ∀ {more}, (Except.ok ([first], more) : Except Failure _) = .ok (vs, rest) →
      more = mid → StartsDot rest ∨ ∃ es, Derives .items es ts rest ∧
        evalItems R scope es = some vs := by
    intro more heq hmore
    cases heq
    subst hmore
    refine (hn.or hfirst).imp_right fun ⟨e, hderives, heval⟩ => ⟨[e], .item hderives, ?_⟩
    rw [evalItems_cons, heval]
    rfl
  by_cases hcomma : Free .comma mid
  · rcases mid with _ | ⟨token, mid⟩
    · exact hsingle h rfl
    · cases token with
      | punct p => cases p <;> first | exact hsingle h rfl | exact absurd rfl (hcomma mid)
      | _ => exact hsingle h rfl
  · obtain ⟨more, rfl⟩ : ∃ more, mid = .punct .comma :: more := by
      by_contra hnone
      exact hcomma fun rest heq => hnone ⟨rest, heq⟩
    obtain ⟨⟨items, last⟩, hitems, heq⟩ := of_bind_ok h
    cases heq
    rcases hn.or hfirst with ⟨_, hdot⟩ | ⟨e, hderives, heval⟩
    · cases hdot
    · refine (hn.items hitems).imp_right fun ⟨es, hes, hvalues⟩ => ⟨e :: es, .items hderives hes, ?_⟩
      rw [evalItems_cons, heval, hvalues]
      rfl

theorem primary_succ (hn : Sound R source scope n)
    (h : parsePrimary R source scope (n + 1) ts = .ok (v, rest)) :
    ∃ e, Derives .primary [e] ts rest ∧ eval R scope e = some v := by
  rcases ts with _ | ⟨token, ts⟩
  · cases h
  cases token with
  | number value =>
    cases h
    exact ⟨.literal (.number value), .literal rfl, rfl⟩
  | string value =>
    cases h
    exact ⟨.literal (.string value), .literal rfl, rfl⟩
  | ident x =>
    cases h
    by_cases hname : x ∈ reservedWords
    · have hliteral : ∃ w : Value ν, (Token.ident x).literal? = some w := by
        simp only [reservedWords, List.mem_cons, List.not_mem_nil, or_false] at hname
        rcases hname with rfl | rfl | rfl | rfl
        · exact ⟨.bool true, rfl⟩
        · exact ⟨.bool false, rfl⟩
        · exact ⟨.null, rfl⟩
        · exact ⟨.undefined, rfl⟩
      obtain ⟨w, hw⟩ := hliteral
      refine ⟨.literal w, .literal hw, ?_⟩
      rw [readIdent_of_literal R scope hw]
      rfl
    · refine ⟨.name x, .name hname, ?_⟩
      rw [readIdent_of_name R scope hname]
      rfl
  | punct p =>
    have hgroup : p = .openParen → ∃ e, Derives .primary [e] (.punct p :: ts) rest ∧
        eval R scope e = some v := by
      rintro rfl
      obtain ⟨⟨value, mid⟩, hinner, h⟩ := of_bind_ok h
      have hclose : ∃ more, mid = .punct .closeParen :: more ∧ v = value ∧ rest = more := by
        rcases mid with _ | ⟨token, more⟩
        · cases h
        · cases token with
          | punct q => cases q <;> first | cases h; done | (cases h; exact ⟨_, rfl, rfl, rfl⟩)
          | _ => cases h
      obtain ⟨more, rfl, rfl, rfl⟩ := hclose
      rcases hn.or hinner with ⟨_, hdot⟩ | ⟨e, hderives, heval⟩
      · cases hdot
      · exact ⟨e, .group hderives, heval⟩
    have harray : p = .openBracket → ∃ e, Derives .primary [e] (.punct p :: ts) rest ∧
        eval R scope e = some v := by
      rintro rfl
      by_cases hfree : Free .closeBracket ts
      · rw [parsePrimary_bracket hfree] at h
        obtain ⟨⟨values, mid⟩, hinner, h⟩ := of_bind_ok h
        have hclose : ∃ more, mid = .punct .closeBracket :: more ∧ v = .array none values ∧
            rest = more := by
          rcases mid with _ | ⟨token, more⟩
          · cases h
          · cases token with
            | punct q => cases q <;> first | cases h; done | (cases h; exact ⟨_, rfl, rfl, rfl⟩)
            | _ => cases h
        obtain ⟨more, rfl, rfl, rfl⟩ := hclose
        rcases hn.items hinner with ⟨_, hdot⟩ | ⟨es, hderives, heval⟩
        · cases hdot
        · refine ⟨.array es, .array hderives, ?_⟩
          rw [eval_array, heval]
          rfl
      · obtain ⟨more, rfl⟩ : ∃ more, ts = .punct .closeBracket :: more := by
          by_contra hnone
          exact hfree fun rest heq => hnone ⟨rest, heq⟩
        cases h
        exact ⟨.array [], .empty, rfl⟩
    cases p with
    | openParen => exact hgroup rfl
    | openBracket => exact harray rfl
    | _ => cases h

theorem all (n : Nat) : Sound R source scope n := by
  induction n with
  | zero => exact zero
  | succ n hn =>
    exact {
      primary := hn.primary_succ
      chained := hn.chained_succ
      unary := hn.unary_succ
      comparison := hn.comparison_succ
      andLoop := hn.andLoop_succ
      and := hn.and_succ
      orLoop := hn.orLoop_succ
      or := hn.or_succ
      items := hn.items_succ }

end Sound

end Sound

section Fuel

/-- Not out of fuel, and fewer than so many tokens left. -/
def Within {α : Type} (bound : Nat) (reading : Except Failure (α × List (Token ν))) : Prop :=
  match reading with
  | .error e => e ≠ .outOfFuel
  | .ok read => read.2.length < bound

theorem Within.bind {α β : Type} {bound bound' : Nat}
    {reading : Except Failure (α × List (Token ν))}
    {f : α × List (Token ν) → Except Failure (β × List (Token ν))} (h : Within bound reading)
    (hf : ∀ value rest, rest.length < bound → Within bound' (f (value, rest))) :
    Within bound' (reading >>= f) := by
  cases reading with
  | error e => exact h
  | ok read => exact hf read.1 read.2 h

theorem Within.mono {α : Type} {bound bound' : Nat}
    {reading : Except Failure (α × List (Token ν))} (h : Within bound reading)
    (hle : bound ≤ bound') : Within bound' reading := by
  cases reading with
  | error e => exact h
  | ok read => exact Nat.lt_of_lt_of_le h hle

theorem within_fail {α : Type} {bound : Nat} {message : String} :
    Within bound (fail source message : Except Failure (α × List (Token ν))) :=
  fun h => nomatch h

theorem within_postfixLoop (v : Value ν) (ts : List (Token ν)) :
    Within (ts.length + 1) (postfixLoop R source v ts) := by
  fun_induction postfixLoop R source v ts with
  | case1 v name ts hnull =>
    show ts.length < _
    simp only [List.length_cons]
    omega
  | case2 v name ts hsome ih =>
    refine ih.mono ?_
    simp only [List.length_cons]
    omega
  | case3 => exact within_fail
  | case4 v ts => exact Nat.lt_succ_self _

/-- Eight rounds a token are fuel enough, a routine at a time. -/
structure Fueled (R : Runtime ν) (source : String) (scope : Scope ν) (n : Nat) : Prop where
  primary : ∀ {ts}, 8 * ts.length + 1 ≤ n → Within ts.length (parsePrimary R source scope n ts)
  chained : ∀ {ts}, 8 * ts.length + 2 ≤ n → Within ts.length (parsePostfix R source scope n ts)
  unary : ∀ {ts}, 8 * ts.length + 3 ≤ n → Within ts.length (parseUnary R source scope n ts)
  comparison : ∀ {ts}, 8 * ts.length + 4 ≤ n →
    Within ts.length (parseComparison R source scope n ts)
  andLoop : ∀ {held ts}, 8 * ts.length + 1 ≤ n →
    Within (ts.length + 1) (andLoop R source scope n held ts)
  and : ∀ {ts}, 8 * ts.length + 5 ≤ n → Within ts.length (parseAnd R source scope n ts)
  orLoop : ∀ {held ts}, 8 * ts.length + 1 ≤ n →
    Within (ts.length + 1) (orLoop R source scope n held ts)
  or : ∀ {ts}, 8 * ts.length + 6 ≤ n → Within ts.length (parseOr R source scope n ts)
  items : ∀ {ts}, 8 * ts.length + 7 ≤ n → Within ts.length (parseItems R source scope n ts)

namespace Fueled

variable {n : Nat} {ts : List (Token ν)} {held : Value ν}

theorem zero : Fueled R source scope 0 where
  primary h := by omega
  chained h := by omega
  unary h := by omega
  comparison h := by omega
  andLoop h := by omega
  and h := by omega
  orLoop h := by omega
  or h := by omega
  items h := by omega

theorem primary_succ (hn : Fueled R source scope n) (h : 8 * ts.length + 1 ≤ n + 1) :
    Within ts.length (parsePrimary R source scope (n + 1) ts) := by
  rcases ts with _ | ⟨token, ts⟩
  · exact within_fail
  rw [List.length_cons] at h ⊢
  cases token with
  | number value => exact Nat.lt_succ_self _
  | string value => exact Nat.lt_succ_self _
  | ident x => exact Nat.lt_succ_self _
  | punct p =>
    have hgroup : Within (ts.length + 1) (parsePrimary R source scope (n + 1)
        (.punct .openParen :: ts)) := by
      refine (hn.or (by omega)).bind fun value rest hrest => ?_
      rcases rest with _ | ⟨token, rest⟩
      · exact within_fail
      · rw [List.length_cons] at hrest
        have hok : Within (ts.length + 1)
            (.ok (value, rest) : Except Failure (Value ν × List (Token ν))) := by
          show rest.length < ts.length + 1
          omega
        cases token with
        | punct q => cases q <;> first | exact hok | exact within_fail
        | _ => exact within_fail
    have harray : Within (ts.length + 1) (parsePrimary R source scope (n + 1)
        (.punct .openBracket :: ts)) := by
      by_cases hfree : Free .closeBracket ts
      · rw [parsePrimary_bracket hfree]
        refine (hn.items (by omega)).bind fun values rest hrest => ?_
        rcases rest with _ | ⟨token, rest⟩
        · exact within_fail
        · rw [List.length_cons] at hrest
          have hok : Within (ts.length + 1)
              (.ok (.array none values, rest) : Except Failure (Value ν × List (Token ν))) := by
            show rest.length < ts.length + 1
            omega
          cases token with
          | punct q => cases q <;> first | exact hok | exact within_fail
          | _ => exact within_fail
      · obtain ⟨more, rfl⟩ : ∃ more, ts = .punct .closeBracket :: more := by
          by_contra hnone
          exact hfree fun rest heq => hnone ⟨rest, heq⟩
        show more.length < _
        simp only [List.length_cons]
        omega
    cases p with
    | openParen => exact hgroup
    | openBracket => exact harray
    | _ => exact within_fail

theorem chained_succ (hn : Fueled R source scope n) (h : 8 * ts.length + 2 ≤ n + 1) :
    Within ts.length (parsePostfix R source scope (n + 1) ts) := by
  refine (hn.primary (by omega)).bind fun value rest hrest => ?_
  exact (within_postfixLoop value rest).mono hrest

theorem unary_succ (hn : Fueled R source scope n) (h : 8 * ts.length + 3 ≤ n + 1) :
    Within ts.length (parseUnary R source scope (n + 1) ts) := by
  by_cases hbang : Free .bang ts
  · rw [parseUnary_free hbang]
    exact hn.chained (by omega)
  · obtain ⟨mid, rfl⟩ : ∃ mid, ts = .punct .bang :: mid := by
      by_contra hnone
      exact hbang fun rest heq => hnone ⟨rest, heq⟩
    rw [List.length_cons] at h ⊢
    exact (hn.unary (by omega)).bind fun value rest hrest => Nat.lt_succ_of_lt hrest

theorem comparison_succ (hn : Fueled R source scope n) (h : 8 * ts.length + 4 ≤ n + 1) :
    Within ts.length (parseComparison R source scope (n + 1) ts) := by
  rw [parseComparison_succ]
  refine (hn.unary (by omega)).bind fun left mid hmid => ?_
  show Within ts.length (match peekComparisonOperator mid with | none => _ | some op => _)
  cases peekComparisonOperator mid with
  | none => exact hmid
  | some op =>
    have htail : mid.tail.length ≤ mid.length := by
      rw [List.length_tail]
      omega
    refine (hn.unary (by omega)).bind fun right rest hrest => ?_
    show Within ts.length (match compare R op left right with | some value => _ | none => _)
    cases compare R op left right with
    | none => exact fun h => nomatch h
    | some value =>
      show rest.length < ts.length
      omega

theorem andLoop_succ (hn : Fueled R source scope n) (h : 8 * ts.length + 1 ≤ n + 1) :
    Within (ts.length + 1) (Expression.andLoop R source scope (n + 1) held ts) := by
  by_cases hand : Free .andAnd ts
  · rw [andLoop_free hand]
    exact Nat.lt_succ_self _
  · obtain ⟨mid, rfl⟩ : ∃ mid, ts = .punct .andAnd :: mid := by
      by_contra hnone
      exact hand fun rest heq => hnone ⟨rest, heq⟩
    rw [List.length_cons] at h ⊢
    refine (hn.comparison (by omega)).bind fun value rest hrest => ?_
    exact (hn.andLoop (by omega)).mono (by omega)

theorem orLoop_succ (hn : Fueled R source scope n) (h : 8 * ts.length + 1 ≤ n + 1) :
    Within (ts.length + 1) (Expression.orLoop R source scope (n + 1) held ts) := by
  by_cases hor : Free .orOr ts
  · rw [orLoop_free hor]
    exact Nat.lt_succ_self _
  · obtain ⟨mid, rfl⟩ : ∃ mid, ts = .punct .orOr :: mid := by
      by_contra hnone
      exact hor fun rest heq => hnone ⟨rest, heq⟩
    rw [List.length_cons] at h ⊢
    refine (hn.and (by omega)).bind fun value rest hrest => ?_
    exact (hn.orLoop (by omega)).mono (by omega)

theorem and_succ (hn : Fueled R source scope n) (h : 8 * ts.length + 5 ≤ n + 1) :
    Within ts.length (parseAnd R source scope (n + 1) ts) := by
  refine (hn.comparison (by omega)).bind fun value rest hrest => ?_
  exact (hn.andLoop (by omega)).mono hrest

theorem or_succ (hn : Fueled R source scope n) (h : 8 * ts.length + 6 ≤ n + 1) :
    Within ts.length (parseOr R source scope (n + 1) ts) := by
  refine (hn.and (by omega)).bind fun value rest hrest => ?_
  exact (hn.orLoop (by omega)).mono hrest

theorem items_succ (hn : Fueled R source scope n) (h : 8 * ts.length + 7 ≤ n + 1) :
    Within ts.length (parseItems R source scope (n + 1) ts) := by
  refine (hn.or (by omega)).bind fun value rest hrest => ?_
  have hok : Within ts.length
      (.ok ([value], rest) : Except Failure (List (Value ν) × List (Token ν))) := hrest
  rcases rest with _ | ⟨token, rest⟩
  · exact hok
  · cases token with
    | punct p =>
      have hmore : Within ts.length (do
          let (items, ts) ← parseItems R source scope n rest
          return (value :: items, ts)) := by
        rw [List.length_cons] at hrest
        refine (hn.items (by omega)).bind fun values more hless => ?_
        show more.length < ts.length
        omega
      cases p <;> first | exact hmore | exact hok
    | _ => exact hok

theorem all (n : Nat) : Fueled R source scope n := by
  induction n with
  | zero => exact zero
  | succ n hn =>
    exact {
      primary := hn.primary_succ
      chained := hn.chained_succ
      unary := hn.unary_succ
      comparison := hn.comparison_succ
      andLoop := hn.andLoop_succ
      and := hn.and_succ
      orLoop := hn.orLoop_succ
      or := hn.or_succ
      items := hn.items_succ }

end Fueled

end Fuel

section Parse

/-- The parser never runs out of fuel. -/
theorem parse_fueled (ts : List (Token ν)) : parse R source scope ts ≠ .error .outOfFuel := by
  have hor : Within ts.length (parseOr R source scope (fuelFor ts) ts) :=
    (Fueled.all (fuelFor ts)).or (by unfold fuelFor; omega)
  unfold parse
  cases hread : parseOr R source scope (fuelFor ts) ts with
  | error e =>
    rw [hread] at hor
    exact fun h => hor (Except.error.inj h)
  | ok read =>
    obtain ⟨value, rest⟩ := read
    cases rest with
    | nil => exact fun h => nomatch h
    | cons token rest => exact fun h => nomatch h

/-- The parser returns a value exactly where the tokens read as an expression that has it. -/
theorem parse_eq_ok_iff (ts : List (Token ν)) (v : Value ν) :
    parse R source scope ts = .ok v ↔
      ∃ e, Derives .or [e] ts [] ∧ eval R scope e = some v := by
  constructor
  · intro h
    obtain ⟨⟨value, rest⟩, hread, h⟩ := of_bind_ok h
    cases rest with
    | nil =>
      cases h
      rcases (Sound.all (fuelFor ts)).or hread with ⟨_, hdot⟩ | hfound
      · cases hdot
      · exact hfound
    | cons token rest => cases h
  · rintro ⟨e, hderives, heval⟩
    have hreads : Reads R source scope .or [e] ts [] := hderives.reads
    have hread := hreads.or_comes ⟨free_nil, rfl⟩ free_nil free_nil (n := fuelFor ts)
      (by unfold fuelFor; omega)
    rw [heval] at hread
    have hok : parseOr R source scope (fuelFor ts) ts = .ok (v, []) := hread
    unfold parse
    rw [hok]
    rfl

/-- All readings of the same tokens have the same value. -/
theorem eval_eq_of_derives {e e' : Expr ν} {ts : List (Token ν)} (h : Derives .or [e] ts [])
    (h' : Derives .or [e'] ts []) : eval R scope e = eval R scope e' := by
  have hread : ∀ {e : Expr ν}, Derives .or [e] ts [] →
      Comes (eval R scope e) (parseOr R "" scope (fuelFor ts) ts) [] := fun h =>
    h.reads.or_comes ⟨free_nil, rfl⟩ free_nil free_nil (by unfold fuelFor; omega)
  have hsame : ∀ {e e' : Expr ν}, Derives .or [e] ts [] → Derives .or [e'] ts [] → ∀ v,
      eval R scope e = some v → eval R scope e' = some v := by
    intro e e' h h' v hv
    have hfirst := hread h
    have hsecond := hread h'
    rw [hv] at hfirst
    have hrun : parseOr R "" scope (fuelFor ts) ts = .ok (v, []) := hfirst
    cases hv' : eval R scope e' with
    | none =>
      rw [hv', hrun] at hsecond
      obtain ⟨_, hdot⟩ := hsecond v [] rfl
      cases hdot
    | some w =>
      rw [hv', hrun] at hsecond
      cases hsecond
      rfl
  cases hv : eval R scope e with
  | some v => exact (hsame h h' v hv).symm
  | none =>
    cases hv' : eval R scope e' with
    | none => rfl
    | some w =>
      rw [hsame h' h w hv'] at hv
      cases hv

end Parse

end DddBoilerplate.Saga.Expression
