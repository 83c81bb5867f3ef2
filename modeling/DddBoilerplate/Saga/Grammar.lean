/- module: DddBoilerplate/Saga/Grammar
   generality: I
   digest: The language of saga expressions: abstract syntax, denotation, derivations, and where a value is missing. -/

import DddBoilerplate.Saga.Expression

set_option autoImplicit false
set_option relaxedAutoImplicit false
set_option linter.all false

namespace DddBoilerplate.Saga.Expression

section Syntax

inductive BinaryOp where
  | or
  | and
  | compare (op : ComparisonOp)
  deriving DecidableEq

/-- Expressions, with a path as its head and the names behind its dots. -/
inductive Expr (ν : Type) where
  | literal (value : Value ν)
  | name (x : String)
  | path (head : Expr ν) (names : List String)
  | array (items : List (Expr ν))
  | not (operand : Expr ν)
  | binary (op : BinaryOp) (left right : Expr ν)

variable {ν : Type}

/-- Induction over expressions that reaches into the items of an array. -/
theorem Expr.inductOn {P : Expr ν → Prop} (literal : ∀ value, P (.literal value))
    (name : ∀ x, P (.name x)) (path : ∀ head names, P head → P (.path head names))
    (array : ∀ items, (∀ e ∈ items, P e) → P (.array items))
    (not : ∀ e, P e → P (.not e))
    (binary : ∀ op l r, P l → P r → P (.binary op l r)) (e : Expr ν) : P e :=
  @Expr.rec ν P (fun items => ∀ e ∈ items, P e) literal name path array not binary
    (fun _ h => nomatch h)
    (fun _ _ hhead htail _ hmem => (List.mem_cons.mp hmem).elim (fun h => h ▸ hhead) (htail _)) e

/-- The first expression occurs in the second. -/
inductive Part : Expr ν → Expr ν → Prop where
  | self (e : Expr ν) : Part e e
  | head {p head : Expr ν} {names : List String} : Part p head → Part p (.path head names)
  | item {p e : Expr ν} {items : List (Expr ν)} : e ∈ items → Part p e → Part p (.array items)
  | operand {p e : Expr ν} : Part p e → Part p (.not e)
  | left {p l r : Expr ν} {op : BinaryOp} : Part p l → Part p (.binary op l r)
  | right {p l r : Expr ν} {op : BinaryOp} : Part p r → Part p (.binary op l r)

end Syntax

section Denotation

variable {ν : Type} (R : Runtime ν)

def applyBinary (op : BinaryOp) (v w : Value ν) : Option (Value ν) :=
  match op with
  | .or => some (.bool (truthy R v || truthy R w))
  | .and => some (.bool (truthy R v && truthy R w))
  | .compare op => compare R op v w

variable (scope : Scope ν) (follow : Value ν → List String → Option (Value ν))

mutual

/-- The value of an expression, for a way to follow the names of a path. -/
def evalWith : Expr ν → Option (Value ν)
  | .literal value => some value
  | .name x => some (readScope R scope x)
  | .path head names => do
    let value ← evalWith head
    follow value names
  | .array items => do
    let values ← evalItemsWith items
    return .array none values
  | .not operand => do
    let value ← evalWith operand
    return .bool (!truthy R value)
  | .binary op left right => do
    let v ← evalWith left
    let w ← evalWith right
    applyBinary R op v w

def evalItemsWith : List (Expr ν) → Option (List (Value ν))
  | [] => some []
  | item :: items => do
    let value ← evalWith item
    let values ← evalItemsWith items
    return value :: values

end

/-- A property of a property, through missing values. -/
def readPath (value : Value ν) (names : List String) : Value ν :=
  names.foldl (readProperty R) value

/-- The denotation: nothing only where an order comparison meets an operand without a number. -/
def denote (e : Expr ν) : Option (Value ν) :=
  evalWith R scope (fun value names => some (readPath R value names)) e

/-- A path whose value goes missing ahead of its last name cannot be followed. -/
def walk : Value ν → List String → Option (Value ν)
  | value, [] => some value
  | value, name :: names =>
    if isNullish value then
      if names.isEmpty then some .undefined else none
    else walk (readProperty R value name) names

/-- The value the fused parser comes to, where it comes to one. -/
def eval (e : Expr ν) : Option (Value ν) := evalWith R scope (walk R) e

def evalItems (items : List (Expr ν)) : Option (List (Value ν)) :=
  evalItemsWith R scope (walk R) items

/-- A name ahead of the last one leads to null or to nothing. -/
def BreaksOff (value : Value ν) (names : List String) : Prop :=
  ∃ before x y after, names = before ++ x :: y :: after ∧
    isNullish (readPath R value before) = true

/-- Some path of the expression breaks off. -/
def PathBreaks (e : Expr ν) : Prop :=
  ∃ head names value, Part (.path head names) e ∧ denote R scope head = some value ∧
    BreaksOff R value names

/-- Some order comparison of the expression meets an operand without a number. -/
def Unordered (e : Expr ν) : Prop :=
  ∃ op l r v w, Part (.binary (.compare op) l r) e ∧ denote R scope l = some v ∧
    denote R scope r = some w ∧ compare R op v w = none

end Denotation

section EvalDenote

variable {ν : Type} {R : Runtime ν} {scope : Scope ν}

theorem readProperty_of_nullish {value : Value ν} (h : isNullish value = true) (name : String) :
    readProperty R value name = .undefined := by
  cases value with
  | undefined => rfl
  | null => rfl
  | _ => cases h

theorem breaksOff_cons {value : Value ν} {x : String} {names : List String}
    (h : isNullish value = false) :
    BreaksOff R value (x :: names) ↔ BreaksOff R (readProperty R value x) names := by
  constructor
  · rintro ⟨before, y, z, after, heq, hnull⟩
    cases before with
    | nil => exact absurd hnull (by simp [readPath, h])
    | cons b before =>
      cases heq
      exact ⟨before, y, z, after, rfl, hnull⟩
  · rintro ⟨before, y, z, after, rfl, hnull⟩
    exact ⟨x :: before, y, z, after, rfl, hnull⟩

/-- A path is followed exactly where it does not break off, and then to the value it names. -/
theorem walk_cases (value : Value ν) (names : List String) :
    (BreaksOff R value names ∧ walk R value names = none) ∨
      (¬BreaksOff R value names ∧ walk R value names = some (readPath R value names)) := by
  induction names generalizing value with
  | nil =>
    refine .inr ⟨?_, rfl⟩
    rintro ⟨before, x, y, after, heq, -⟩
    exact absurd heq (by simp)
  | cons x names ih =>
    by_cases hnull : isNullish value = true
    · cases names with
      | nil =>
        refine .inr ⟨?_, ?_⟩
        · rintro ⟨before, y, z, after, heq, -⟩
          have hlength := congrArg List.length heq
          simp at hlength
          omega
        · simp [walk, hnull, readPath, readProperty_of_nullish hnull]
      | cons y after =>
        refine .inl ⟨⟨[], x, y, after, rfl, hnull⟩, ?_⟩
        simp [walk, hnull]
    · have hsome : isNullish value = false := by simpa using hnull
      have hwalk : walk R value (x :: names) = walk R (readProperty R value x) names := by
        simp [walk, hsome]
      rw [hwalk, breaksOff_cons hsome]
      exact ih (readProperty R value x)

theorem walk_eq_some {value w : Value ν} {names : List String} (h : walk R value names = some w) :
    readPath R value names = w := by
  rcases walk_cases (R := R) value names with ⟨-, hnone⟩ | ⟨-, hsome⟩
  · rw [hnone] at h
    cases h
  · exact Option.some.inj (hsome.symm.trans h)

/-- The fused evaluation goes missing where a path breaks off; elsewhere it is the denotation. -/
theorem eval_eq_denote (e : Expr ν) (h : ¬PathBreaks R scope e) :
    eval R scope e = denote R scope e := by
  induction e using Expr.inductOn with
  | literal value => rfl
  | name x => rfl
  | path head names ih =>
    have hhead : ¬PathBreaks R scope head := fun ⟨p, ns, v, hpart, hv⟩ => h ⟨p, ns, v, .head hpart, hv⟩
    show (eval R scope head >>= _) = (denote R scope head >>= _)
    rw [ih hhead]
    cases hvalue : denote R scope head with
    | none => rfl
    | some value =>
      rcases walk_cases (R := R) value names with ⟨hbreaks, -⟩ | ⟨-, hwalk⟩
      · exact absurd ⟨head, names, value, .self _, hvalue, hbreaks⟩ h
      · exact hwalk
  | array items ih =>
    have hitems : evalItems R scope items =
        evalItemsWith R scope (fun value names => some (readPath R value names)) items := by
      have hparts : ∀ e ∈ items, eval R scope e = denote R scope e := fun e he =>
        ih e he fun ⟨p, ns, v, hpart, hv⟩ => h ⟨p, ns, v, .item he hpart, hv⟩
      clear ih h
      induction items with
      | nil => rfl
      | cons item items ih =>
        show (eval R scope item >>= fun _ => evalItems R scope items >>= _) = _
        rw [hparts item List.mem_cons_self, ih fun e he => hparts e (List.mem_cons_of_mem _ he)]
        rfl
    show (evalItems R scope items >>= _) = _
    rw [hitems]
    rfl
  | not e ih =>
    show (eval R scope e >>= _) = _
    rw [ih fun ⟨p, ns, v, hpart, hv⟩ => h ⟨p, ns, v, .operand hpart, hv⟩]
    rfl
  | binary op l r ihl ihr =>
    show (eval R scope l >>= fun _ => eval R scope r >>= _) = _
    rw [ihl fun ⟨p, ns, v, hpart, hv⟩ => h ⟨p, ns, v, .left hpart, hv⟩,
      ihr fun ⟨p, ns, v, hpart, hv⟩ => h ⟨p, ns, v, .right hpart, hv⟩]
    rfl

/-- What has a value in the fused evaluation has it as its denotation. -/
theorem denote_of_eval (e : Expr ν) :
    ∀ {value}, eval R scope e = some value → denote R scope e = some value := by
  induction e using Expr.inductOn with
  | literal value => exact id
  | name x => exact id
  | path head names ih =>
    intro value h
    obtain ⟨base, hbase, hwalk⟩ := Option.bind_eq_some_iff.mp h
    exact Option.bind_eq_some_iff.mpr ⟨base, ih hbase, congrArg some (walk_eq_some hwalk)⟩
  | array items ih =>
    intro value h
    obtain ⟨values, hvalues, heq⟩ := Option.bind_eq_some_iff.mp h
    refine Option.bind_eq_some_iff.mpr ⟨values, ?_, heq⟩
    clear h heq
    induction items generalizing values with
    | nil => exact hvalues
    | cons item items ihitems =>
      obtain ⟨first, hfirst, hrest⟩ := Option.bind_eq_some_iff.mp hvalues
      obtain ⟨rest, hrest, heq⟩ := Option.bind_eq_some_iff.mp hrest
      refine Option.bind_eq_some_iff.mpr ⟨first, ih item List.mem_cons_self hfirst, ?_⟩
      refine Option.bind_eq_some_iff.mpr ⟨rest, ?_, heq⟩
      exact ihitems (fun e he => ih e (List.mem_cons_of_mem _ he)) rest hrest
  | not e ih =>
    intro value h
    obtain ⟨operand, hoperand, heq⟩ := Option.bind_eq_some_iff.mp h
    exact Option.bind_eq_some_iff.mpr ⟨operand, ih hoperand, heq⟩
  | binary op l r ihl ihr =>
    intro value h
    obtain ⟨v, hv, h⟩ := Option.bind_eq_some_iff.mp h
    obtain ⟨w, hw, heq⟩ := Option.bind_eq_some_iff.mp h
    exact Option.bind_eq_some_iff.mpr ⟨v, ihl hv, Option.bind_eq_some_iff.mpr ⟨w, ihr hw, heq⟩⟩

theorem bind_of_none {α β : Type} {o : Option α} {f : α → Option β} (h : o = none) :
    (o >>= f) = none := by
  rw [h]
  rfl

/-- An expression has no value where one of its parts has none. -/
theorem evalWith_eq_none_of_part {follow : Value ν → List String → Option (Value ν)}
    {p e : Expr ν} (hpart : Part p e) (h : evalWith R scope follow p = none) :
    evalWith R scope follow e = none := by
  induction hpart with
  | self => exact h
  | head _ ih => exact bind_of_none ih
  | item hmem _ hnone =>
    have hitems : ∀ {items : List (Expr ν)} {item : Expr ν}, item ∈ items →
        evalWith R scope follow item = none → evalItemsWith R scope follow items = none := by
      intro items item hmem hnone
      induction items with
      | nil => cases hmem
      | cons first rest ihrest =>
        refine Option.bind_eq_none_iff.mpr fun v hv => Option.bind_eq_none_iff.mpr fun vs hvs => ?_
        rcases List.mem_cons.mp hmem with rfl | hmem
        · rw [hnone] at hv
          cases hv
        · rw [ihrest hmem] at hvs
          cases hvs
    exact bind_of_none (hitems hmem hnone)
  | operand _ ih => exact bind_of_none ih
  | left _ ih => exact bind_of_none ih
  | right _ ih => exact Option.bind_eq_none_iff.mpr fun _ _ => bind_of_none ih

theorem Unordered.of_part {p e : Expr ν} (hpart : ∀ q, Part q p → Part q e)
    (h : Unordered R scope p) : Unordered R scope e := by
  obtain ⟨op, l, r, v, w, hp, hrest⟩ := h
  exact ⟨op, l, r, v, w, hpart _ hp, hrest⟩

/-- The denotation is missing exactly where an order comparison has no value. -/
theorem denote_eq_none_iff (e : Expr ν) : denote R scope e = none ↔ Unordered R scope e := by
  constructor
  · induction e using Expr.inductOn with
    | literal value => exact fun h => nomatch h
    | name x => exact fun h => nomatch h
    | path head names ih =>
      intro h
      cases hhead : denote R scope head with
      | none => exact (ih hhead).of_part fun _ => .head
      | some value =>
        exact nomatch Option.bind_eq_none_iff.mp h value hhead
    | array items ih =>
      intro h
      by_contra hordered
      have hsome : ∃ values, evalItemsWith R scope
          (fun value names => some (readPath R value names)) items = some values := by
        have hparts : ∀ item ∈ items, ∃ v, denote R scope item = some v := by
          intro item hmem
          cases hitem : denote R scope item with
          | some v => exact ⟨v, rfl⟩
          | none => exact absurd ((ih item hmem hitem).of_part fun _ => .item hmem) hordered
        clear ih h hordered
        induction items with
        | nil => exact ⟨[], rfl⟩
        | cons item items ihitems =>
          obtain ⟨v, hv⟩ := hparts item List.mem_cons_self
          obtain ⟨vs, hvs⟩ := ihitems fun e he => hparts e (List.mem_cons_of_mem _ he)
          exact ⟨v :: vs, Option.bind_eq_some_iff.mpr ⟨v, hv,
            Option.bind_eq_some_iff.mpr ⟨vs, hvs, rfl⟩⟩⟩
      obtain ⟨values, hvalues⟩ := hsome
      exact nomatch Option.bind_eq_none_iff.mp h values hvalues
    | not e ih =>
      intro h
      cases hoperand : denote R scope e with
      | none => exact (ih hoperand).of_part fun _ => .operand
      | some value => exact nomatch Option.bind_eq_none_iff.mp h value hoperand
    | binary op l r ihl ihr =>
      intro h
      cases hl : denote R scope l with
      | none => exact (ihl hl).of_part fun _ => .left
      | some v =>
        cases hr : denote R scope r with
        | none => exact (ihr hr).of_part fun _ => .right
        | some w =>
          have hnone := Option.bind_eq_none_iff.mp (Option.bind_eq_none_iff.mp h v hl) w hr
          cases op with
          | or => cases hnone
          | and => cases hnone
          | compare op => exact ⟨op, l, r, v, w, .self _, hl, hr, hnone⟩
  · rintro ⟨op, l, r, v, w, hpart, hl, hr, hnone⟩
    refine evalWith_eq_none_of_part hpart (Option.bind_eq_none_iff.mpr fun v' hv' =>
      Option.bind_eq_none_iff.mpr fun w' hw' => ?_)
    cases hl.symm.trans hv'
    cases hr.symm.trans hw'
    exact hnone

/-- The fused evaluation goes missing exactly where a path breaks off or an order comparison has
no value. -/
theorem eval_eq_none_iff (e : Expr ν) :
    eval R scope e = none ↔ PathBreaks R scope e ∨ Unordered R scope e := by
  constructor
  · intro h
    by_cases hbreaks : PathBreaks R scope e
    · exact .inl hbreaks
    · rw [eval_eq_denote e hbreaks] at h
      exact .inr ((denote_eq_none_iff e).mp h)
  · rintro (⟨head, names, value, hpart, hhead, hbreaks⟩ | hunordered)
    · refine evalWith_eq_none_of_part hpart (Option.bind_eq_none_iff.mpr fun base hbase => ?_)
      cases hhead.symm.trans (denote_of_eval head hbase)
      rcases walk_cases (R := R) value names with ⟨-, hnone⟩ | ⟨hfollowed, -⟩
      · exact hnone
      · exact absurd hbreaks hfollowed
    · cases heval : eval R scope e with
      | none => rfl
      | some value =>
        have hnone := (denote_eq_none_iff e).mpr hunordered
        rw [denote_of_eval e heval] at hnone
        cases hnone

end EvalDenote

section Derivations

variable {ν : Type}

/-- The routine of the parser that reads a phrase. -/
inductive Level where
  | primary | chained | unary | comparison | and | or | items
  deriving DecidableEq

/-- The value a token stands for by itself. -/
def Token.literal? : Token ν → Option (Value ν)
  | .number value => some (.number value)
  | .string value => some (.string value)
  | .ident "true" => some (.bool true)
  | .ident "false" => some (.bool false)
  | .ident "null" => some .null
  | .ident "undefined" => some .undefined
  | _ => none

def reservedWords : List String := ["true", "false", "null", "undefined"]

/-- The names behind the dots of a path, as tokens. -/
def dots (names : List String) : List (Token ν) :=
  names.flatMap fun name => [.punct .dot, .ident name]

/-- The tokens between the first list and the second read as these expressions: one for every
routine but the items of an array. `&&` and `||` take any grouping of their operands. -/
inductive Derives : Level → List (Expr ν) → List (Token ν) → List (Token ν) → Prop where
  | literal {token : Token ν} {value : Value ν} {rest : List (Token ν)} :
    token.literal? = some value → Derives .primary [.literal value] (token :: rest) rest
  | name {x : String} {rest : List (Token ν)} :
    x ∉ reservedWords → Derives .primary [.name x] (.ident x :: rest) rest
  | group {e : Expr ν} {inner rest : List (Token ν)} :
    Derives .or [e] inner (.punct .closeParen :: rest) →
    Derives .primary [e] (.punct .openParen :: inner) rest
  | empty {rest : List (Token ν)} :
    Derives .primary [.array []] (.punct .openBracket :: .punct .closeBracket :: rest) rest
  | array {items : List (Expr ν)} {inner rest : List (Token ν)} :
    Derives .items items inner (.punct .closeBracket :: rest) →
    Derives .primary [.array items] (.punct .openBracket :: inner) rest
  | item {e : Expr ν} {ts rest : List (Token ν)} :
    Derives .or [e] ts rest → Derives .items [e] ts rest
  | items {e : Expr ν} {items : List (Expr ν)} {ts mid rest : List (Token ν)} :
    Derives .or [e] ts (.punct .comma :: mid) → Derives .items items mid rest →
    Derives .items (e :: items) ts rest
  | primary {e : Expr ν} {ts rest : List (Token ν)} :
    Derives .primary [e] ts rest → Derives .chained [e] ts rest
  | path {e : Expr ν} {name : String} {names : List String} {ts rest : List (Token ν)} :
    Derives .primary [e] ts (dots (name :: names) ++ rest) →
    Derives .chained [.path e (name :: names)] ts rest
  | unary {e : Expr ν} {ts rest : List (Token ν)} :
    Derives .chained [e] ts rest → Derives .unary [e] ts rest
  | not {e : Expr ν} {ts rest : List (Token ν)} :
    Derives .unary [e] ts rest → Derives .unary [.not e] (.punct .bang :: ts) rest
  | comparison {e : Expr ν} {ts rest : List (Token ν)} :
    Derives .unary [e] ts rest → Derives .comparison [e] ts rest
  | compare {l r : Expr ν} {op : ComparisonOp} {ts mid rest : List (Token ν)} :
    Derives .unary [l] ts mid → peekComparisonOperator mid = some op →
    Derives .unary [r] mid.tail rest → Derives .comparison [.binary (.compare op) l r] ts rest
  | operand {e : Expr ν} {ts rest : List (Token ν)} :
    Derives .comparison [e] ts rest → Derives .and [e] ts rest
  | conj {l r : Expr ν} {ts mid rest : List (Token ν)} :
    Derives .and [l] ts (.punct .andAnd :: mid) → Derives .and [r] mid rest →
    Derives .and [.binary .and l r] ts rest
  | alternative {e : Expr ν} {ts rest : List (Token ν)} :
    Derives .and [e] ts rest → Derives .or [e] ts rest
  | disj {l r : Expr ν} {ts mid rest : List (Token ν)} :
    Derives .or [l] ts (.punct .orOr :: mid) → Derives .or [r] mid rest →
    Derives .or [.binary .or l r] ts rest

/-- Every phrase has a token. -/
theorem Derives.length_lt {level : Level} {es : List (Expr ν)} {ts rest : List (Token ν)}
    (h : Derives level es ts rest) : rest.length < ts.length := by
  induction h with
  | literal => simp
  | name => simp
  | group _ ih => simp only [List.length_cons] at ih ⊢; omega
  | empty => simp only [List.length_cons]; omega
  | array _ ih => simp only [List.length_cons] at ih ⊢; omega
  | item _ ih => exact ih
  | items _ _ ih ih' => simp only [List.length_cons] at ih; omega
  | primary _ ih => exact ih
  | path _ ih => rw [List.length_append] at ih; omega
  | unary _ ih => exact ih
  | not _ ih => simp only [List.length_cons]; omega
  | comparison _ ih => exact ih
  | compare _ _ _ ih ih' => rw [List.length_tail] at ih'; omega
  | operand _ ih => exact ih
  | conj _ _ ih ih' => simp only [List.length_cons] at ih; omega
  | alternative _ ih => exact ih
  | disj _ _ ih ih' => simp only [List.length_cons] at ih; omega

end Derivations

end DddBoilerplate.Saga.Expression
