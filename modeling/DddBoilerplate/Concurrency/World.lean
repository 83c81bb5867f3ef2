/- module: DddBoilerplate/Concurrency/World
   generality: G
   digest: A database beside a clock that never goes back and identifiers that never repeat. -/

import DddBoilerplate.Concurrency.Pool

set_option autoImplicit false
set_option relaxedAutoImplicit false
set_option linter.all false

namespace DddBoilerplate.Concurrency

/-- A database, the latest reading of the clock, and the identifiers drawn so far. -/
structure World (S : Type) where
  db : S
  now : Nat
  issued : List String

inductive WorldRequest (ι : Interface) where
  | statement (q : ι.Request)
  | clock
  | randomUUID

@[reducible] def WorldRequest.Answer {ι : Interface} : WorldRequest ι → Type
  | statement q => ι.Answer q
  | clock => Nat
  | randomUUID => String

/-- The statements of a database, the clock and fresh identifiers. -/
abbrev Interface.world (ι : Interface) : Interface := ⟨WorldRequest ι, WorldRequest.Answer⟩

inductive WorldChoice (C : Type) where
  | statement (choice : C)
  | clock (reading : Nat)
  | randomUUID (id : String)

variable {ι : Interface} {S C : Type}
variable (execute : (q : ι.Request) → C → S → Option (ι.Answer q × S))

/-- The clock may show any time but an earlier one, and an identifier may be any but one drawn
before. -/
def World.serve :
    (q : WorldRequest ι) → WorldChoice C → World S → Option (q.Answer × World S)
  | .statement q, .statement choice, world =>
    (execute q choice world.db).map fun (a, db) => (a, { world with db := db })
  | .clock, .clock reading, world =>
    if world.now ≤ reading then some (reading, { world with now := reading }) else none
  | .randomUUID, .randomUUID id, world =>
    if id ∈ world.issued then none else some (id, { world with issued := id :: world.issued })
  | _, _, _ => none

/-- The programs over such a database. -/
abbrev worldSystem {Entry : Type} (program : Entry → Program ι.world Unit) : System where
  interface := ι.world
  Store := World S
  Choice := WorldChoice C
  Entry := Entry
  program := program
  serve := World.serve execute

section Serves

variable {execute} {Entry : Type} {program : Entry → Program ι.world Unit} {w w' : World S}

theorem serves_statement {q : ι.Request} {a : ι.Answer q} :
    (worldSystem execute program).Serves (.statement q) w a w' ↔
      ∃ choice db, execute q choice w.db = some (a, db) ∧ w' = { w with db := db } := by
  constructor
  · rintro ⟨choice, hserve⟩
    cases choice with
    | statement choice =>
      obtain ⟨⟨answer, db⟩, hexecute, heq⟩ := Option.map_eq_some_iff.mp hserve
      cases heq
      exact ⟨choice, db, hexecute, rfl⟩
    | clock reading => cases hserve
    | randomUUID id => cases hserve
  · rintro ⟨choice, db, hexecute, rfl⟩
    exact ⟨.statement choice, Option.map_eq_some_iff.mpr ⟨(a, db), hexecute, rfl⟩⟩

theorem serves_clock {reading : Nat}
    (h : (worldSystem execute program).Serves .clock w reading w') :
    w.now ≤ reading ∧ w' = { w with now := reading } := by
  obtain ⟨choice, hserve⟩ := h
  cases choice with
  | clock t =>
    dsimp only [World.serve] at hserve
    split at hserve
    · rename_i hle
      cases hserve
      exact ⟨hle, rfl⟩
    · cases hserve
  | statement choice => cases hserve
  | randomUUID id => cases hserve

theorem serves_randomUUID {id : String}
    (h : (worldSystem execute program).Serves .randomUUID w id w') :
    id ∉ w.issued ∧ w' = { w with issued := id :: w.issued } := by
  obtain ⟨choice, hserve⟩ := h
  cases choice with
  | randomUUID drawn =>
    dsimp only [World.serve] at hserve
    split at hserve
    · cases hserve
    · rename_i hfresh
      cases hserve
      exact ⟨hfresh, rfl⟩
  | statement choice => cases hserve
  | clock reading => cases hserve

/-- Time goes on, and what was drawn stays drawn. -/
structure World.Later (w w' : World S) : Prop where
  now : w.now ≤ w'.now
  issued : ∀ id ∈ w.issued, id ∈ w'.issued

theorem World.Later.refl (w : World S) : w.Later w := ⟨Nat.le_refl _, fun _ h => h⟩

theorem World.Later.trans {w w' w'' : World S} (h : w.Later w') (h' : w'.Later w'') :
    w.Later w'' :=
  ⟨Nat.le_trans h.now h'.now, fun id hid => h'.issued id (h.issued id hid)⟩

theorem later_of_serves {q : WorldRequest ι} {a : q.Answer}
    (h : (worldSystem execute program).Serves q w a w') : w.Later w' := by
  cases q with
  | statement q =>
    obtain ⟨_, _, _, rfl⟩ := serves_statement.mp h
    exact ⟨Nat.le_refl _, fun _ h => h⟩
  | clock =>
    obtain ⟨hle, rfl⟩ := serves_clock h
    exact ⟨hle, fun _ h => h⟩
  | randomUUID =>
    obtain ⟨_, rfl⟩ := serves_randomUUID h
    exact ⟨Nat.le_refl _, fun id hid => List.mem_cons_of_mem _ hid⟩

variable {P Q : Pool (worldSystem execute program)} {l : Label (worldSystem execute program)}

theorem later_of_step (h : Step (worldSystem execute program) P l Q) : P.store.Later Q.store := by
  cases h with
  | start store threads entry => exact World.Later.refl store
  | served here answered => exact later_of_serves answered
  | raised here error => exact World.Later.refl _

/-- A step serves a statement, or leaves the database alone. -/
theorem statement_of_step (h : Step (worldSystem execute program) P l Q) :
    (Q.store.db = P.store.db ∧ ∀ i q a f, l ≠ .served i (.statement q) a f) ∨
      ∃ i q a f choice, l = .served i (.statement q) a f ∧
        execute q choice P.store.db = some (a, Q.store.db) := by
  cases h with
  | start store threads entry => exact .inl ⟨rfl, fun _ _ _ _ heq => by cases heq⟩
  | @served store store' threads i q next a here answered =>
    cases q with
    | statement q =>
      obtain ⟨choice, db, hexecute, rfl⟩ := serves_statement.mp answered
      exact .inr ⟨i, q, a, _, choice, rfl, hexecute⟩
    | clock =>
      obtain ⟨_, rfl⟩ := serves_clock answered
      exact .inl ⟨rfl, fun _ _ _ _ heq => by cases heq⟩
    | randomUUID =>
      obtain ⟨_, rfl⟩ := serves_randomUUID answered
      exact .inl ⟨rfl, fun _ _ _ _ heq => by cases heq⟩
  | raised here error => exact .inl ⟨rfl, fun _ _ _ _ heq => by cases heq⟩

/-- Only a statement that is served changes the database. -/
theorem db_of_step (h : Step (worldSystem execute program) P l Q) :
    Q.store.db = P.store.db ∨
      ∃ i q a f choice, l = .served i (.statement q) a f ∧
        execute q choice P.store.db = some (a, Q.store.db) := by
  rcases statement_of_step h with ⟨hsame, _⟩ | hserved
  · exact .inl hsame
  · exact .inr hserved

theorem later_of_run {ok : Pool (worldSystem execute program) →
    Label (worldSystem execute program) → Prop}
    {trace : List (Label (worldSystem execute program))} (h : Run ok P trace Q) :
    P.store.Later Q.store := by
  induction h with
  | nil => exact World.Later.refl _
  | snoc _ _ hstep ih => exact ih.trans (later_of_step hstep)

section Draws

variable {ok : Pool (worldSystem execute program) → Label (worldSystem execute program) → Prop}
variable {trace : List (Label (worldSystem execute program))} {i j : Nat} {id : String}
variable {f g : Front ι.world}

/-- An identifier that was drawn stays drawn, and a time that was read has passed. -/
theorem issued_of_mem (h : Run ok P trace Q) (hmem : .served i .randomUUID id f ∈ trace) :
    id ∈ Q.store.issued := by
  induction h with
  | nil => cases hmem
  | snoc _ _ hstep ih =>
    rcases List.mem_append.mp hmem with hmem | hmem
    · exact (later_of_step hstep).issued id (ih hmem)
    · rw [← List.mem_singleton.mp hmem] at hstep
      obtain ⟨_, hstore⟩ := serves_randomUUID hstep.answered
      rw [hstore]
      exact List.mem_cons_self

theorem read_of_mem (h : Run ok P trace Q) {reading : Nat}
    (hmem : .served i .clock reading f ∈ trace) : reading ≤ Q.store.now := by
  induction h with
  | nil => cases hmem
  | snoc _ _ hstep ih =>
    rcases List.mem_append.mp hmem with hmem | hmem
    · exact Nat.le_trans (ih hmem) (later_of_step hstep).now
    · rw [← List.mem_singleton.mp hmem] at hstep
      obtain ⟨_, hstore⟩ := serves_clock hstep.answered
      have hnow := congrArg (·.now) hstore
      exact Nat.le_of_eq hnow.symm

/-- No identifier is drawn by two threads. -/
theorem drawn_once (h : Run ok P trace Q) (hi : .served i .randomUUID id f ∈ trace)
    (hj : .served j .randomUUID id g ∈ trace) : i = j := by
  induction h with
  | nil => cases hi
  | @snoc trace Q R l hrun _ hstep ih =>
    have hnew : ∀ {k : Nat} {e : Front ι.world},
        .served k .randomUUID id e ∈ [l] → id ∉ Q.store.issued := by
      intro k e hmem
      rw [← List.mem_singleton.mp hmem] at hstep
      exact (serves_randomUUID hstep.answered).1
    rcases List.mem_append.mp hi with hi | hi
    · rcases List.mem_append.mp hj with hj | hj
      · exact ih hi hj
      · exact absurd (issued_of_mem hrun hi) (hnew hj)
    · rcases List.mem_append.mp hj with hj | hj
      · exact absurd (issued_of_mem hrun hj) (hnew hi)
      · cases List.mem_singleton.mp hi
        cases List.mem_singleton.mp hj
        rfl

end Draws

end Serves

end DddBoilerplate.Concurrency
