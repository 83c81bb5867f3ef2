/- module: DddBoilerplate/Saga/Scenario
   generality: I
   digest: Words for spelling out one concrete run: definitions by their steps, deliveries, and served calls. -/

import DddBoilerplate.Saga.Invariant

set_option autoImplicit false
set_option relaxedAutoImplicit false
set_option linter.all false

open DddBoilerplate.Concurrency

namespace DddBoilerplate.Saga.Scenario

/-- Default configuration, every action registered. -/
abbrev demo : Environment String := .literal .default fun _ => true

abbrev DemoMove := Move (sagaSystem demo)

/-- The ACTIVE definition with these steps, started by `Started`. -/
def definitionOf (steps : List SagaStepSpec) (cancelOn : List SagaEventRef) :
    SagaDefinitionRecord where
  id := "d"
  sagaKey := "receipt"
  version := 1
  eventName := "Started"
  eventVersion := 1
  status := .active
  definition :=
    { key := "receipt", version := 1, start := { event := ⟨"Started", 1⟩, key := "R1" },
      cancelOn := some cancelOn, steps := steps }

def waitStep (id : String) (onTimeout : SagaOnTimeout) : SagaStepSpec :=
  { id := id, policy := .standard, waitFor := some ⟨id, 1⟩, onTimeout := some onTimeout }

def doStep (id : String) : SagaStepSpec :=
  { id := id, policy := .standard, do_ := some id, undo := some id }

/-- One definition, and nothing started. -/
def emptyPool (definition : SagaDefinitionRecord) : SagaPool demo :=
  ⟨SagaDb.fresh [definition] [], []⟩

theorem initial_emptyPool (definition : SagaDefinitionRecord) : Initial (emptyPool definition) :=
  initial_fresh [definition] []

/-- Event `name` of tenant `t`, company `c`. -/
def deliver (name : String) : DemoMove :=
  .start (.accept ⟨name, name, some 1, some "t", some "c", "Receipt", []⟩)

def serveAll (thread : Nat) (choices : List (SagaChoice String)) : List DemoMove :=
  choices.map (.serve thread)

/-- The calls of a delivered `Started` up to the insertion of instance `i`. -/
def insertion : List (SagaChoice String) :=
  [.plain, .features (.ok []), .settings (.ok []), .plain, .uuid "i"]

/-- The calls `advance` makes before its first step. -/
def advancing (now : Nat) : List (SagaChoice String) := [.plain, .plain, .time now]

/-- Nothing buffered: the WAIT row, then the write. -/
def parking : List (SagaChoice String) := [.plain, .plain, .plain]

/-- A batch that claims nothing, then the sweep for expired waits. -/
def sweeping (now : Nat) : List (SagaChoice String) :=
  [.time now, .claim [], .time now, .plain]

/-- The calls of a timeout that is skipped, up to the write. -/
def skipping : List (SagaChoice String) := [.plain, .plain, .plain]

/-- The calls of a timeout that compensates with nothing to undo. -/
def compensatingTimeout (now : Nat) : List (SagaChoice String) :=
  [.plain, .plain, .plain, .time now, .plain]

/-- The calls of a timeout that compensates with one step to undo. -/
def undoingTimeout (now : Nat) : List (SagaChoice String) :=
  [.plain, .plain, .plain, .time now, .plain, .plain]

/-- The DO row, then the write. -/
def handingOver : List (SagaChoice String) := [.plain, .plain]

/-- A claimed row, its action and what settles it, up to the last call before `advance`. -/
def working (now : Nat) (key : SagaStepKey) : List (SagaChoice String) :=
  [.time now, .claim [key], .plain, .outcome (.ok { outcome := .ok }), .plain, .plain, .plain]

/-- The calls of an event parked for, up to and including `markBuffered`. -/
def buffering : List (SagaChoice String) :=
  [.plain, .plain, .order ["i"], .time 0, .plain]

/-- A buffered event consumed for the step under the cursor. -/
def consuming : List (SagaChoice String) := [.plain, .plain, .plain]

def cursorOf (P : SagaPool demo) : Option Nat := (P.store.instances.get? "i").map (·.cursor)

def statusOf (P : SagaPool demo) : Option SagaInstanceStatus := P.store.statusOf "i"

end DddBoilerplate.Saga.Scenario
