/- module: DddBoilerplate/Import/Scenario
   generality: I
   digest: One job of one row, and words for the steps of a concrete run of it. -/

import DddBoilerplate.Import.Steps

set_option autoImplicit false
set_option relaxedAutoImplicit false
set_option linter.all false

open DddBoilerplate.Concurrency DddBoilerplate.Store

namespace DddBoilerplate.Import.Scenario

/-- A file of two columns and one row. -/
def sheet : ParsedSpreadsheet := ⟨["code", "name"], [⟨1, [("code", "A1"), ("name", "Bolt")]⟩]⟩

/-- One field, which the first column is an alias of. -/
def descriptor : ImportDescriptor := ⟨1, [⟨"sku", true, ["code"], "items.sku", none, none⟩], 10, 5⟩

def demo : Deployment where
  buildSha := "b"
  version? _ := some 1
  parseFile _ _ _ _ := .ok sheet
  toLowerCase s := s
  maxRows := 10
  validationChunkSize := 5
  executionChunkSize := 5
  reconciliationWindowMs := 1000
  lockTtlMs := 500

def uploaded : ImportJob where
  id := "j"
  tenantId := none
  entityKey := "item"
  status := .uploaded
  descriptorVersion := 1
  descriptorSnapshot := descriptor
  columnMapping := none
  counts := ⟨0, 0, 0, 0, 0⟩
  cancelRequested := false
  sourceStorageObjectId := some "o"
  buildSha := none
  heartbeatAt := none
  lockedUntil := none
  lockedBy := none

/-- The job was created, and nothing else was done. -/
def createdPool : Pool importSystem :=
  ⟨⟨⟨Table.empty.insert uploaded, Table.empty, [], []⟩, 0, []⟩, []⟩

theorem created_createdPool : Created createdPool.store.db := by
  have hjobs : createdPool.store.db.jobs.rows = [uploaded] := rfl
  refine ⟨?_, ?_, ?_, rfl, rfl, rfl⟩
  · intro job hjob
    rw [hjobs] at hjob
    rw [List.mem_singleton.mp hjob]
    exact .inr rfl
  · intro job hjob
    rw [hjobs] at hjob
    rw [List.mem_singleton.mp hjob]
    rfl
  · intro job hjob
    rw [hjobs] at hjob
    rw [List.mem_singleton.mp hjob]
    rfl

/-- Nothing is rejected, no row is locked, and the handler answers nothing. -/
def quiet : ImportChoice := ⟨none, 0, [], some ⟨"f", none⟩, ⟨[], none⟩, .ok [], .ok []⟩

/-- The handler says of the row that it is valid. -/
def judging : ImportChoice := { quiet with verdicts := .ok [⟨1, .valid, none⟩] }

/-- The handler says of the row that it was applied. -/
def applying : ImportChoice := { quiet with results := .ok [⟨1, .applied, none, none, none⟩] }

abbrev ImportMove := Move importSystem

def statement (thread : Nat) (choice : ImportChoice) : ImportMove :=
  .serve thread (.statement choice)

/-- So many statements, one after the other. -/
def statements (thread count : Nat) : List ImportMove := List.replicate count (statement thread quiet)

/-- A stage is delivered, acquires its lock under this owner and reads the job. -/
def delivering (thread : Nat) (stage : ImportStage) (owner : String) : List ImportMove :=
  ([.start (.delivery demo stage "j" 9), statement thread quiet, .serve thread (.randomUUID owner),
    .serve thread (.clock 0), .serve thread (.clock 0)] : List ImportMove) ++ statements thread 3

/-- The interval is cleared, the lock released, and the queue told. -/
def leaving (thread : Nat) : List ImportMove := statements thread 3

/-- The file is parsed, and its row stored. -/
def parsing (thread : Nat) (owner : String) : List ImportMove :=
  delivering thread .parse owner ++ statements thread 8 ++ leaving thread

/-- The mapping is replaced by this one. -/
def mapping (thread : Nat) (confirmed : ColumnMapping) : List ImportMove :=
  .start (.updateMapping "j" confirmed none) :: statements thread 4

end DddBoilerplate.Import.Scenario
