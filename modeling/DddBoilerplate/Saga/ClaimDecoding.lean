/- module: DddBoilerplate/Saga/ClaimDecoding
   generality: I
   digest: What the claiming statement's raw rows decode to, and what the fairness cap makes of them. -/

import DddBoilerplate.Saga.Repository

set_option autoImplicit false
set_option relaxedAutoImplicit false
set_option linter.all false

namespace DddBoilerplate.Saga.ClaimDecoding

open Store (Table)

section Columns

/-- The fields `toRecord` reads. -/
inductive StepColumn where
  | id | tenantId | companyId | instanceId | stepId | kind | action | status | attempt
  | maxAttempts | runAt | lockedBy | lockUntil | input | output | error
  deriving DecidableEq

namespace StepColumn

/-- The name of the field in `StepRaw` and in the Prisma model. -/
def property : StepColumn → String
  | id => "id"
  | tenantId => "tenantId"
  | companyId => "companyId"
  | instanceId => "instanceId"
  | stepId => "stepId"
  | kind => "kind"
  | action => "action"
  | status => "status"
  | attempt => "attempt"
  | maxAttempts => "maxAttempts"
  | runAt => "runAt"
  | lockedBy => "lockedBy"
  | lockUntil => "lockUntil"
  | input => "input"
  | output => "output"
  | error => "error"

/-- The name of the column in the table, as `@map` has it. -/
def physical : StepColumn → String
  | tenantId => "tenant_id"
  | companyId => "company_id"
  | instanceId => "instance_id"
  | stepId => "step_id"
  | maxAttempts => "max_attempts"
  | runAt => "run_at"
  | lockedBy => "locked_by"
  | lockUntil => "lock_until"
  | column => column.property

def all : List StepColumn :=
  [id, tenantId, companyId, instanceId, stepId, kind, action, status, attempt, maxAttempts, runAt,
    lockedBy, lockUntil, input, output, error]

end StepColumn

/-- What a column holds. -/
inductive Cell (J : Type) where
  | null
  | text (value : String)
  | number (value : Nat)
  | date (value : Nat)
  | kind (value : SagaStepKind)
  | status (value : SagaStepStatus)
  | json (value : J)
  deriving DecidableEq

/-- A row of `saga_steps`. -/
structure SagaStepRow (J : Type) where
  id : String
  tenantId : String
  companyId : String
  instanceId : String
  stepId : String
  kind : SagaStepKind
  action : Option String
  status : SagaStepStatus
  attempt : Nat
  maxAttempts : Nat
  runAt : Nat
  lockedBy : Option String
  lockUntil : Option Nat
  input : Option J
  output : Option J
  error : Option String
  deriving DecidableEq

variable {J : Type}

def Cell.ofOption {α : Type} (cell : α → Cell J) : Option α → Cell J
  | some value => cell value
  | none => .null

def SagaStepRow.cell (row : SagaStepRow J) : StepColumn → Cell J
  | .id => .text row.id
  | .tenantId => .text row.tenantId
  | .companyId => .text row.companyId
  | .instanceId => .text row.instanceId
  | .stepId => .text row.stepId
  | .kind => .kind row.kind
  | .action => .ofOption .text row.action
  | .status => .status row.status
  | .attempt => .number row.attempt
  | .maxAttempts => .number row.maxAttempts
  | .runAt => .date row.runAt
  | .lockedBy => .ofOption .text row.lockedBy
  | .lockUntil => .ofOption .date row.lockUntil
  | .input => .ofOption .json row.input
  | .output => .ofOption .json row.output
  | .error => .ofOption .text row.error

/-- An object of `$queryRaw`: its properties are named as the statement returns its columns. -/
abbrev StepRaw (J : Type) := List (String × Cell J)

/-- `RETURNING`, with the name it gives each column. -/
def returning (names : StepColumn → String) (row : SagaStepRow J) : StepRaw J :=
  StepColumn.all.map fun column => (names column, row.cell column)

/-- `row.property`; `none` is `undefined`. -/
def read (raw : StepRaw J) (column : StepColumn) : Option (Cell J) := raw.lookup column.property

/-- A decoded record, field by field. -/
abbrev SagaStepRecord (J : Type) := StepColumn → Option (Cell J)

/-- Only the two documents are brought from `undefined` to `null`. -/
def toRecord (raw : StepRaw J) : SagaStepRecord J
  | .input => some ((read raw .input).getD .null)
  | .output => some ((read raw .output).getD .null)
  | column => read raw column

/-- A statement that names its columns as the mapper reads them is decoded whole. -/
theorem read_returning_property (row : SagaStepRow J) (column : StepColumn) :
    read (returning StepColumn.property row) column = some (row.cell column) := by
  cases column <;> rfl

/-- `RETURNING *` keeps the columns whose name in the table is the name of the field. -/
theorem read_returning_physical (row : SagaStepRow J) (column : StepColumn) :
    read (returning StepColumn.physical row) column =
      if column.physical = column.property then some (row.cell column) else none := by
  cases column <;> rfl

theorem toRecord_returning_property (row : SagaStepRow J) (column : StepColumn) :
    toRecord (returning StepColumn.property row) column = some (row.cell column) := by
  cases column <;> rfl

theorem toRecord_returning_physical (row : SagaStepRow J) (column : StepColumn) :
    toRecord (returning StepColumn.physical row) column =
      if column.physical = column.property then some (row.cell column) else none := by
  cases column <;> rfl

end Columns

section Fairness

variable {α κ : Type} [BEq κ]

/-- The loop of `applyFairnessCap`, on rows of any type and their company as it is read. -/
def capRows (cap : Nat) (key : α → κ) : List α → List κ → List α × List α
  | [], _ => ([], [])
  | row :: rest, seen =>
    if cap ≤ seen.count (key row) then
      let (claimed, overflow) := capRows cap key rest seen
      (claimed, row :: overflow)
    else
      let (claimed, overflow) := capRows cap key rest (key row :: seen)
      (row :: claimed, overflow)

/-- A cap of zero or less is no cap. -/
def applyFairnessCap (cap : Nat) (key : α → κ) (rows : List α) : List α × List α :=
  if cap = 0 then (rows, []) else capRows cap key rows []

variable (cap : Nat) (key : α → κ)

theorem capRows_perm (rows : List α) (seen : List κ) :
    List.Perm ((capRows cap key rows seen).1 ++ (capRows cap key rows seen).2) rows := by
  induction rows generalizing seen with
  | nil => exact List.Perm.refl _
  | cons row rest ih =>
    unfold capRows
    split
    · exact List.perm_middle.trans ((ih seen).cons row)
    · exact (ih (key row :: seen)).cons row

theorem applyFairnessCap_perm (rows : List α) :
    List.Perm ((applyFairnessCap cap key rows).1 ++ (applyFairnessCap cap key rows).2) rows := by
  unfold applyFairnessCap
  split
  · rw [List.append_nil]
  · exact capRows_perm cap key rows []

theorem applyFairnessCap_ne_nil {rows : List α} (h : rows ≠ []) :
    (applyFairnessCap cap key rows).1 ≠ [] := by
  unfold applyFairnessCap
  split
  · exact h
  · rename_i hcap
    cases rows with
    | nil => exact absurd rfl h
    | cons row rest =>
      unfold capRows
      rw [if_neg (by simpa using hcap)]
      exact List.cons_ne_nil _ _

variable [LawfulBEq κ]

/-- No group is kept beyond the cap. -/
theorem count_claimed_le (rows : List α) (seen : List κ) (k : κ) (hseen : seen.count k ≤ cap) :
    ((capRows cap key rows seen).1.map key).count k + seen.count k ≤ cap := by
  induction rows generalizing seen with
  | nil => simpa [capRows] using hseen
  | cons row rest ih =>
    unfold capRows
    split
    · exact ih seen hseen
    · rename_i hroom
      have hstep : (key row :: seen).count k ≤ cap := by
        rw [List.count_cons]
        by_cases hk : key row = k
        · subst hk
          simp only [beq_self_eq_true, if_true]
          omega
        · simpa [hk] using hseen
      have hrest := ih (key row :: seen) hstep
      rw [List.count_cons] at hrest
      show ((row :: (capRows cap key rest (key row :: seen)).1).map key).count k + _ ≤ _
      rw [List.map_cons, List.count_cons]
      omega

/-- A row overflows only where its group is larger than the cap. -/
theorem cap_lt_of_overflow (rows : List α) (seen : List κ) {row : α}
    (h : row ∈ (capRows cap key rows seen).2) :
    cap < (rows.map key).count (key row) + seen.count (key row) := by
  induction rows generalizing seen with
  | nil => cases h
  | cons first rest ih =>
    unfold capRows at h
    rw [List.map_cons, List.count_cons]
    split at h
    · rename_i hfull
      rcases List.mem_cons.mp h with rfl | h
      · simp only [beq_self_eq_true, if_true]
        omega
      · have hrest := ih seen h
        omega
    · have hrest := ih (key first :: seen) h
      rw [List.count_cons] at hrest
      omega

end Fairness

section ClaimBatch

variable {J : Type}

abbrev StepTable (J : Type) := Table (SagaStepRow.id (J := J))

def claimable (now : Nat) (row : SagaStepRow J) : Bool :=
  row.status = .pending && (row.kind = .do_ || row.kind = .undo) && row.runAt ≤ now &&
    match row.lockUntil with
    | none => true
    | some until_ => until_ < now

def claimRow (input : ClaimStepsInput) (picked : List String) (row : SagaStepRow J) :
    SagaStepRow J :=
  if row.id ∈ picked then
    { row with
      status := .running, lockedBy := some input.workerId,
      lockUntil := some (input.now + input.leaseMs) }
  else row

def releaseRow (overflow : List (Option (Cell J))) [DecidableEq J] (row : SagaStepRow J) :
    SagaStepRow J :=
  if some (.text row.id) ∈ overflow then
    { row with status := .pending, lockedBy := none, lockUntil := none }
  else row

theorem claimRow_id (input : ClaimStepsInput) (picked : List String) (row : SagaStepRow J) :
    (claimRow input picked row).id = row.id := by
  unfold claimRow
  split <;> rfl

theorem claimRow_companyId (input : ClaimStepsInput) (picked : List String)
    (row : SagaStepRow J) : (claimRow input picked row).companyId = row.companyId := by
  unfold claimRow
  split <;> rfl

variable [DecidableEq J]

theorem releaseRow_id (overflow : List (Option (Cell J))) (row : SagaStepRow J) :
    (releaseRow overflow row).id = row.id := by
  unfold releaseRow
  split <;> rfl

theorem releaseRow_companyId (overflow : List (Option (Cell J))) (row : SagaStepRow J) :
    (releaseRow overflow row).companyId = row.companyId := by
  unfold releaseRow
  split <;> rfl

/-- The rows the inner `SELECT … FOR UPDATE SKIP LOCKED` may pick, and in what order they return. -/
structure Selects (table : StepTable J) (input : ClaimStepsInput) (picked : List String) : Prop where
  nodup : picked.Nodup
  batch : picked.length ≤ input.batchSize
  due : ∀ id ∈ picked, ∃ row, table.get? id = some row ∧ claimable input.now row = true

/-- The table behind the claiming statement. -/
def claimed (table : StepTable J) (input : ClaimStepsInput) (picked : List String) : StepTable J :=
  table.update (claimRow input picked) (claimRow_id input picked)

/-- The rows the claiming statement returns, as it names their columns. -/
def returned (names : StepColumn → String) (table : StepTable J) (input : ClaimStepsInput)
    (picked : List String) : List (StepRaw J) :=
  (picked.filterMap (claimed table input picked).get?).map (returning names)

/-- `claimBatch` with the statement's names for its columns: what it returns, and the table it
leaves. -/
def claimBatchAs (names : StepColumn → String) (table : StepTable J) (input : ClaimStepsInput)
    (picked : List String) : List (SagaStepRecord J) × StepTable J :=
  let capped :=
    applyFairnessCap input.fairnessCap (read · .companyId) (returned names table input picked)
  let overflow := capped.2.map (read · .id)
  (capped.1.map toRecord,
    (claimed table input picked).update (releaseRow overflow) (releaseRow_id overflow))

/-- The statement ends in `RETURNING *`. -/
def claimBatch (table : StepTable J) (input : ClaimStepsInput) (picked : List String) :
    List (SagaStepRecord J) × StepTable J :=
  claimBatchAs StepColumn.physical table input picked

/-- The stored company of a returned record. -/
def companyOf (after : StepTable J) (record : SagaStepRecord J) : Option String :=
  match record .id with
  | some (.text id) => (after.get? id).map (·.companyId)
  | _ => none

/-- A record of this id was returned. -/
def IsReturned (records : List (SagaStepRecord J)) (id : String) : Prop :=
  ∃ record ∈ records, record .id = some (.text id)

/-- What a claim is to return: the stored rows field by field, no company above the cap, no row
of a company within it lost, and what is not returned given back. -/
structure ReturnsClaimed (input : ClaimStepsInput) (picked : List String)
    (records : List (SagaStepRecord J)) (after : StepTable J) : Prop where
  stored : ∀ record ∈ records, ∃ row ∈ after.rows, record .id = some (.text row.id) ∧
    ∀ column, record column = some (row.cell column)
  capped : 0 < input.fairnessCap → ∀ company,
    (records.map (companyOf after)).count (some company) ≤ input.fairnessCap
  kept : 0 < input.fairnessCap → ∀ company,
    (picked.map fun id => (after.get? id).map (·.companyId)).count (some company) <
      input.fairnessCap →
    ∀ id ∈ picked, (after.get? id).map (·.companyId) = some company → IsReturned records id
  released : ∀ id ∈ picked, ¬IsReturned records id → ∃ row, after.get? id = some row ∧
    row.status = .pending ∧ row.lockedBy = none ∧ row.lockUntil = none

variable {table : StepTable J} {input : ClaimStepsInput} {picked : List String}

/-- The rows picked, as they are stored behind the claiming statement. -/
theorem stored_of_selects (h : Selects table input picked) :
    ∃ rows : List (SagaStepRow J), picked.filterMap (claimed table input picked).get? = rows ∧
      rows.map (·.id) = picked ∧ ∀ row ∈ rows, (claimed table input picked).get? row.id = some row := by
  refine ⟨_, rfl, ?_, fun row hrow => ?_⟩
  · have hget : ∀ id ∈ picked, ∃ row, (claimed table input picked).get? id = some row := by
      intro id hid
      obtain ⟨row, hrow, _⟩ := h.due id hid
      exact ⟨claimRow input picked row, by rw [claimed, Table.get?_update, hrow]; rfl⟩
    generalize (claimed table input picked) = after at hget
    clear h
    induction picked with
    | nil => rfl
    | cons id rest ih =>
      obtain ⟨row, hrow⟩ := hget id List.mem_cons_self
      have hrest := ih fun id hid => hget id (List.mem_cons_of_mem _ hid)
      rw [List.filterMap_cons_some hrow, List.map_cons, hrest, Table.key_of_get? hrow]
  · obtain ⟨id, _, hrow⟩ := List.mem_filterMap.mp hrow
    rw [Table.key_of_get? hrow]
    exact hrow

/-- Both namings leave the id its name. -/
def NamesId (names : StepColumn → String) : Prop :=
  ∀ row : SagaStepRow J, read (returning names row) .id = some (.text row.id)

theorem toRecord_id (raw : StepRaw J) : toRecord raw .id = read raw .id := rfl

theorem get?_claimBatchAs (names : StepColumn → String) (id : String) :
    (claimBatchAs names table input picked).2.get? id =
      ((claimed table input picked).get? id).map
        (releaseRow ((applyFairnessCap input.fairnessCap (read · .companyId)
          (returned names table input picked)).2.map (read · .id))) :=
  Table.get?_update (releaseRow_id _) id

/-- The ids read off the returned rows are the picked ones, each once. -/
theorem ids_returned {names : StepColumn → String} (hnames : NamesId (J := J) names)
    (h : Selects table input picked) :
    (returned names table input picked).map (read · .id) =
      picked.map fun id => some (.text id) := by
  obtain ⟨rows, hrows, hids, _⟩ := stored_of_selects h
  rw [returned, hrows, List.map_map, ← hids, List.map_map]
  exact List.map_congr_left fun row _ => hnames row

theorem nodup_ids_returned {names : StepColumn → String} (hnames : NamesId (J := J) names)
    (h : Selects table input picked) :
    ((returned names table input picked).map (read · .id)).Nodup := by
  rw [ids_returned hnames h]
  refine h.nodup.map fun first second heq => ?_
  cases heq
  rfl

/-- The rows over the cap go back, whatever the cap read: their ids are decoded. -/
theorem released_claimBatchAs {names : StepColumn → String} (hnames : NamesId (J := J) names)
    (h : Selects table input picked) {id : String} (hid : id ∈ picked)
    (hmissed : ¬IsReturned (claimBatchAs names table input picked).1 id) :
    ∃ row, (claimBatchAs names table input picked).2.get? id = some row ∧
      row.status = .pending ∧ row.lockedBy = none ∧ row.lockUntil = none := by
  have hmem : some (.text id) ∈ (returned names table input picked).map (read · .id) := by
    rw [ids_returned hnames h]
    exact List.mem_map_of_mem (f := fun id => some (Cell.text id)) hid
  obtain ⟨raw, hraw, hread⟩ := List.mem_map.mp hmem
  have hsplit := (applyFairnessCap_perm input.fairnessCap (read · .companyId)
    (returned names table input picked)).mem_iff.mpr hraw
  rcases List.mem_append.mp hsplit with hkept | hover
  · exact absurd ⟨toRecord raw, List.mem_map_of_mem hkept, hread⟩ hmissed
  · obtain ⟨row, hrow, _⟩ := h.due id hid
    have hstored : (claimed table input picked).get? id = some (claimRow input picked row) := by
      rw [claimed, Table.get?_update, hrow]
      rfl
    refine ⟨_, (get?_claimBatchAs names id).trans (by rw [hstored]; rfl), ?_⟩
    have hkey : (claimRow input picked row).id = id := Table.key_of_get? hstored
    have hin : some (.text (claimRow input picked row).id) ∈
        (applyFairnessCap input.fairnessCap (read · .companyId)
          (returned names table input picked)).2.map (read · .id) := by
      rw [hkey, ← hread]
      exact List.mem_map_of_mem hover
    unfold releaseRow
    rw [if_pos hin]
    exact ⟨rfl, rfl, rfl⟩

/-- A returned row is not over the cap as well, and stands as it was returned. -/
theorem stored_claimBatchAs {names : StepColumn → String} (hnames : NamesId (J := J) names)
    (h : Selects table input picked) {raw : StepRaw J}
    (hraw : raw ∈ (applyFairnessCap input.fairnessCap (read · .companyId)
      (returned names table input picked)).1) :
    ∃ row, raw = returning names row ∧
      (claimBatchAs names table input picked).2.get? row.id = some row := by
  have hperm := applyFairnessCap_perm input.fairnessCap (read · .companyId)
    (returned names table input picked)
  have hnodup := (hperm.map (read · .id)).nodup_iff.mpr (nodup_ids_returned hnames h)
  rw [List.map_append, List.nodup_append] at hnodup
  obtain ⟨rows, hrows, hids, hstored⟩ := stored_of_selects h
  have hmem := hperm.mem_iff.mp (List.mem_append_left _ hraw)
  rw [returned, hrows] at hmem
  obtain ⟨row, hrow, rfl⟩ := List.mem_map.mp hmem
  refine ⟨row, rfl, ?_⟩
  rw [get?_claimBatchAs, hstored row hrow, Option.map_some]
  unfold releaseRow
  rw [if_neg]
  intro hover
  exact hnodup.2.2 _ (List.mem_map_of_mem (f := (read · .id)) hraw) _ hover (hnames row)

theorem companyId_claimBatchAs {names : StepColumn → String} {row : SagaStepRow J} {id : String}
    (h : (claimed table input picked).get? id = some row) :
    ((claimBatchAs names table input picked).2.get? id).map (·.companyId) =
      some row.companyId := by
  rw [get?_claimBatchAs, h, Option.map_some, Option.map_some, releaseRow_companyId]

theorem companies_claimBatchAs {names : StepColumn → String} {rows : List (SagaStepRow J)}
    (hids : rows.map (·.id) = picked)
    (hstored : ∀ row ∈ rows, (claimed table input picked).get? row.id = some row) :
    (picked.map fun id =>
      ((claimBatchAs names table input picked).2.get? id).map (·.companyId)) =
      rows.map fun row => some row.companyId := by
  have hmap : ∀ ids : List String, rows.map (·.id) = ids →
      (ids.map fun id => ((claimBatchAs names table input picked).2.get? id).map (·.companyId)) =
        rows.map fun row => some row.companyId := by
    rintro _ rfl
    rw [List.map_map]
    exact List.map_congr_left fun row hrow => companyId_claimBatchAs (hstored row hrow)
  exact hmap picked hids

/-- With its columns named as the mapper reads them, the claim returns what it claimed. -/
theorem claimBatchAs_property (h : Selects table input picked) :
    ReturnsClaimed input picked (claimBatchAs StepColumn.property table input picked).1
      (claimBatchAs StepColumn.property table input picked).2 := by
  have hnames : NamesId (J := J) StepColumn.property := fun row => read_returning_property row .id
  obtain ⟨rows, hrows, hids, hstored⟩ := stored_of_selects h
  have hreturned : returned StepColumn.property table input picked =
      rows.map (returning StepColumn.property) := by rw [returned, hrows]
  -- the company the cap reads is the stored one
  have hcompany : ∀ raw ∈ (applyFairnessCap input.fairnessCap (read · .companyId)
      (returned StepColumn.property table input picked)).1, ∀ company,
      companyOf (claimBatchAs StepColumn.property table input picked).2 (toRecord raw) =
        some company ↔ read raw .companyId = some (.text company) := by
    intro raw hraw company
    obtain ⟨row, rfl, hget⟩ := stored_claimBatchAs hnames h hraw
    unfold companyOf
    rw [toRecord_id, hnames row]
    simp only [hget, Option.map_some, read_returning_property, SagaStepRow.cell,
      Option.some.injEq, Cell.text.injEq]
  refine ⟨?_, ?_, ?_, fun id hid => released_claimBatchAs hnames h hid⟩
  · intro record hrecord
    obtain ⟨raw, hraw, rfl⟩ := List.mem_map.mp hrecord
    obtain ⟨row, rfl, hget⟩ := stored_claimBatchAs hnames h hraw
    exact ⟨row, Table.mem_of_get? hget, hnames row, toRecord_returning_property row⟩
  · intro hcap company
    have hcount := count_claimed_le input.fairnessCap (read · .companyId)
      (returned StepColumn.property table input picked) [] (some (.text company)) (Nat.zero_le _)
    have hsame : applyFairnessCap input.fairnessCap (read · .companyId)
        (returned StepColumn.property table input picked) = capRows input.fairnessCap
          (read · .companyId) (returned StepColumn.property table input picked) [] := by
      rw [applyFairnessCap, if_neg (Nat.ne_of_gt hcap)]
    rw [← hsame, List.count_nil, Nat.add_zero, List.count_eq_countP, List.countP_map] at hcount
    refine le_trans (le_of_eq ?_) hcount
    show (((applyFairnessCap input.fairnessCap (read · .companyId)
      (returned StepColumn.property table input picked)).1.map toRecord).map _).count _ = _
    rw [List.map_map, List.count_eq_countP, List.countP_map]
    refine List.countP_congr fun raw hraw => ?_
    simpa using hcompany raw hraw company
  · intro hcap company hfew id hid hstays
    have hmem : some (.text id) ∈
        (returned StepColumn.property table input picked).map (read · .id) := by
      rw [ids_returned hnames h]
      exact List.mem_map_of_mem (f := fun id => some (Cell.text id)) hid
    obtain ⟨raw, hraw, hread⟩ := List.mem_map.mp hmem
    have hsplit := (applyFairnessCap_perm input.fairnessCap (read · .companyId)
      (returned StepColumn.property table input picked)).mem_iff.mpr hraw
    rcases List.mem_append.mp hsplit with hkept | hover
    · exact ⟨toRecord raw, List.mem_map_of_mem hkept, hread⟩
    · exfalso
      rw [applyFairnessCap, if_neg (Nat.ne_of_gt hcap)] at hover
      have hmany := cap_lt_of_overflow _ _ _ [] hover
      rw [hreturned] at hraw
      obtain ⟨row, hrow, rfl⟩ := List.mem_map.mp hraw
      rw [hnames row] at hread
      have hrowid : row.id = id := by
        cases hread
        rfl
      rw [← hrowid, companyId_claimBatchAs (hstored row hrow)] at hstays
      have hrowcompany : row.companyId = company := Option.some.inj hstays
      have hcounts : (picked.map fun id =>
          ((claimBatchAs StepColumn.property table input picked).2.get? id).map
            (·.companyId)).count (some company) =
          ((returned StepColumn.property table input picked).map (read · .companyId)).count
            (some (.text company)) := by
        rw [companies_claimBatchAs hids hstored, hreturned, List.map_map, List.count_eq_countP,
          List.count_eq_countP, List.countP_map, List.countP_map]
        refine List.countP_congr fun row' _ => ?_
        simp [read_returning_property, SagaStepRow.cell]
      rw [List.count_nil, Nat.add_zero, read_returning_property] at hmany
      simp only [SagaStepRow.cell, hrowcompany] at hmany
      omega

/-- A claim returns what it claimed exactly when it claimed nothing: `RETURNING *` names the
columns as the table does, and the tenant of every record is undefined. -/
theorem claimBatch_returnsClaimed_iff (table : StepTable J) (input : ClaimStepsInput)
    (picked : List String) (h : Selects table input picked) :
    ReturnsClaimed input picked (claimBatch table input picked).1
      (claimBatch table input picked).2 ↔ picked = [] := by
  have hnames : NamesId (J := J) StepColumn.physical := fun row => read_returning_physical row .id
  constructor
  · intro hreturns
    by_contra hpicked
    have hsome : returned StepColumn.physical table input picked ≠ [] := by
      intro hnone
      have hids := ids_returned hnames h
      rw [hnone, List.map_nil] at hids
      exact hpicked (List.map_eq_nil_iff.mp hids.symm)
    obtain ⟨raw, hraw⟩ := List.exists_mem_of_ne_nil _
      (applyFairnessCap_ne_nil input.fairnessCap (read · .companyId) hsome)
    obtain ⟨row, rfl, -⟩ := stored_claimBatchAs hnames h hraw
    obtain ⟨row', -, -, hfields⟩ := hreturns.stored _ (List.mem_map_of_mem hraw)
    have htenant := hfields .tenantId
    rw [toRecord_returning_physical] at htenant
    cases htenant
  · rintro rfl
    have hrecords : (claimBatch table input []).1 = [] := by
      show ((applyFairnessCap input.fairnessCap (read · .companyId) []).1.map toRecord) = []
      unfold applyFairnessCap
      split <;> rfl
    rw [hrecords]
    exact {
      stored := fun _ hmem => nomatch hmem
      capped := fun _ _ => Nat.zero_le _
      kept := fun _ _ _ _ hmem => nomatch hmem
      released := fun _ hmem => nomatch hmem }

end ClaimBatch

section Scenario

def dueStep (id companyId : String) (runAt : Nat) : SagaStepRow Unit where
  id := id
  tenantId := "tenant"
  companyId := companyId
  instanceId := "instance"
  stepId := "reserve"
  kind := .do_
  action := some "stock.reserve"
  status := .pending
  attempt := 0
  maxAttempts := 3
  runAt := runAt
  lockedBy := none
  lockUntil := none
  input := none
  output := none
  error := none

/-- Two due steps of one company, one of another. -/
def dueSteps : StepTable Unit :=
  ⟨[dueStep "a" "acme" 1, dueStep "b" "acme" 2, dueStep "c" "globex" 3], by decide⟩

def claimTwoEach : ClaimStepsInput :=
  { now := 10, leaseMs := 1000, batchSize := 10, workerId := "worker", fairnessCap := 2 }

theorem selects_dueSteps : Selects dueSteps claimTwoEach ["a", "b", "c"] where
  nodup := by decide
  batch := by decide
  due := by
    intro id hid
    simp only [List.mem_cons, List.not_mem_nil, or_false] at hid
    rcases hid with rfl | rfl | rfl
    · exact ⟨dueStep "a" "acme" 1, by decide, by decide⟩
    · exact ⟨dueStep "b" "acme" 2, by decide, by decide⟩
    · exact ⟨dueStep "c" "globex" 3, by decide, by decide⟩

/-- Three due rows, none of them returned as stored. -/
theorem claims_undecoded :
    ¬(ReturnsClaimed claimTwoEach ["a", "b", "c"]
      (claimBatch dueSteps claimTwoEach ["a", "b", "c"]).1
      (claimBatch dueSteps claimTwoEach ["a", "b", "c"]).2) := by
  intro h
  exact absurd ((claimBatch_returnsClaimed_iff dueSteps claimTwoEach ["a", "b", "c"]
    selects_dueSteps).mp h) (by decide)

def readFields (record : SagaStepRecord Unit) : List (Option (Cell Unit)) :=
  [record .id, record .tenantId, record .instanceId, record .stepId, record .lockUntil]

/-- The records lack their tenant, instance, step and lease, and the other company's only row is
over a cap of two. -/
theorem claim_loses_fields_and_rows :
    (claimBatch dueSteps claimTwoEach ["a", "b", "c"]).1.map readFields =
      [[some (.text "a"), none, none, none, none], [some (.text "b"), none, none, none, none]] ∧
    ¬ReturnsClaimed claimTwoEach ["a", "b", "c"]
      (claimBatch dueSteps claimTwoEach ["a", "b", "c"]).1
      (claimBatch dueSteps claimTwoEach ["a", "b", "c"]).2 := by
  have hrecords : (claimBatch dueSteps claimTwoEach ["a", "b", "c"]).1.map readFields =
      [[some (.text "a"), none, none, none, none], [some (.text "b"), none, none, none, none]] := by
    decide
  refine ⟨hrecords, fun h => ?_⟩
  obtain ⟨record, hrecord, hid⟩ := h.kept (by decide) "globex" (by decide) "c" (by decide)
    (by decide)
  have hmem := List.mem_map_of_mem (f := readFields) hrecord
  rw [hrecords] at hmem
  simp [readFields, hid] at hmem

end Scenario

end DddBoilerplate.Saga.ClaimDecoding
