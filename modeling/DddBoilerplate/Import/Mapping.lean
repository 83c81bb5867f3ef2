/- module: DddBoilerplate/Import/Mapping
   generality: I
   digest: The mapping a row was stored under, against the mapping that was confirmed. -/

import DddBoilerplate.Import.Scenario

set_option autoImplicit false
set_option relaxedAutoImplicit false
set_option linter.all false

namespace DddBoilerplate.Import

open Concurrency Store ImportFileParser

section Records

/-- Objects with the same entries, in whatever order. -/
def SameRecord (m m' : Record) : Prop := ∀ key, m.get? key = m'.get? key

variable {m m' : Record} {n : Nat}

theorem lookup_map_text (key : String) :
    (m.map fun entry => (entry.1, Cell.text entry.2)).lookup key = (m.get? key).map Cell.text := by
  induction m with
  | nil => rfl
  | cons entry m ih =>
    obtain ⟨first, value⟩ := entry
    simp only [List.map_cons, Record.get?, List.lookup_cons] at ih ⊢
    cases hkey : key == first with
    | true => rfl
    | false => exact ih

theorem any_key_iff (key : String) : m.any (·.1 = key) = (m.get? key).isSome := by
  induction m with
  | nil => rfl
  | cons entry m ih =>
    obtain ⟨first, value⟩ := entry
    simp only [List.any_cons, Record.get?, List.lookup_cons] at ih ⊢
    by_cases hkey : key = first
    · subst hkey
      simp
    · have hother : ¬ first = key := fun heq => hkey heq.symm
      have hfalse : (key == first) = false := by simpa using hkey
      simp only [hother, decide_false, Bool.false_or, hfalse]
      exact ih

/-- The mapped fields, and the row's number where none of them has its name. -/
theorem lookup_rowPayload (key : String) :
    (rowPayload n m).lookup key = ((m.get? key).map Cell.text).or
      (if key = "rowNumber" then some (.number n) else none) := by
  unfold rowPayload
  rw [any_key_iff]
  cases hnumber : m.get? "rowNumber" with
  | some value =>
    rw [Option.isSome_some, if_pos rfl, lookup_map_text]
    split
    · rename_i hkey
      rw [hkey, hnumber]
      rfl
    · rw [Option.or_none]
  | none =>
    rw [Option.isSome_none, if_neg Bool.false_ne_true, List.lookup_cons]
    by_cases hkey : key = "rowNumber"
    · subst hkey
      rw [hnumber]
      simp
    · have hfalse : (key == "rowNumber") = false := by simpa using hkey
      rw [hfalse, lookup_map_text, if_neg hkey, Option.or_none]

/-- A payload says no less of a row than the record it was made of. -/
theorem payloads_agree_iff :
    (∀ key, (rowPayload n m).lookup key = (rowPayload n m').lookup key) ↔ SameRecord m m' := by
  constructor
  · intro h key
    have hkey := h key
    rw [lookup_rowPayload, lookup_rowPayload] at hkey
    cases hm : m.get? key with
    | none =>
      cases hm' : m'.get? key with
      | none => rfl
      | some value =>
        rw [hm, hm'] at hkey
        split at hkey
        · cases hkey
        · cases hkey
    | some value =>
      cases hm' : m'.get? key with
      | none =>
        rw [hm, hm'] at hkey
        split at hkey
        · cases hkey
        · cases hkey
      | some value' =>
        rw [hm, hm'] at hkey
        cases hkey
        rfl
  · intro h key
    rw [lookup_rowPayload, lookup_rowPayload, h key]

end Records

section Origins

variable {ok : Pool importSystem → Label importSystem → Prop} {P Q : Pool importSystem}
variable {trace : List (Label importSystem)} {row row' : ImportJobRow} {suggestion : ColumnMapping}

/-- A parse along the trace suggested this mapping, and stored the row under it. -/
def ParsedUnder (trace : List (Label importSystem)) (row : ImportJobRow)
    (suggestion : ColumnMapping) : Prop :=
  ∃ i deployment stage jobId passes job sheet,
    (entries trace)[i]? = some (.delivery deployment stage jobId passes) ∧
      Parsed deployment job sheet (calls i trace) ∧ suggestion = suggested deployment job sheet ∧
        ∃ source ∈ sheet.rows, (parsedRow job suggestion source).SameSource row

theorem ParsedUnder.append {l : Label importSystem} (h : ParsedUnder trace row suggestion) :
    ParsedUnder (trace ++ [l]) row suggestion := by
  obtain ⟨i, deployment, stage, jobId, passes, job, sheet, he, hparsed, hrest⟩ := h
  obtain ⟨asked, storageKey, downloaded, contentType, hread, hdownload, hfile⟩ := hparsed
  exact ⟨i, deployment, stage, jobId, passes, job, sheet, entry_append he, ⟨asked, storageKey,
    downloaded, contentType, mem_calls_append hread, mem_calls_append hdownload, hfile⟩, hrest⟩

theorem ParsedUnder.sameSource (h : ParsedUnder trace row suggestion) (hsame : row.SameSource row') :
    ParsedUnder trace row' suggestion := by
  obtain ⟨i, deployment, stage, jobId, passes, job, sheet, he, hparsed, hsuggested, source, hsource,
    hrow⟩ := h
  exact ⟨i, deployment, stage, jobId, passes, job, sheet, he, hparsed, hsuggested, source, hsource,
    hrow.trans hsame⟩

/-- What a row carries is what the suggestion made of its columns. -/
theorem ParsedUnder.mappedPayload (h : ParsedUnder trace row suggestion) :
    row.mappedPayload = applyMapping row.rawPayload suggestion := by
  obtain ⟨_, _, _, _, _, _, _, _, _, _, source, _, hsame⟩ := h
  rw [hsame.mappedPayload, hsame.rawPayload]
  rfl

/-- Every row of the table was stored by a parse. -/
theorem rows_parsed (hrun : Run ok P trace Q) (hidle : P.threads = [])
    (hcreated : Created P.store.db) (hrow : row ∈ Q.store.db.rows.rows) :
    ∃ suggestion, ParsedUnder trace row suggestion := by
  induction hrun generalizing row with
  | nil =>
    rw [hcreated.rows] at hrow
    cases hrow
  | @snoc trace Q R l hrun _ hstep ih =>
    rcases executed_of_step hstep with hsame | ⟨i, q, a, f, choice, rfl, _, hexecute⟩
    · rw [hsame] at hrow
      obtain ⟨suggestion, h⟩ := ih hrow
      exact ⟨suggestion, h.append⟩
    · rw [hexecute] at hrow
      rcases mem_rows_execute hrow with hadded | ⟨old, hold, _, rfl⟩
      · cases q with
        | bulkInsert rows =>
          obtain ⟨e, he, hbecause⟩ := because_of_entry accounted_import hrun hidle hstep
          obtain ⟨deployment, stage, jobId, passes, job, sheet, rfl, hparsed, hrows⟩ := hbecause
          obtain ⟨source, hsource, rfl⟩ := hrows row hadded
          have hunder : ParsedUnder trace (parsedRow job (suggested deployment job sheet) source)
              (suggested deployment job sheet) :=
            ⟨i, deployment, stage, jobId, passes, job, sheet, he, hparsed, rfl, source, hsource,
              ⟨rfl, rfl, rfl, rfl⟩⟩
          exact ⟨_, hunder.append⟩
        | _ => cases hadded
      · obtain ⟨suggestion, h⟩ := ih hold
        exact ⟨suggestion, h.append.sameSource (sameSource_onRow old)⟩

theorem mem_firstRows {limit : Nat} {rows : List ImportJobRow}
    (h : row ∈ ImportDb.firstRows limit rows) : row ∈ rows :=
  (List.mem_insertionSort _).mp (List.mem_of_mem_take h)

theorem mem_rowsOf {db : ImportDb} {jobId : String} :
    row ∈ db.rowsOf jobId ↔ row ∈ db.rows.rows ∧ row.importJobId = jobId := by
  unfold ImportDb.rowsOf
  rw [List.mem_filter, decide_eq_true_eq]

/-- A statement that reads rows for a stage answered with this one. -/
def Reads (row : ImportJobRow) : (q : ImportStatement) → q.Answer → Prop
  | .listPendingValidation _ _, .ok rows => row ∈ rows
  | .claimForExecution _ _, .ok rows => row ∈ rows
  | _, _ => False

theorem stored_of_reads {q : ImportStatement} {a : q.Answer} {i : Nat}
    {f : Front ImportStatement.interface.world} {R : Pool importSystem}
    (hstep : Step importSystem Q (.served i (.statement q) a f) R) (h : Reads row q a) :
    ∃ old ∈ Q.store.db.rows.rows, old.SameSource row := by
  cases q with
  | listPendingValidation jobId limit =>
    cases a with
    | error error => cases h
    | ok rows =>
      obtain ⟨choice, hanswer, _⟩ := executed_of_served hstep fun error heq => by cases heq
      cases hanswer
      have hmem := (List.mem_filter.mp (mem_firstRows h)).1
      exact ⟨row, (mem_rowsOf.mp hmem).1, ⟨rfl, rfl, rfl, rfl⟩⟩
  | claimForExecution jobId limit =>
    cases a with
    | error error => cases h
    | ok rows =>
      obtain ⟨choice, hanswer, _⟩ := executed_of_served hstep fun error heq => by cases heq
      cases hanswer
      obtain ⟨old, hold, rfl⟩ := List.mem_map.mp h
      have hmem := (List.mem_filter.mp (mem_firstRows hold)).1
      exact ⟨old, (mem_rowsOf.mp hmem).1, ⟨rfl, rfl, rfl, rfl⟩⟩
  | _ => cases h

/-- Every row a stage read was stored by a parse. -/
theorem reads_parsed (hrun : Run ok P trace Q) (hidle : P.threads = [])
    (hcreated : Created P.store.db) {i : Nat} {q : ImportStatement} {a : q.Answer}
    {f : Front ImportStatement.interface.world} (hmem : .served i (.statement q) a f ∈ trace)
    (h : Reads row q a) : ∃ suggestion, ParsedUnder trace row suggestion := by
  induction hrun with
  | nil => cases hmem
  | snoc hrun _ hstep ih =>
    rcases List.mem_append.mp hmem with hmem | hmem
    · obtain ⟨suggestion, hparsed⟩ := ih hmem
      exact ⟨suggestion, hparsed.append⟩
    · obtain rfl := List.mem_singleton.mp hmem
      obtain ⟨old, hold, hsame⟩ := stored_of_reads hstep h
      obtain ⟨suggestion, hparsed⟩ := rows_parsed hrun hidle hcreated hold
      exact ⟨suggestion, hparsed.append.sameSource hsame⟩

theorem rowsRead_parsed (hrun : Run ok P trace Q) (hidle : P.threads = [])
    (hcreated : Created P.store.db) {i : Nat} {jobId : String} {rows : List ImportJobRow}
    (h : RowsRead jobId rows (calls i trace)) (hrow : row ∈ rows) :
    ∃ suggestion, ParsedUnder trace row suggestion := by
  obtain ⟨limit, hread | hread⟩ := h
  · obtain ⟨f, hmem⟩ := mem_calls.mp hread
    exact reads_parsed hrun hidle hcreated hmem hrow
  · obtain ⟨f, hmem⟩ := mem_calls.mp hread
    exact reads_parsed hrun hidle hcreated hmem hrow

end Origins

section Governing

variable {P Q : Pool importSystem} {trace : List (Label importSystem)}

/-- A request to replace the mapping of a job was accepted: it took the job to its validation. -/
def Accepted (trace : List (Label importSystem)) (jobId : String) (mapping : ColumnMapping) : Prop :=
  ∃ i tenantId, (entries trace)[i]? = some (.updateMapping jobId mapping tenantId) ∧
    ⟨.statement (.transitionStatus jobId [.mapped] .validating), .ok ()⟩ ∈ calls i trace

/-- A call read the row to validate it, and so checked its structure. -/
def Checked (jobId : String) (row : ImportJobRow) (h : List ImportCall) : Prop :=
  ∃ limit rows, ⟨.statement (.listPendingValidation jobId limit), .ok rows⟩ ∈ h ∧ row ∈ rows

/-- The handler is given these payloads. -/
def Given (payloads : List RowPayload) (h : List ImportCall) : Prop :=
  (∃ verdicts, ⟨.statement (.validateBatch payloads), verdicts⟩ ∈ h) ∨
    ∃ results, ⟨.statement (.executeBatch payloads), results⟩ ∈ h

/-- A call read the row, to validate or to execute it, and gave its payload to the handler. -/
def HandedOver (jobId : String) (row : ImportJobRow) (h : List ImportCall) : Prop :=
  ∃ rows payloads, RowsRead jobId rows h ∧ row ∈ rows ∧ Given payloads h ∧ row.payload ∈ payloads

/-- The structure of the row is checked, and the row handed over, as this mapping has it. -/
structure Carries (mapping : ColumnMapping) (row : ImportJobRow) : Prop where
  checked : SameRecord row.mappedPayload (applyMapping row.rawPayload mapping)
  handed : ∀ key, row.payload.lookup key =
    (rowPayload row.rowNumber (applyMapping row.rawPayload mapping)).lookup key

/-- Whatever of the job is validated or executed carries the mapping that was confirmed. -/
def Governs (trace : List (Label importSystem)) : Prop :=
  ∀ jobId mapping, Accepted trace jobId mapping → ∀ i row,
    Checked jobId row (calls i trace) ∨ HandedOver jobId row (calls i trace) → Carries mapping row

/-- On the columns of these rows, the confirmed mapping is no other than the suggested one. -/
def ConfirmsSuggestion (trace : List (Label importSystem)) : Prop :=
  ∀ jobId mapping, Accepted trace jobId mapping → ∀ i row,
    Checked jobId row (calls i trace) ∨ HandedOver jobId row (calls i trace) →
      ∃ suggestion, ParsedUnder trace row suggestion ∧
        SameRecord (applyMapping row.rawPayload suggestion) (applyMapping row.rawPayload mapping)

theorem carries_iff {mapping : ColumnMapping} {row : ImportJobRow} :
    Carries mapping row ↔ SameRecord row.mappedPayload (applyMapping row.rawPayload mapping) :=
  ⟨Carries.checked, fun h => ⟨h, payloads_agree_iff.mpr h⟩⟩

theorem parsed_of_shown (hrun : Run (fun _ _ => True) P trace Q) (hidle : P.threads = [])
    (hcreated : Created P.store.db) {i : Nat} {jobId : String} {row : ImportJobRow}
    (h : Checked jobId row (calls i trace) ∨ HandedOver jobId row (calls i trace)) :
    ∃ suggestion, ParsedUnder trace row suggestion := by
  rcases h with ⟨limit, rows, hread, hrow⟩ | ⟨rows, _, hread, hrow, _⟩
  · exact rowsRead_parsed hrun hidle hcreated ⟨limit, .inl hread⟩ hrow
  · exact rowsRead_parsed hrun hidle hcreated hread hrow

/-- A payload given to the handler is that of a row the same call had read. -/
theorem handedOver_of_given (hrun : Run (fun _ _ => True) P trace Q) (hidle : P.threads = [])
    {i : Nat} {payloads : List RowPayload} {payload : RowPayload}
    (hgiven : Given payloads (calls i trace)) (hpayload : payload ∈ payloads) :
    ∃ jobId row, HandedOver jobId row (calls i trace) ∧ payload = row.payload := by
  have hhanded : ∃ earlier, (∀ call ∈ earlier, call ∈ calls i trace) ∧ Handed payloads earlier := by
    rcases hgiven with ⟨verdicts, hcall⟩ | ⟨results, hcall⟩
    · obtain ⟨f, hmem⟩ := mem_calls.mp hcall
      obtain ⟨_, _, earlier, hearlier, h⟩ := because_of_call accounted_import hrun hidle hmem
      exact ⟨earlier, hearlier, h⟩
    · obtain ⟨f, hmem⟩ := mem_calls.mp hcall
      obtain ⟨_, _, earlier, hearlier, h⟩ := because_of_call accounted_import hrun hidle hmem
      exact ⟨earlier, hearlier, h⟩
  obtain ⟨earlier, hearlier, jobId, rows, ⟨limit, hread⟩, hrows⟩ := hhanded
  obtain ⟨row, hrow, rfl⟩ := hrows payload hpayload
  have hread' : RowsRead jobId rows (calls i trace) :=
    ⟨limit, hread.imp (hearlier _) (hearlier _)⟩
  exact ⟨jobId, row, ⟨rows, payloads, hread', hrow, hgiven, hpayload⟩, rfl⟩

/-- The confirmed mapping governs what is validated and executed exactly when it makes of each row
what the suggested one made of it; and nothing but the rows a call read is handed to the handler. -/
theorem confirmed_mapping_governs_iff (hrun : Run (fun _ _ => True) P trace Q)
    (hidle : P.threads = []) (hcreated : Created P.store.db) :
    (∀ i payloads, Given payloads (calls i trace) → ∀ payload ∈ payloads,
      ∃ jobId row, HandedOver jobId row (calls i trace) ∧ payload = row.payload) ∧
    (Governs trace ↔ ConfirmsSuggestion trace) := by
  refine ⟨fun i payloads hgiven payload => handedOver_of_given hrun hidle hgiven, ?_⟩
  constructor
  · intro hgoverns jobId mapping haccepted i row hshown
    obtain ⟨suggestion, hparsed⟩ := parsed_of_shown hrun hidle hcreated hshown
    refine ⟨suggestion, hparsed, ?_⟩
    rw [← hparsed.mappedPayload]
    exact (hgoverns jobId mapping haccepted i row hshown).checked
  · intro hconfirms jobId mapping haccepted i row hshown
    obtain ⟨suggestion, hparsed, hsame⟩ := hconfirms jobId mapping haccepted i row hshown
    rw [← hparsed.mappedPayload] at hsame
    exact carries_iff.mpr hsame

section Superseded

open Scenario

/-- The mapping that takes the field from the other column. -/
def confirmed : ColumnMapping := [("name", "sku")]

/-- The payload of the row as the suggestion has it. -/
def suggestedPayload : RowPayload := [("rowNumber", .number 1), ("sku", .text "A1")]

/-- Thread 1 had the mapping accepted, and thread 2 checks the row as it was suggested. -/
def Superseded (trace : List (Label importSystem)) (_ : Pool importSystem) : Prop :=
  ((entries trace)[1]?.any fun e => match e with
    | .updateMapping jobId mapping tenantId => jobId = "j" && mapping = confirmed && tenantId = none
    | _ => false) = true ∧
  ((calls 1 trace).any fun call => match call with
    | ⟨.statement (.transitionStatus jobId allowed target), .ok ()⟩ =>
      jobId = "j" && allowed = [.mapped] && target = .validating
    | _ => false) = true ∧
  ((calls 2 trace).any fun call => match call with
    | ⟨.statement (.listPendingValidation jobId _), .ok rows⟩ => jobId = "j" && rows.any fun row =>
      row.rawPayload = [("code", "A1"), ("name", "Bolt")] && row.mappedPayload = [("sku", "A1")]
    | _ => false) = true ∧
  ((calls 2 trace).any fun call => match call with
    | ⟨.statement (.validateBatch payloads), _⟩ => payloads = [suggestedPayload]
    | _ => false) = true

instance (trace : List (Label importSystem)) (Q : Pool importSystem) :
    Decidable (Superseded trace Q) := by
  unfold Superseded
  infer_instance

theorem Superseded.not_governs {Q : Pool importSystem} {trace : List (Label importSystem)}
    (h : Superseded trace Q) : ¬ Governs trace := by
  obtain ⟨hentry, hmoved, hlisted, _⟩ := h
  obtain ⟨e, he, hentry⟩ := (Option.any_eq_true _ _).mp hentry
  obtain ⟨call, hcall, hmoved⟩ := List.any_eq_true.mp hmoved
  obtain ⟨call', hcall', hlisted⟩ := List.any_eq_true.mp hlisted
  intro hgoverns
  split at hentry
  · split at hmoved
    · split at hlisted
      · simp only [Bool.and_eq_true, decide_eq_true_eq] at hentry hmoved hlisted
        obtain ⟨⟨rfl, rfl⟩, rfl⟩ := hentry
        obtain ⟨⟨rfl, rfl⟩, rfl⟩ := hmoved
        obtain ⟨rfl, hrows⟩ := hlisted
        obtain ⟨row, hrow, hpayload⟩ := List.any_eq_true.mp hrows
        simp only [Bool.and_eq_true, decide_eq_true_eq] at hpayload
        have hchecked := (hgoverns "j" confirmed ⟨1, none, he, hcall⟩ 2 row
          (.inl ⟨_, _, hcall', hrow⟩)).checked "sku"
        rw [hpayload.1, hpayload.2] at hchecked
        exact absurd hchecked (by decide)
      · cases hlisted
    · cases hmoved
  · cases hentry

theorem Superseded.given {Q : Pool importSystem} {trace : List (Label importSystem)}
    (h : Superseded trace Q) : Given [suggestedPayload] (calls 2 trace) := by
  obtain ⟨call, hcall, hgiven⟩ := List.any_eq_true.mp h.2.2.2
  split at hgiven
  · rw [of_decide_eq_true hgiven] at hcall
    exact .inl ⟨_, hcall⟩
  · cases hgiven

theorem superseded_reached : ∃ Q trace,
    Run (fun _ _ => True) createdPool trace Q ∧ Superseded trace Q := by
  have hplay : ((createdPool.record (fun _ _ => True) (parsing 0 "p" ++ mapping 1 confirmed ++
      delivering 2 .validate "v" ++ statements 2 4)).map fun r => decide (Superseded r.1 r.2)) =
        some true := by
    decide
  exact Pool.record_reach hplay

/-- The handler is given a row under the suggestion although another mapping was confirmed. -/
theorem row_under_superseded_mapping : ∃ Q trace,
    Run (fun _ _ => True) createdPool trace Q ∧ Given [suggestedPayload] (calls 2 trace) ∧
      ¬ Governs trace := by
  obtain ⟨Q, trace, hrun, hsuperseded⟩ := superseded_reached
  exact ⟨Q, trace, hrun, hsuperseded.given, hsuperseded.not_governs⟩

theorem confirmed_mapping_governs_iff_superseded : ∃ Q trace,
    Run (fun _ _ => True) createdPool trace Q ∧ ¬ ConfirmsSuggestion trace := by
  obtain ⟨Q, trace, hrun, hsuperseded⟩ := superseded_reached
  have hiff := (confirmed_mapping_governs_iff hrun rfl created_createdPool).2
  exact ⟨Q, trace, hrun, fun hconfirms => hsuperseded.not_governs (hiff.mpr hconfirms)⟩

end Superseded

end Governing

end DddBoilerplate.Import
