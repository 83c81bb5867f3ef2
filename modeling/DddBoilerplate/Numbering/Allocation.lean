/- module: DddBoilerplate/Numbering/Allocation
   generality: I
   digest: Document numbers drawn from company series, and the unique indexes of the rows they end on. -/

import Mathlib.Data.List.Pairwise
import Mathlib.Data.Set.Basic
import Mathlib.Logic.Function.Basic
import DddBoilerplate.Domain.Text

set_option autoImplicit false
set_option relaxedAutoImplicit false
set_option linter.all false

namespace DddBoilerplate.Numbering

section Series

structure Context where
  companyId : Option String
  tenantId : Option String
  deriving DecidableEq

/-- `DEFAULT_COMPANY_ID` -/
def defaultCompanyId : String := "00000000-0000-0000-0000-000000000000"

def resolveCompanyId (context : Option Context) : String :=
  ((context.bind (·.companyId)).orElse fun _ => context.bind (·.tenantId)).getD defaultCompanyId

/-- A row of `number_sequences`, by its key. -/
structure NumberSequence where
  textPrefix : String
  padding : Nat
  currentValue : Nat
  deriving DecidableEq

structure NextNumberOptions where
  textPrefix : String
  padding : Nat

abbrev Sequences := String → Option NumberSequence

def scopedKey (context : Option Context) (sequenceKey : String) : String :=
  resolveCompanyId context ++ ":" ++ sequenceKey

/-- The row after the upsert of `nextNumber`; only a new row takes the options. -/
def upsert (sequences : Sequences) (key : String) (options : NextNumberOptions) :
    NumberSequence :=
  match sequences key with
  | none => ⟨options.textPrefix, options.padding, 1⟩
  | some sequence => { sequence with currentValue := sequence.currentValue + 1 }

/-- What `nextNumber` answers. -/
def numberText (updated : NumberSequence) (padding : Nat) : String :=
  updated.textPrefix ++
    if 0 < padding then Text.padStart padding '0' (toString updated.currentValue)
    else toString updated.currentValue

end Series

section Creations

inductive NumberedTable where
  | batchOperationJobs | importJobs | purchaseOrders
  deriving DecidableEq

def NumberedTable.sequenceKey : NumberedTable → String
  | batchOperationJobs => "batch-operation-job"
  | importJobs => "import-job"
  | purchaseOrders => "purchase-order.number"

def NumberedTable.options : NumberedTable → NextNumberOptions
  | batchOperationJobs => ⟨"BATCH-", 6⟩
  | importJobs => ⟨"IMP-", 6⟩
  | purchaseOrders => ⟨"PO-", 8⟩

/-- Whether the number is drawn and the row written in one transaction. -/
def NumberedTable.transactional : NumberedTable → Bool
  | batchOperationJobs => false
  | importJobs => false
  | purchaseOrders => true

/-- A call of one of the three use cases: its request context, and the tenant its input names. -/
structure Creation where
  table : NumberedTable
  context : Option Context
  tenantId : Option String
  deriving DecidableEq

namespace Creation

/-- `input.tenantId ?? this.requestContext.getTenantId()` -/
def rowTenantId (creation : Creation) : Option String :=
  creation.tenantId.orElse fun _ => creation.context.bind (·.tenantId)

/-- The column that makes the number unique: `@@unique([tenantId, jobNo])` on the jobs,
`@@unique([companyId, orderNumber])` on the orders. -/
def indexColumn (creation : Creation) : Option String :=
  match creation.table with
  | .batchOperationJobs => creation.rowTenantId
  | .importJobs => creation.rowTenantId
  | .purchaseOrders => some (resolveCompanyId creation.context)

/-- What the use case asks of the context before it draws a number. -/
def accepted (multiTenant : Bool) (creation : Creation) : Bool :=
  match creation.table with
  | .batchOperationJobs => !multiTenant || creation.rowTenantId.any (· ≠ "")
  | .importJobs => true
  | .purchaseOrders => (creation.context.bind (·.companyId)).any (· ≠ "")

def series (creation : Creation) : String :=
  scopedKey creation.context creation.table.sequenceKey

theorem series_eq_iff {creation other : Creation} (htable : creation.table = other.table) :
    creation.series = other.series ↔
      resolveCompanyId creation.context = resolveCompanyId other.context := by
  simp only [series, scopedKey, htable]
  constructor
  · intro h
    exact String.append_left_inj _ |>.1 (String.append_left_inj _ |>.1 h)
  · intro h
    rw [h]

end Creation

end Creations

section System

/-- A creation that has its number: what the upsert answered, and the row it found. -/
structure Drawn where
  creation : Creation
  updated : NumberSequence
  found : Option NumberSequence
  deriving DecidableEq

namespace Drawn

variable (drawn : Drawn)

abbrev table : NumberedTable := drawn.creation.table

abbrev series : String := drawn.creation.series

def number : String := numberText drawn.updated drawn.table.options.padding

/-- The two rows would be one in the unique index; a column that is null makes them two. -/
def Collides (row : Drawn) : Prop :=
  drawn.table = row.table ∧ drawn.creation.indexColumn = row.creation.indexColumn ∧
    drawn.creation.indexColumn ≠ none ∧ drawn.number = row.number

end Drawn

structure State where
  sequences : Sequences
  drawn : List Creation
  pending : List Drawn
  rows : List Drawn
  refused : List Drawn

def State.empty : State := ⟨fun _ => none, [], [], [], []⟩

variable (multiTenant : Bool)

/-- The series as they are when a creation has failed: only a transaction takes its draw back. -/
def State.giveUp (s : State) (drawn : Drawn) : Sequences :=
  if drawn.table.transactional then Function.update s.sequences drawn.series drawn.found
  else s.sequences

/-- A creation draws its number, waiting for a transaction that has the series locked; its row is
written, or refused by the index; or it stops in between. -/
inductive Step : State → Option Creation → State → Prop where
  | draw (s : State) (creation : Creation) (haccepted : creation.accepted multiTenant = true)
      (hfree : ∀ d ∈ s.pending, d.table.transactional = true → d.series ≠ creation.series) :
      Step s (some creation)
        { s with
          sequences := Function.update s.sequences creation.series
            (some (upsert s.sequences creation.series creation.table.options))
          drawn := s.drawn ++ [creation]
          pending := s.pending ++ [⟨creation,
            upsert s.sequences creation.series creation.table.options,
            s.sequences creation.series⟩] }
  | insert (s : State) (d : Drawn) (before after : List Drawn)
      (hpending : s.pending = before ++ d :: after) (hfits : ∀ row ∈ s.rows, ¬ d.Collides row) :
      Step s none { s with pending := before ++ after, rows := s.rows ++ [d] }
  | refuse (s : State) (d : Drawn) (before after : List Drawn)
      (hpending : s.pending = before ++ d :: after) (row : Drawn) (hrow : row ∈ s.rows)
      (hcollides : d.Collides row) :
      Step s none
        { s with
          sequences := s.giveUp d, pending := before ++ after, refused := s.refused ++ [d] }
  | abandon (s : State) (d : Drawn) (before after : List Drawn)
      (hpending : s.pending = before ++ d :: after) :
      Step s none { s with sequences := s.giveUp d, pending := before ++ after }

/-- The states that creations of a given kind reach, in whatever order they go on. -/
inductive Reaches (K : Set Creation) : State → Prop where
  | empty : Reaches K State.empty
  | step {s s' : State} {creation : Option Creation} (h : Reaches K s)
      (hmem : ∀ c, creation = some c → c ∈ K) (hstep : Step multiTenant s creation s') :
      Reaches K s'

end System

section Invariant

/-- What the series know of the numbers drawn from them. -/
structure Sound (s : State) : Prop where
  /-- A series stands at or past each number drawn from it, and starts them all the same way. -/
  known : ∀ d ∈ s.rows ++ s.pending, ∃ sequence, s.sequences d.series = some sequence ∧
    d.updated.textPrefix = sequence.textPrefix ∧
    d.updated.currentValue ≤ sequence.currentValue ∧ 1 ≤ d.updated.currentValue
  apart : (s.rows ++ s.pending).Pairwise fun d e =>
    d.series = e.series → d.updated.currentValue ≠ e.updated.currentValue
  /-- A transaction under way has the last number, and remembers the row before it. -/
  held : ∀ d ∈ s.pending, d.table.transactional = true →
    s.sequences d.series = some d.updated ∧
      match d.found with
      | none => d.updated.currentValue = 1
      | some found => found.textPrefix = d.updated.textPrefix ∧
        d.updated.currentValue = found.currentValue + 1
  kept : ∀ d ∈ s.rows ++ s.pending, d.creation ∈ s.drawn

theorem sound_empty : Sound State.empty where
  known := by simp [State.empty]
  apart := by simp [State.empty]
  held := by simp [State.empty]
  kept := by simp [State.empty]

theorem upsert_spec (sequences : Sequences) (key : String) (options : NextNumberOptions) :
    1 ≤ (upsert sequences key options).currentValue ∧
      (∀ sequence, sequences key = some sequence →
        (upsert sequences key options).textPrefix = sequence.textPrefix ∧
          (upsert sequences key options).currentValue = sequence.currentValue + 1) ∧
      (sequences key = none → (upsert sequences key options).currentValue = 1) := by
  cases hkey : sequences key with
  | none => simp [upsert, hkey]
  | some sequence => simp [upsert, hkey]

variable {s : State} {multiTenant : Bool} {d : Drawn}

theorem Sound.draw {creation : Creation} (h : Sound s)
    (hfree : ∀ d ∈ s.pending, d.table.transactional = true → d.series ≠ creation.series) :
    Sound { s with
      sequences := Function.update s.sequences creation.series
        (some (upsert s.sequences creation.series creation.table.options))
      drawn := s.drawn ++ [creation]
      pending := s.pending ++ [⟨creation,
        upsert s.sequences creation.series creation.table.options,
        s.sequences creation.series⟩] } := by
  obtain ⟨hpositive, hnext, hfirst⟩ :=
    upsert_spec s.sequences creation.series creation.table.options
  have hknown : ∀ e ∈ s.rows ++ s.pending, e.series = creation.series →
      e.updated.textPrefix =
          (upsert s.sequences creation.series creation.table.options).textPrefix ∧
        e.updated.currentValue <
          (upsert s.sequences creation.series creation.table.options).currentValue := by
    intro e he hseries
    obtain ⟨sequence, hsequence, hprefixes, hle, _⟩ := h.known e he
    rw [hseries] at hsequence
    obtain ⟨hsame, hvalue⟩ := hnext sequence hsequence
    exact ⟨hprefixes.trans hsame.symm, by omega⟩
  constructor
  · intro e he
    rw [← List.append_assoc] at he
    rcases List.mem_append.mp he with he | he
    · by_cases hseries : e.series = creation.series
      · obtain ⟨hsame, hlt⟩ := hknown e he hseries
        obtain ⟨_, _, _, _, hone⟩ := h.known e he
        exact ⟨_, (congrArg _ hseries).trans (Function.update_self _ _ _), hsame, hlt.le, hone⟩
      · obtain ⟨sequence, hsequence, hrest⟩ := h.known e he
        exact ⟨sequence, (Function.update_of_ne hseries _ _).trans hsequence, hrest⟩
    · obtain rfl := List.mem_singleton.mp he
      exact ⟨_, Function.update_self _ _ _, rfl, le_rfl, hpositive⟩
  · rw [← List.append_assoc]
    refine List.pairwise_append.mpr ⟨h.apart, List.pairwise_singleton _ _, ?_⟩
    intro e he f hf hseries
    obtain rfl := List.mem_singleton.mp hf
    exact (hknown e he hseries).2.ne
  · intro e he htransactional
    rcases List.mem_append.mp he with he | he
    · obtain ⟨hlast, hfound⟩ := h.held e he htransactional
      exact ⟨(Function.update_of_ne (hfree e he htransactional) _ _).trans hlast, hfound⟩
    · obtain rfl := List.mem_singleton.mp he
      refine ⟨Function.update_self _ _ _, ?_⟩
      cases hfound : s.sequences creation.series with
      | none => exact hfirst hfound
      | some found => exact ⟨(hnext found hfound).1.symm, (hnext found hfound).2⟩
  · intro e he
    rw [← List.append_assoc] at he
    rcases List.mem_append.mp he with he | he
    · exact List.mem_append_left _ (h.kept e he)
    · obtain rfl := List.mem_singleton.mp he
      exact List.mem_append_right _ (List.mem_singleton_self _)

variable {before after : List Drawn}

theorem perm_of_pending (hpending : s.pending = before ++ d :: after) :
    (s.rows ++ s.pending).Perm (d :: (s.rows ++ (before ++ after))) := by
  rw [hpending]
  exact (List.perm_middle.append_left s.rows).trans List.perm_middle

/-- A creation under way, beside everything else that has a number. -/
theorem Sound.others (h : Sound s) (hpending : s.pending = before ++ d :: after) :
    (∀ e ∈ s.rows ++ (before ++ after), e ∈ s.rows ++ s.pending ∧
      (d.series = e.series → d.updated.currentValue ≠ e.updated.currentValue)) ∧
    (s.rows ++ (before ++ after)).Pairwise fun d e =>
      d.series = e.series → d.updated.currentValue ≠ e.updated.currentValue := by
  have hperm := perm_of_pending hpending
  have hapart := (hperm.pairwise_iff fun hne hseries => (hne hseries.symm).symm).1 h.apart
  obtain ⟨hd, hrest⟩ := List.pairwise_cons.mp hapart
  exact ⟨fun e he => ⟨hperm.mem_iff.2 (List.mem_cons_of_mem _ he), hd e he⟩, hrest⟩

theorem mem_pending (hpending : s.pending = before ++ d :: after) : d ∈ s.pending := by
  simp [hpending]

theorem mem_pending_of_other {e : Drawn} (hpending : s.pending = before ++ d :: after)
    (he : e ∈ before ++ after) : e ∈ s.pending := by
  rw [hpending]
  rcases List.mem_append.mp he with he | he
  · exact List.mem_append_left _ he
  · exact List.mem_append_right _ (List.mem_cons_of_mem _ he)

theorem Sound.insert (h : Sound s) (hpending : s.pending = before ++ d :: after) :
    Sound { s with pending := before ++ after, rows := s.rows ++ [d] } := by
  have hperm : ((s.rows ++ [d]) ++ (before ++ after)).Perm (s.rows ++ s.pending) := by
    refine List.Perm.trans ?_ (perm_of_pending hpending).symm
    rw [List.append_assoc]
    exact List.perm_middle
  constructor
  · intro e he
    exact h.known e (hperm.mem_iff.1 he)
  · exact (hperm.pairwise_iff fun hne hseries => (hne hseries.symm).symm).2 h.apart
  · intro e he
    exact h.held e (mem_pending_of_other hpending he)
  · intro e he
    exact h.kept e (hperm.mem_iff.1 he)

/-- A transaction taken back leaves its series where it found it. -/
theorem Sound.takeBack (h : Sound s) (hpending : s.pending = before ++ d :: after)
    (htransactional : d.table.transactional = true) :
    Sound { s with
      sequences := Function.update s.sequences d.series d.found, pending := before ++ after } := by
  obtain ⟨hothers, hapart⟩ := h.others hpending
  obtain ⟨hlast, hfound⟩ := h.held d (mem_pending hpending) htransactional
  constructor
  · intro e he
    obtain ⟨hmem, hne⟩ := hothers e he
    obtain ⟨sequence, hsequence, hsame, hle, hone⟩ := h.known e hmem
    by_cases hseries : e.series = d.series
    · rw [hseries, hlast] at hsequence
      obtain rfl := Option.some.inj hsequence
      have hlt := hne hseries.symm
      cases hbefore : d.found with
      | none =>
        rw [hbefore] at hfound
        simp only at hfound
        omega
      | some found =>
        rw [hbefore] at hfound
        simp only at hfound
        refine ⟨found, ?_, hsame.trans hfound.1.symm, by omega, hone⟩
        exact (congrArg _ hseries).trans (Function.update_self _ _ _)
    · exact ⟨sequence, (Function.update_of_ne hseries _ _).trans hsequence, hsame, hle, hone⟩
  · exact hapart
  · intro e he htransactional'
    obtain ⟨hlast', hfound'⟩ := h.held e (mem_pending_of_other hpending he) htransactional'
    refine ⟨(Function.update_of_ne (fun hseries => ?_) _ _).trans hlast', hfound'⟩
    rw [hseries, hlast] at hlast'
    have hsame := Option.some.inj hlast'
    exact (hothers e (List.mem_append_right _ he)).2 hseries.symm (by rw [hsame])
  · intro e he
    exact h.kept e (hothers e he).1

theorem Sound.giveUp (h : Sound s) (hpending : s.pending = before ++ d :: after) :
    Sound { s with sequences := s.giveUp d, pending := before ++ after } := by
  obtain ⟨hothers, hapart⟩ := h.others hpending
  by_cases htransactional : d.table.transactional = true
  · simp only [State.giveUp, htransactional, if_true]
    exact h.takeBack hpending htransactional
  · simp only [State.giveUp, htransactional]
    exact ⟨fun e he => h.known e (hothers e he).1, hapart,
      fun e he => h.held e (mem_pending_of_other hpending he),
      fun e he => h.kept e (hothers e he).1⟩

theorem Sound.step {s' : State} {creation : Option Creation} (h : Sound s)
    (hstep : Step multiTenant s creation s') : Sound s' := by
  cases hstep with
  | draw creation haccepted hfree => exact h.draw hfree
  | insert d before after hpending hfits => exact h.insert hpending
  | refuse d before after hpending row hrow hcollides =>
    have hgiven := h.giveUp hpending
    exact ⟨hgiven.known, hgiven.apart, hgiven.held, hgiven.kept⟩
  | abandon d before after hpending => exact h.giveUp hpending

variable {K : Set Creation}

theorem sound_of_reaches (h : Reaches multiTenant K s) : Sound s := by
  induction h with
  | empty => exact sound_empty
  | step h hmem hstep ih => exact ih.step hstep

/-- Two numbers of one series and one table are different texts. -/
theorem Sound.number_ne (h : Sound s) {e : Drawn} (hd : d ∈ s.rows ++ s.pending)
    (he : e ∈ s.rows ++ s.pending) (htable : d.table = e.table) (hseries : d.series = e.series)
    (hvalue : d.updated.currentValue ≠ e.updated.currentValue) : d.number ≠ e.number := by
  obtain ⟨sequence, hsequence, hsame, _⟩ := h.known d hd
  obtain ⟨sequence', hsequence', hsame', _⟩ := h.known e he
  rw [← hseries, hsequence] at hsequence'
  obtain rfl := Option.some.inj hsequence'
  intro hnumber
  simp only [Drawn.number, numberText, hsame, hsame', htable] at hnumber
  have hpadding : 0 < e.table.options.padding := by
    cases e.table <;> decide
  rw [if_pos hpadding, if_pos hpadding] at hnumber
  exact hvalue (Text.padStart_toString_inj ((String.append_right_inj _).1 hnumber))

end Invariant

section Companies

def nonEmpty (value : Option String) : Option String := value.filter (· ≠ "")

/-- The company a context stands for, "never empty": the one it names, else its tenant, else the
default one. -/
def effectiveCompany (context : Option Context) : String :=
  ((nonEmpty (context.bind (·.companyId))).orElse fun _ =>
    nonEmpty (context.bind (·.tenantId))).getD defaultCompanyId

/-- The first identifier the context has is the empty one. -/
def NamesEmpty (context : Option Context) : Prop :=
  context.bind (·.companyId) = some "" ∨
    context.bind (·.companyId) = none ∧ context.bind (·.tenantId) = some ""

theorem resolveCompanyId_eq_empty_iff (context : Option Context) :
    resolveCompanyId context = "" ↔ NamesEmpty context := by
  simp only [resolveCompanyId, NamesEmpty]
  cases context.bind (·.companyId) with
  | some companyId => simp
  | none =>
    cases context.bind (·.tenantId) with
    | some tenantId => simp
    | none => simp [defaultCompanyId]

theorem resolveCompanyId_eq_effective {context : Option Context} (h : ¬ NamesEmpty context) :
    resolveCompanyId context = effectiveCompany context := by
  simp only [NamesEmpty, not_or, not_and] at h
  simp only [resolveCompanyId, effectiveCompany, nonEmpty]
  cases hcompany : context.bind (·.companyId) with
  | some companyId =>
    have hne : companyId ≠ "" := fun hempty => h.1 (by rw [hcompany, hempty])
    simp [Option.filter, hne]
  | none =>
    cases htenant : context.bind (·.tenantId) with
    | some tenantId =>
      have hne : tenantId ≠ "" := fun hempty => h.2 hcompany (by rw [htenant, hempty])
      simp [Option.filter, hne]
    | none => simp [Option.filter]

/-- No caller's key has a colon in it, so the key of a series tells the table. -/
theorem table_of_series {a b : Creation} (h : a.series = b.series) : a.table = b.table := by
  have hkeys : ∀ t u : NumberedTable, ∀ skipped : List Char,
      ':' :: t.sequenceKey.toList = skipped ++ ':' :: u.sequenceKey.toList → t = u := by
    intro t u skipped hskipped
    cases skipped with
    | nil =>
      have hsame : t.sequenceKey = u.sequenceKey :=
        String.ext (List.cons_inj_right _ |>.1 hskipped)
      revert hsame
      cases t <;> cases u <;> decide
    | cons first skipped =>
      have hmem : ':' ∈ t.sequenceKey.toList := by
        rw [(List.cons.inj hskipped).2]
        simp
      exfalso
      revert hmem
      cases t <;> decide
  have hlists := congrArg String.toList h
  simp only [Creation.series, scopedKey, String.toList_append, List.append_assoc] at hlists
  rcases List.append_eq_append_iff.mp hlists with ⟨skipped, _, hb⟩ | ⟨skipped, _, ha⟩
  · exact hkeys _ _ skipped hb
  · exact (hkeys _ _ skipped ha).symm

end Companies

section Fit

/-- The tenant a call comes from. -/
def Creation.tenant (creation : Creation) : Option String := creation.context.bind (·.tenantId)

/-- The numbers fit the tables, and companies of different tenants keep to their own series. -/
structure Fits (s : State) : Prop where
  distinct : s.rows.Pairwise fun a b => a.table = b.table →
    a.creation.indexColumn = b.creation.indexColumn → a.number ≠ b.number
  accepted : s.refused = []
  separate : ∀ a ∈ s.drawn, ∀ b ∈ s.drawn, a.tenant ≠ b.tenant →
    effectiveCompany a.context ≠ effectiveCompany b.context → a.series ≠ b.series

/-- Whichever two of the creations meet on one table: rows that share the indexed column are of
one company, and no two companies of two tenants both go by the empty name. -/
structure Compatible (multiTenant : Bool) (K : Set Creation) : Prop where
  owned : ∀ a ∈ K, ∀ b ∈ K, a.accepted multiTenant = true → b.accepted multiTenant = true →
    a.table = b.table → a.indexColumn = b.indexColumn →
      resolveCompanyId a.context = resolveCompanyId b.context
  named : ∀ a ∈ K, ∀ b ∈ K, a.accepted multiTenant = true → b.accepted multiTenant = true →
    a.table = b.table → a.tenant ≠ b.tenant →
      effectiveCompany a.context ≠ effectiveCompany b.context →
        ¬ (NamesEmpty a.context ∧ NamesEmpty b.context)

variable {s s' : State} {multiTenant : Bool} {K : Set Creation} {d : Drawn} {a b : Creation}

theorem drawn_of_reaches (h : Reaches multiTenant K s) :
    ∀ c ∈ s.drawn, c ∈ K ∧ c.accepted multiTenant = true := by
  induction h with
  | empty => simp [State.empty]
  | step h hmem hstep ih =>
    cases hstep with
    | draw creation haccepted hfree =>
      intro c hc
      rcases List.mem_append.mp hc with hc | hc
      · exact ih c hc
      · obtain rfl := List.mem_singleton.mp hc
        exact ⟨hmem c rfl, haccepted⟩
    | insert | refuse | abandon => exact ih

/-- Under the condition two numbered creations that share the column differ in their numbers. -/
theorem number_ne_of_compatible (hK : Compatible multiTenant K) (h : Reaches multiTenant K s)
    {e : Drawn} (hd : d ∈ s.rows ++ s.pending) (he : e ∈ s.rows ++ s.pending)
    (hvalue : d.series = e.series → d.updated.currentValue ≠ e.updated.currentValue)
    (htable : d.table = e.table) (hcolumn : d.creation.indexColumn = e.creation.indexColumn) :
    d.number ≠ e.number := by
  have hsound := sound_of_reaches h
  obtain ⟨hdK, hdaccepted⟩ := drawn_of_reaches h _ (hsound.kept d hd)
  obtain ⟨heK, heaccepted⟩ := drawn_of_reaches h _ (hsound.kept e he)
  have hcompany := hK.owned _ hdK _ heK hdaccepted heaccepted htable hcolumn
  have hseries := (Creation.series_eq_iff htable).2 hcompany
  exact hsound.number_ne hd he htable hseries (hvalue hseries)

theorem refused_of_reaches (hK : Compatible multiTenant K) (h : Reaches multiTenant K s) :
    s.refused = [] := by
  induction h with
  | empty => rfl
  | step h hmem hstep ih =>
    cases hstep with
    | draw | insert | abandon => exact ih
    | refuse d before after hpending row hrow hcollides =>
      obtain ⟨htable, hcolumn, _, hnumber⟩ := hcollides
      obtain ⟨hothers, _⟩ := (sound_of_reaches h).others hpending
      obtain ⟨hmem', hne⟩ := hothers row (List.mem_append_left _ hrow)
      exact absurd hnumber (number_ne_of_compatible hK h
        (List.mem_append_right _ (mem_pending hpending)) hmem' hne htable hcolumn)

theorem series_ne_of_compatible (hK : Compatible multiTenant K) (ha : a ∈ K) (hb : b ∈ K)
    (haccepted : a.accepted multiTenant = true) (hbaccepted : b.accepted multiTenant = true)
    (htenant : a.tenant ≠ b.tenant)
    (hcompany : effectiveCompany a.context ≠ effectiveCompany b.context) :
    a.series ≠ b.series := by
  intro hseries
  have htable := table_of_series hseries
  have hresolved := (Creation.series_eq_iff htable).1 hseries
  have hnamed := hK.named a ha b hb haccepted hbaccepted htable htenant hcompany
  by_cases hempty : NamesEmpty a.context
  · have hb' : resolveCompanyId b.context = "" :=
      hresolved ▸ (resolveCompanyId_eq_empty_iff _).2 hempty
    exact hnamed ⟨hempty, (resolveCompanyId_eq_empty_iff _).1 hb'⟩
  · have hempty' : ¬ NamesEmpty b.context := by
      intro hb'
      exact hempty ((resolveCompanyId_eq_empty_iff _).1
        (hresolved.trans ((resolveCompanyId_eq_empty_iff _).2 hb')))
    rw [resolveCompanyId_eq_effective hempty, resolveCompanyId_eq_effective hempty'] at hresolved
    exact hcompany hresolved

theorem fits_of_reaches (hK : Compatible multiTenant K) (h : Reaches multiTenant K s) :
    Fits s where
  distinct := by
    have hsound := sound_of_reaches h
    have hrows := (List.pairwise_append.mp hsound.apart).1
    refine hrows.imp_of_mem ?_
    intro d e hd he hvalue htable hcolumn
    exact number_ne_of_compatible hK h (List.mem_append_left _ hd) (List.mem_append_left _ he)
      hvalue htable hcolumn
  accepted := refused_of_reaches hK h
  separate := by
    intro a ha b hb htenant hcompany
    obtain ⟨haK, haccepted⟩ := drawn_of_reaches h a ha
    obtain ⟨hbK, hbaccepted⟩ := drawn_of_reaches h b hb
    exact series_ne_of_compatible hK haK hbK haccepted hbaccepted htenant hcompany

/-- What a creation draws from a series no one has drawn from. -/
def firstDrawn (creation : Creation) : Drawn :=
  ⟨creation, ⟨creation.table.options.textPrefix, creation.table.options.padding, 1⟩, none⟩

theorem reaches_first (ha : a ∈ K) (haccepted : a.accepted multiTenant = true) :
    Reaches multiTenant K
      ⟨Function.update (fun _ => none) a.series (some (firstDrawn a).updated), [a],
        [firstDrawn a], [], []⟩ :=
  Reaches.empty.step (by rintro _ ⟨⟩; exact ha)
    (Step.draw State.empty a haccepted fun _ hd => absurd hd List.not_mem_nil)

/-- Two companies that share a column: the second row is refused, or has the first one's
number. -/
theorem clash (ha : a ∈ K) (hb : b ∈ K) (haccepted : a.accepted multiTenant = true)
    (hbaccepted : b.accepted multiTenant = true) (htable : a.table = b.table)
    (hcolumn : a.indexColumn = b.indexColumn)
    (hcompany : resolveCompanyId a.context ≠ resolveCompanyId b.context) :
    ∃ s, Reaches multiTenant K s ∧
      (b.indexColumn ≠ none ∧ s.refused = [firstDrawn b] ∨
        b.indexColumn = none ∧ s.rows = [firstDrawn a, firstDrawn b]) := by
  have hseries : b.series ≠ a.series := fun h =>
    hcompany ((Creation.series_eq_iff htable).1 h.symm)
  have hfirst := reaches_first ha haccepted
  have hwritten := hfirst.step (by rintro _ ⟨⟩) (Step.insert _ (firstDrawn a) [] [] rfl (by simp))
  have hnumbers : (firstDrawn b).number = (firstDrawn a).number := by
    simp only [Drawn.number, firstDrawn, Drawn.table, htable]
  have hsecond := hwritten.step (by rintro _ ⟨⟩; exact hb)
    (Step.draw _ b hbaccepted fun _ hd => absurd hd List.not_mem_nil)
  have hfresh : Function.update (fun _ => none) a.series (some (firstDrawn a).updated) b.series =
      none := Function.update_of_ne hseries _ _
  simp only [upsert, hfresh] at hsecond
  by_cases hnull : b.indexColumn = none
  · refine ⟨_, hsecond.step (by rintro _ ⟨⟩) (Step.insert _ (firstDrawn b) [] [] rfl ?_),
      .inr ⟨hnull, rfl⟩⟩
    intro row hrow hcollides
    exact hcollides.2.2.1 hnull
  · refine ⟨_, hsecond.step (by rintro _ ⟨⟩) (Step.refuse _ (firstDrawn b) [] [] rfl
      (firstDrawn a) (List.mem_singleton_self _) ⟨htable.symm, hcolumn.symm, hnull, hnumbers⟩),
      .inl ⟨hnull, rfl⟩⟩

theorem reaches_both (ha : a ∈ K) (hb : b ∈ K) (haccepted : a.accepted multiTenant = true)
    (hbaccepted : b.accepted multiTenant = true) :
    ∃ s, Reaches multiTenant K s ∧ s.drawn = [a, b] := by
  have hfirst := reaches_first ha haccepted
  have hstopped := hfirst.step (by rintro _ ⟨⟩) (Step.abandon _ (firstDrawn a) [] [] rfl)
  exact ⟨_, hstopped.step (by rintro _ ⟨⟩; exact hb)
    (Step.draw _ b hbaccepted fun _ hd => absurd hd List.not_mem_nil), rfl⟩

/-- Of a set of creations, every interleaving keeps the indexes and the series apart exactly when
the creations are compatible. -/
theorem numbers_fit_iff_compatible (multiTenant : Bool) (K : Set Creation) :
    (∀ s, Reaches multiTenant K s → Fits s) ↔ Compatible multiTenant K := by
  constructor
  · intro h
    constructor
    · intro a ha b hb haccepted hbaccepted htable hcolumn
      by_contra hcompany
      obtain ⟨s, hs, ⟨_, hrefused⟩ | ⟨_, hrows⟩⟩ :=
        clash ha hb haccepted hbaccepted htable hcolumn hcompany
      · have hnone := (h s hs).accepted
        rw [hrefused] at hnone
        exact absurd hnone (List.cons_ne_nil _ _)
      · have hdistinct := (h s hs).distinct
        rw [hrows] at hdistinct
        refine List.rel_of_pairwise_cons hdistinct (List.mem_singleton_self _) htable hcolumn ?_
        simp only [Drawn.number, firstDrawn, Drawn.table, htable]
    · intro a ha b hb haccepted hbaccepted htable htenant hcompany hempty
      obtain ⟨s, hs, hdrawn⟩ := reaches_both ha hb haccepted hbaccepted
      refine (h s hs).separate a (by simp [hdrawn]) b (by simp [hdrawn]) htenant hcompany ?_
      rw [Creation.series_eq_iff htable, (resolveCompanyId_eq_empty_iff _).2 hempty.1,
        (resolveCompanyId_eq_empty_iff _).2 hempty.2]
  · intro hK s hs
    exact fits_of_reaches hK hs

/-- Two companies of tenant `t1` submit their first batch jobs. -/
def ofCompany (tenantId companyId : String) : Creation :=
  ⟨.batchOperationJobs, some ⟨some companyId, some tenantId⟩, none⟩

/-- The second job of the tenant is refused on the index of its number; and the jobs of two
tenants whose contexts name an empty company come from one series. -/
theorem second_company_refused :
    (∃ s, Reaches true {ofCompany "t1" "c1", ofCompany "t1" "c2"} s ∧
      s.refused.map Drawn.number = ["BATCH-000001"]) ∧
    (ofCompany "t1" "").tenant ≠ (ofCompany "t2" "").tenant ∧
    effectiveCompany (ofCompany "t1" "").context ≠ effectiveCompany (ofCompany "t2" "").context ∧
    (ofCompany "t1" "").series = (ofCompany "t2" "").series := by
  refine ⟨?_, by decide, by decide, by decide⟩
  obtain ⟨s, hs, ⟨_, hrefused⟩ | ⟨hnull, _⟩⟩ :=
    @clash true {ofCompany "t1" "c1", ofCompany "t1" "c2"} (ofCompany "t1" "c1")
      (ofCompany "t1" "c2") (.inl rfl) (.inr rfl) (by decide) (by decide) rfl (by decide)
      (by decide)
  · refine ⟨s, hs, ?_⟩
    rw [hrefused]
    decide
  · cases hnull

end Fit

end DddBoilerplate.Numbering
