/- module: DddBoilerplate/Procurement/PostedOnce
   generality: I
   digest: How often a goods receipt note is posted over every run of its commands. -/

import DddBoilerplate.Procurement.Scenario

set_option autoImplicit false
set_option relaxedAutoImplicit false
set_option linter.all false

namespace DddBoilerplate.Procurement

open Concurrency Domain Store

def Write.updatesOrder : Write → Bool
  | updateOrder _ _ => true
  | _ => false

def Write.updatesGrn (id : String) : Write → Bool
  | updateGrn _ grn => grn.id = id
  | _ => false

/-- The writes that register a receipt on an order for the note they complete. -/
def postsNote (id : String) (writes : List Write) : Bool :=
  writes.any Write.updatesOrder && writes.any (Write.updatesGrn id)

def DomainEvent.posting? : DomainEvent → Option (Bool × String)
  | grn event => event.posting?
  | order _ => none

/-- How often the outbox reports that a note was completed, or was posted to its order. -/
def ProcurementDb.reported (kind : Bool) (id : String) (db : ProcurementDb) : Nat :=
  (db.outbox.map Envelope.event).countP fun event => event.posting? = some (kind, id)

/-- The note is stored as COMPLETED. -/
def ProcurementDb.Completed (id : String) (db : ProcurementDb) : Prop :=
  ∃ row, db.grns.get? id = some row ∧ row.status = .completed

section Effects

variable {tolerances : ℚ → Prop} {ok : Served} {s s' : ProcurementDb} {writes : List Write}
  {id : String} {kind : Bool}

/-- A completed note stays completed, whatever is committed. -/
theorem Grows.completed (h : Grows s s') (hcompleted : s.Completed id) : s'.Completed id := by
  obtain ⟨row, hrow, hstatus⟩ := hcompleted
  obtain ⟨row', hrow', hfollows⟩ := h.grns id row hrow
  exact ⟨row', hrow', (hfollows.posted hstatus).1⟩

theorem reported_append {events : List DomainEvent}
    (h : s'.outbox.map Envelope.event = s.outbox.map Envelope.event ++ events) :
    s'.reported kind id =
      s.reported kind id + events.countP fun event => event.posting? = some (kind, id) := by
  unfold ProcurementDb.reported
  rw [h, List.countP_append]

/-- Events that report no posting leave every count. -/
theorem reported_same {events : List DomainEvent}
    (h : s'.outbox.map Envelope.event = s.outbox.map Envelope.event ++ events)
    (hnone : ∀ event ∈ events, event.posting? = none) :
    s'.reported kind id = s.reported kind id := by
  have hzero : (events.countP fun event => event.posting? = some (kind, id)) = 0 := by
    rw [List.countP_eq_zero]
    intro event hevent
    simp [hnone event hevent]
  rw [reported_append h, hzero, Nat.add_zero]

/-- A commit posts the note, which it completes and reports once; or it reports nothing of it. -/
theorem Committed.posting (h : Committed tolerances ok s writes s') (id : String) :
    (postsNote id writes = true ∧ s'.Completed id ∧
      ∀ kind, s'.reported kind id = s.reported kind id + 1) ∨
    (postsNote id writes = false ∧ ∀ kind, s'.reported kind id = s.reported kind id) := by
  cases h with
  | registered receives wrote =>
    exact .inr ⟨rfl, fun kind => reported_same wrote.events fun _ h => absurd h List.not_mem_nil⟩
  | transitioned command stored returned unreceived written wrote =>
    refine .inr ⟨?_, fun kind => reported_same wrote.events fun event hevent => ?_⟩
    · simp [postsNote, appendOrderEvents, Write.updatesGrn]
    · obtain ⟨_, _, rfl⟩ := List.mem_map.mp hevent
      rfl
  | created positive built written fresh wrote =>
    refine .inr ⟨?_, fun kind => reported_same wrote.events fun event hevent => ?_⟩
    · simp [postsNote, appendGrnEvents, Write.updatesOrder]
    · rw [(create_built built).2.2] at hevent
      rw [List.mem_singleton.mp hevent]
      rfl
  | changed command rewrites wrote =>
    refine .inr ⟨?_, fun kind => reported_same wrote.events fun event hevent => ?_⟩
    · simp [postsNote, appendGrnEvents, Write.updatesOrder]
    · obtain ⟨event, hmem, rfl⟩ := List.mem_map.mp hevent
      exact ((command.handles rewrites.returned).events event hmem).resolve_left List.not_mem_nil
  | reversed receives order read completed growsRead readOrder grows met lines ofId ofOrder built
      written fresh wrote =>
    refine .inr ⟨?_, fun kind => reported_same wrote.events fun event hevent => ?_⟩
    · simp [postsNote, appendGrnEvents, Write.updatesGrn]
    · obtain ⟨event, hmem, rfl⟩ := List.mem_map.mp hevent
      exact (createReversal_built built).2.2.2.1 event hmem
  | @posted ctx actorId now old new oldOrder newOrder po grn s' receives order rewrites wrote =>
    obtain ⟨_, hstatus, hreference, _, hevents⟩ := complete_returned rewrites.returned
    obtain ⟨hid, _, _, _, hnew, _⟩ := rewrites.next hreference
    have hgrn : grn.id = old.id := congrArg Prod.fst hreference
    have hposts : postsNote id ([Write.updateOrder ctx po] ++ [Write.updateGrn ctx grn] ++
        appendGrnEvents ctx grn) = decide (old.id = id) := by
      simp [postsNote, appendGrnEvents, Write.updatesGrn, Write.updatesOrder,
        hgrn]
    rw [hposts]
    have hreported := fun kind => @reported_append s s' id kind _ wrote.events
    by_cases hsame : old.id = id
    · refine .inl ⟨decide_eq_true hsame, ⟨new, ?_, hnew.trans hstatus⟩, fun kind => ?_⟩
      · rw [wrote.grns, Table.get?_put (by rw [hid]; exact rewrites.stored), if_pos]
        exact hid.trans hsame
      · rw [hreported kind, hevents]
        cases kind <;> simp [DomainEvent.posting?, GrnEvent.posting?, PrismaGrnMapper.toDomain, hsame]
    · refine .inr ⟨decide_eq_false hsame, fun kind => ?_⟩
      rw [hreported kind, hevents]
      cases kind <;> simp [DomainEvent.posting?, GrnEvent.posting?, PrismaGrnMapper.toDomain, hsame]

end Effects

/-- The condition on a served request: what posts the note finds it not COMPLETED. -/
def postsOpenNote (id : String) : Served := fun s q a _ =>
  commits (postsNote id) q a = true → ∀ row ∈ s.grns.get? id, row.status ≠ .completed

instance (id : String) (s : ProcurementDb) (q : ProcurementRequest) (a : q.Answer)
    (front : Front ProcurementRequest.interface) : Decidable (postsOpenNote id s q a front) := by
  unfold postsOpenNote
  infer_instance

section Runs

variable {wiring : Wiring} {id : String}
variable {P Q R : Pool (procurementSystem wiring)}
variable {trace : List (Label (procurementSystem wiring))} {l : Label (procurementSystem wiring)}

/-- The outbox reports each posting once, and a note that was posted is COMPLETED. -/
structure PostedAtMostOnce (id : String) (trace : List (Label (procurementSystem wiring)))
    (Q : Pool (procurementSystem wiring)) : Prop where
  once : times (postsNote id) trace ≤ 1
  reported : ∀ kind, ProcurementDb.reported kind id Q.store = times (postsNote id) trace
  completed : times (postsNote id) trace ≠ 0 → ProcurementDb.Completed id Q.store

theorem PostedAtMostOnce.of_unchanged (h : PostedAtMostOnce id trace Q)
    (hstep : committing (postsNote id) l = false) (hgrows : Grows Q.store R.store)
    (hreported : ∀ kind, ProcurementDb.reported kind id R.store =
      ProcurementDb.reported kind id Q.store) : PostedAtMostOnce id (trace ++ [l]) R := by
  have hsame := @times_snoc_of_not wiring trace (postsNote id) l hstep
  refine ⟨hsame ▸ h.once, fun kind => ?_, fun hposted => ?_⟩
  · rw [hreported kind, hsame]
    exact h.reported kind
  · rw [hsame] at hposted
    exact hgrows.completed (h.completed hposted)

theorem postedAtMostOnce_step {i : Nat} {q : ProcurementRequest} {a : q.Answer}
    {front : Front ProcurementRequest.interface} {tolerances : ℚ → Prop}
    (h : PostedAtMostOnce id trace Q) (hok : postsOpenNote id Q.store q a front)
    (hguarantee : Guarantees tolerances (postsOpenNote id) Q.store q a front R.store) :
    PostedAtMostOnce id
      (trace ++ [(.served i q a front : Label (procurementSystem wiring))]) R := by
  cases hguarantee with
  | read reads untouched =>
    refine h.of_unchanged (committing_of_reads reads) untouched.grows fun kind => ?_
    unfold ProcurementDb.reported
    rw [untouched.outbox]
  | refused untouched =>
    refine h.of_unchanged rfl untouched.grows fun kind => ?_
    unfold ProcurementDb.reported
    rw [untouched.outbox]
  | @committed writes front s' commits settled =>
    rcases commits.posting id with ⟨hposts, hcompleted, hreported⟩ | ⟨hposts, hreported⟩
    · have hnone : times (postsNote id) trace = 0 := by
        by_contra hposted
        obtain ⟨row, hrow, hstatus⟩ := h.completed hposted
        exact hok hposts row hrow hstatus
      have hone : times (postsNote id) (trace ++
          [(.served i (.commit writes) (.ok ()) front : Label (procurementSystem wiring))]) =
            1 := by
        rw [times_snoc, hnone, if_pos (by exact hposts)]
      refine ⟨hone.le, fun kind => ?_, fun _ => hcompleted⟩
      rw [hreported kind, h.reported kind, hnone, hone]
    · exact h.of_unchanged (by exact hposts) commits.grows hreported

/-- Where every posting finds its note not COMPLETED, a note is posted at most once: its receipt
is registered at most once, and reported at most once. -/
theorem grn_is_posted_once (hrun : Run (onServed (postsOpenNote id)) P trace Q)
    (hthreads : P.threads = []) (hunreported : ∀ kind, ProcurementDb.reported kind id P.store = 0) :
    times (postsNote id) trace ≤ 1 ∧ ∀ kind, ProcurementDb.reported kind id Q.store ≤ 1 := by
  have hposted : PostedAtMostOnce id trace Q := by
    induction hrun with
    | nil => exact ⟨Nat.zero_le 1, hunreported, fun h => absurd rfl h⟩
    | @snoc trace Q R l hrun hok hstep ih =>
      cases l with
      | start e =>
        cases hstep
        exact ih.of_unchanged rfl (.refl _) fun _ => rfl
      | raised i q =>
        cases hstep
        exact ih.of_unchanged rfl (.refl _) fun _ => rfl
      | served i q a front =>
        exact postedAtMostOnce_step ih hok
          (guarantees_of_step covers_onServed hrun hthreads hok hstep)
  refine ⟨hposted.once, fun kind => ?_⟩
  rw [hposted.reported kind]
  exact hposted.once

open Scenario

/-- Four bolts received, and the note posted twice: eight are registered. -/
theorem posted_twice : ∃ (Q : DemoPool) (trace : List (Label (procurementSystem allowing))),
    Run (fun _ _ => True) (poolOf (orderFor 10 0) [noteOf "grn" .received 4 4 0]) trace Q ∧
      times (postsNote "grn") trace = 2 ∧ receivedOf Q = some 8 ∧
      ProcurementDb.reported false "grn" Q.store = 2 ∧
      ProcurementDb.reported true "grn" Q.store = 2 := by
  have hplay : (((poolOf (orderFor 10 0) [noteOf "grn" .received 4 4 0]).record (fun _ _ => True)
      (post "grn" 0 :: serve 0 3 ++ post "grn" 0 :: serve 1 3)).map fun r =>
      decide (times (postsNote "grn") r.1 = 2 ∧ receivedOf r.2 = some 8 ∧
        ProcurementDb.reported false "grn" r.2.store = 2 ∧
        ProcurementDb.reported true "grn" r.2.store = 2)) = some true := by
    decide +kernel
  exact Pool.record_reach hplay

/-- Two posts that both read the note before either commits: the second is turned away. -/
theorem grn_is_posted_once_race : ∃ Q : DemoPool, receivedOf Q = some 4 ∧
    ∀ kind, ProcurementDb.reported kind "grn" Q.store ≤ 1 := by
  have hplay : (((poolOf (orderFor 10 0) [noteOf "grn" .received 4 4 0]).play
      (onServed (postsOpenNote "grn"))
      (post "grn" 0 :: post "grn" 0 :: serve 0 2 ++ serve 1 2 ++ serve 0 1 ++ serve 1 1)).map
        fun Q => decide (receivedOf Q = some 4)) = some true := by
    decide +kernel
  obtain ⟨Q, trace, hrun, hreceived⟩ := Pool.play_reach hplay
  exact ⟨Q, hreceived, (grn_is_posted_once hrun rfl (by decide)).2⟩

end Runs

end DddBoilerplate.Procurement
