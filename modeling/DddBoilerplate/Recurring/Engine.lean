/- module: DddBoilerplate/Recurring/Engine
   generality: I
   digest: The dates of a recurrence: its next run after a date, and the series it belongs to. -/

import Mathlib.Tactic.Ring
import DddBoilerplate.Domain.Calendar

set_option autoImplicit false
set_option relaxedAutoImplicit false
set_option linter.all false

namespace DddBoilerplate.Recurring

/-- A calendar date, as its number of days from the first of January 1970. -/
abbrev Date := Nat

inductive RecurrenceFrequency where
  | daily | weekly | monthly | yearly
  deriving DecidableEq

inductive TimeUnit where
  | day | week | month | year
  deriving DecidableEq

/-- `UNIT_BY_FREQUENCY` -/
def RecurrenceFrequency.unit : RecurrenceFrequency → TimeUnit
  | daily => .day
  | weekly => .week
  | monthly => .month
  | yearly => .year

/-- What the date library does: `add zone date n unit` is the calendar date of
`dayjs.tz(date, zone).add(n, unit)`. Days and weeks are counted; months and years keep the day of
the month where they can. -/
structure Dayjs where
  add : String → Date → Nat → TimeUnit → Date
  add_day : ∀ zone date n, add zone date n .day = date + n
  add_week : ∀ zone date n, add zone date n .week = date + 7 * n

/-- The civil calendar. -/
def civil : Dayjs where
  add _ date n
    | .day => date + n
    | .week => date + 7 * n
    | .month => Calendar.addMonths date n
    | .year => Calendar.addMonths date (12 * n)
  add_day _ _ _ := rfl
  add_week _ _ _ := rfl

/-- `MAX_ANCHOR_STEPS` -/
def maxAnchorSteps : Nat := 10000

variable (dayjs : Dayjs)

/-- The first candidate after `date`, from the given step of the walk on. -/
def anchorWalk (zone : String) (base : Date) (interval : Nat) (unit : TimeUnit) (date : Date) :
    Nat → Nat → Option Date
  | 0, _ => none
  | remaining + 1, step =>
    let candidate := dayjs.add zone base (step * interval) unit
    if date < candidate then some candidate
    else anchorWalk zone base interval unit date remaining (step + 1)

/-- `RecurrenceEngine.nextRunDate` -/
def nextRunDate (frequency : RecurrenceFrequency) (interval : Int) (date : Date) (zone : String)
    (anchor : Option Date) : Except String Date :=
  if interval ≤ 0 then .error s!"interval must be a positive integer, got {interval}"
  else
    match anchor, frequency with
    | some base, .monthly | some base, .yearly =>
      match anchorWalk dayjs zone base interval.toNat frequency.unit date maxAnchorSteps 1 with
      | some candidate => .ok candidate
      | none =>
        .error s!"Recurrence anchor walk exceeded {maxAnchorSteps} steps (interval too small?)"
    | _, _ => .ok (dayjs.add zone date interval.toNat frequency.unit)

/-- The `k`-th date of the series that starts at `start`. -/
def occurrence (frequency : RecurrenceFrequency) (interval : Nat) (zone : String) (start : Date)
    (k : Nat) : Date :=
  if k = 0 then start else dayjs.add zone start (k * interval) frequency.unit

variable {dayjs} {frequency : RecurrenceFrequency} {interval : Int} {date next start base : Date}
variable {zone : String}

theorem anchorWalk_spec {unit : TimeUnit} {n remaining step : Nat}
    (h : anchorWalk dayjs zone base n unit date remaining step = some next) :
    date < next ∧ ∃ k, step ≤ k ∧ next = dayjs.add zone base (k * n) unit := by
  induction remaining generalizing step with
  | zero => cases h
  | succ remaining ih =>
    simp only [anchorWalk] at h
    split at h
    · rename_i hlt
      obtain rfl := Option.some.inj h
      exact ⟨hlt, step, le_rfl, rfl⟩
    · obtain ⟨hlt, k, hk, hnext⟩ := ih h
      exact ⟨hlt, k, by omega, hnext⟩

/-- What the engine answers: a later date, counted from the date or walked to from the anchor. -/
theorem nextRunDate_cases {anchor : Option Date}
    (h : nextRunDate dayjs frequency interval date zone anchor = .ok next) :
    0 < interval ∧
      ((∃ base k, anchor = some base ∧ (frequency = .monthly ∨ frequency = .yearly) ∧
          1 ≤ k ∧ date < next ∧
          next = dayjs.add zone base (k * interval.toNat) frequency.unit) ∨
        ((frequency = .daily ∨ frequency = .weekly ∨ anchor = none) ∧
          next = dayjs.add zone date interval.toNat frequency.unit)) := by
  simp only [nextRunDate] at h
  split at h
  · cases h
  rename_i hpositive
  refine ⟨by omega, ?_⟩
  split at h
  · split at h
    · rename_i hwalk
      obtain rfl := Except.ok.inj h
      obtain ⟨hlt, k, hk, hnext⟩ := anchorWalk_spec hwalk
      exact .inl ⟨_, k, rfl, .inl rfl, hk, hlt, hnext⟩
    · cases h
  · split at h
    · rename_i hwalk
      obtain rfl := Except.ok.inj h
      obtain ⟨hlt, k, hk, hnext⟩ := anchorWalk_spec hwalk
      exact .inl ⟨_, k, rfl, .inr rfl, hk, hlt, hnext⟩
    · cases h
  · rename_i hmonthly hyearly
    refine .inr ⟨?_, (Except.ok.inj h).symm⟩
    cases anchor with
    | none => exact .inr (.inr rfl)
    | some base =>
      cases frequency with
      | daily => exact .inl rfl
      | weekly => exact .inr (.inl rfl)
      | monthly => exact absurd rfl (hmonthly base rfl)
      | yearly => exact absurd rfl (hyearly base rfl)

/-- Counted or anchored at its start, a recurrence moves forward. -/
theorem lt_nextRunDate
    (h : nextRunDate dayjs frequency interval date zone (some start) = .ok next) :
    date < next := by
  obtain ⟨hpositive, ⟨base, k, _, _, _, hlt, _⟩ | ⟨hcounted, rfl⟩⟩ := nextRunDate_cases h
  · exact hlt
  · rcases hcounted with rfl | rfl | hnone
    · have hadd := dayjs.add_day zone date interval.toNat
      have hcount : 0 < interval.toNat := by omega
      change date < dayjs.add zone date interval.toNat .day
      rw [hadd]
      exact Nat.lt_add_of_pos_right (by omega)
    · have hadd := dayjs.add_week zone date interval.toNat
      have hcount : 0 < interval.toNat := by omega
      change date < dayjs.add zone date interval.toNat .week
      rw [hadd]
      exact Nat.lt_add_of_pos_right (by omega)
    · cases hnone

/-- From a date of its series, a recurrence goes to another date of the series. -/
theorem occurrence_of_nextRunDate {k : Nat}
    (hdate : date = occurrence dayjs frequency interval.toNat zone start k)
    (h : nextRunDate dayjs frequency interval date zone (some start) = .ok next) :
    ∃ k', next = occurrence dayjs frequency interval.toNat zone start k' := by
  obtain ⟨hpositive, ⟨base, k', hbase, _, hk', _, hnext⟩ | ⟨hcounted, hnext⟩⟩ :=
    nextRunDate_cases h
  · obtain rfl := Option.some.inj hbase
    exact ⟨k', by rw [occurrence, if_neg (by omega), hnext]⟩
  · refine ⟨k + 1, ?_⟩
    rw [hnext, hdate]
    rcases hcounted with rfl | rfl | hnone
    · simp only [occurrence, RecurrenceFrequency.unit, dayjs.add_day, Nat.succ_ne_zero, if_false]
      split
      · rename_i hzero
        simp [hzero]
      · ring
    · simp only [occurrence, RecurrenceFrequency.unit, dayjs.add_week, Nat.succ_ne_zero, if_false]
      split
      · rename_i hzero
        simp [hzero]
      · ring
    · cases hnone

end DddBoilerplate.Recurring
