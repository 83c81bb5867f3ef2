/- module: DddBoilerplate/Recurring/Series
   generality: I
   digest: The recurrence engine on calendar dates: it walks the series of its anchor and misses nothing. -/

import DddBoilerplate.Domain.CivilCalendar
import DddBoilerplate.Recurring.Engine

set_option autoImplicit false
set_option relaxedAutoImplicit false
set_option linter.all false

namespace DddBoilerplate.Recurring.RecurrenceEngine

open CivilCalendar

section Engine

/-- `getTime` of the UTC midnight of a date. -/
def getTime (date : CivilDate) : ℤ := date.dayNumber * 86400000

/-- The calendar's addition: days and weeks are counted, months and years keep the day of the month
where they can. -/
def calendarAdd (date : CivilDate) (n : ℕ) : TimeUnit → CivilDate
  | .day => date.addDays n
  | .week => date.addDays (7 * n)
  | .month => date.addMonths n
  | .year => date.addMonths (12 * n)

/-- `candidate` is later than `date`. -/
def isAfterWall (candidate date : CivilDate) : Bool := getTime date < getTime candidate

/-- `dayjs.tz(date, zone).add(n, unit)`, as a calendar date. -/
abbrev DayjsAdd := String → CivilDate → ℕ → TimeUnit → CivilDate

variable (add : DayjsAdd)

/-- The loop of `nextRunDate`, with the steps that remain. -/
def walkFrom (zone : String) (base : CivilDate) (interval : ℕ) (unit : TimeUnit)
    (date : CivilDate) : ℕ → ℕ → Option CivilDate
  | 0, _ => none
  | remaining + 1, step =>
    let candidate := add zone base (step * interval) unit
    if isAfterWall candidate date then some candidate
    else walkFrom zone base interval unit date remaining (step + 1)

def nextRunDate (frequency : RecurrenceFrequency) (interval : ℤ) (date : CivilDate)
    (zone : String) (anchor : Option CivilDate) : Except String CivilDate :=
  if interval ≤ 0 then .error s!"interval must be a positive integer, got {interval}"
  else
    match anchor, frequency with
    | some base, .monthly | some base, .yearly =>
      match walkFrom add zone base interval.toNat frequency.unit date maxAnchorSteps 1 with
      | some candidate => .ok candidate
      | none =>
        .error s!"Recurrence anchor walk exceeded {maxAnchorSteps} steps (interval too small?)"
    | _, _ => .ok (add zone date interval.toNat frequency.unit)

/-- The engine applied to its own answers, from the anchor on. -/
def iterated (frequency : RecurrenceFrequency) (interval : ℤ) (zone : String)
    (anchor : CivilDate) : ℕ → Except String CivilDate
  | 0 => .ok anchor
  | k + 1 => do
    nextRunDate add frequency interval (← iterated frequency interval zone anchor k) zone
      (some anchor)

end Engine

section Series

variable {frequency : RecurrenceFrequency} {interval : ℤ} {anchor date : CivilDate}
variable {add : DayjsAdd} {zone : String} {k j n : ℕ}

/-- `k` intervals after the anchor. -/
def series (frequency : RecurrenceFrequency) (interval : ℤ) (anchor : CivilDate) (k : ℕ) :
    CivilDate :=
  calendarAdd anchor (k * interval.toNat) frequency.unit

@[simp] theorem series_zero : series frequency interval anchor 0 = anchor := by
  cases frequency <;> simp [series, calendarAdd, RecurrenceFrequency.unit]

/-- However the dates are clamped, a later element of the series is the later date. -/
theorem series_strictMono (hinterval : 1 ≤ interval) :
    StrictMono fun k => getTime (series frequency interval anchor k) := by
  intro k j hlt
  have hpositive : 0 < interval.toNat := by omega
  have hmore : k * interval.toNat < j * interval.toNat := Nat.mul_lt_mul_of_pos_right hlt hpositive
  have hearlier : (series frequency interval anchor k).dayNumber <
      (series frequency interval anchor j).dayNumber := by
    cases frequency with
    | daily =>
      simp only [series, calendarAdd, RecurrenceFrequency.unit, CivilDate.dayNumber_addDays]
      omega
    | weekly =>
      simp only [series, calendarAdd, RecurrenceFrequency.unit, CivilDate.dayNumber_addDays]
      omega
    | monthly => exact CivilDate.dayNumber_addMonths_lt hmore
    | yearly => exact CivilDate.dayNumber_addMonths_lt (by omega)
  change getTime (series frequency interval anchor k) < getTime (series frequency interval anchor j)
  unfold getTime
  omega

theorem isAfterWall_iff {candidate : CivilDate} :
    isAfterWall candidate date = true ↔ getTime date < getTime candidate := decide_eq_true_iff

/-- The walk stops at the first element, from its step on, that is later than the date. -/
theorem walkFrom_eq_some {base : CivilDate} {unit : TimeUnit} {interval remaining step : ℕ}
    (hadd : ∀ zone date n unit, add zone date n unit = calendarAdd date n unit)
    (hk : step ≤ k) (hreach : k < step + remaining)
    (hafter : getTime date < getTime (calendarAdd base (k * interval) unit))
    (hfirst : ∀ j, step ≤ j → j < k →
      ¬ getTime date < getTime (calendarAdd base (j * interval) unit)) :
    walkFrom add zone base interval unit date remaining step =
      some (calendarAdd base (k * interval) unit) := by
  induction remaining generalizing step with
  | zero => omega
  | succ remaining ih =>
    rw [walkFrom]
    simp only [hadd, isAfterWall_iff]
    by_cases hstep : step = k
    · subst hstep
      rw [if_pos hafter]
    · rw [if_neg (hfirst step le_rfl (by omega))]
      exact ih (by omega) (by omega) fun j hj hjk => hfirst j (by omega) hjk

/-- Where the engine walks its anchor's series, it answers the first later element. -/
theorem nextRunDate_anchored
    (hadd : ∀ zone date n unit, add zone date n unit = calendarAdd date n unit)
    (hinterval : 1 ≤ interval) (hanchored : frequency = .monthly ∨ frequency = .yearly)
    (hk : 1 ≤ k) (hreach : k ≤ maxAnchorSteps)
    (hafter : getTime date < getTime (series frequency interval anchor k))
    (hfirst : ∀ j, 1 ≤ j → j < k → ¬ getTime date < getTime (series frequency interval anchor j)) :
    nextRunDate add frequency interval date zone (some anchor) =
      .ok (series frequency interval anchor k) := by
  have hwalk : walkFrom add zone anchor interval.toNat frequency.unit date maxAnchorSteps 1 =
      some (series frequency interval anchor k) :=
    walkFrom_eq_some hadd hk (by omega) hafter hfirst
  unfold nextRunDate
  rw [if_neg (by omega)]
  rcases hanchored with rfl | rfl
  · simp only [hwalk]
  · simp only [hwalk]

/-- From an element of the series the engine goes to the next one. -/
theorem nextRunDate_series
    (hadd : ∀ zone date n unit, add zone date n unit = calendarAdd date n unit)
    (hinterval : 1 ≤ interval) (hreach : k < maxAnchorSteps) :
    nextRunDate add frequency interval (series frequency interval anchor k) zone (some anchor) =
      .ok (series frequency interval anchor (k + 1)) := by
  have hmono : StrictMono fun k => getTime (series frequency interval anchor k) :=
    series_strictMono hinterval
  by_cases hanchored : frequency = .monthly ∨ frequency = .yearly
  · refine nextRunDate_anchored hadd hinterval hanchored (by omega) hreach (hmono (by omega)) ?_
    intro j _ hj hlt
    exact absurd (hmono.lt_iff_lt.mp hlt) (by omega)
  · unfold nextRunDate
    rw [if_neg (by omega)]
    cases frequency with
    | daily =>
      simp only [hadd, series, calendarAdd, RecurrenceFrequency.unit, Nat.succ_mul,
        CivilDate.addDays_add]
    | weekly =>
      have hweeks : 7 * ((k + 1) * interval.toNat) = 7 * (k * interval.toNat) + 7 * interval.toNat := by
        ring
      simp only [hadd, series, calendarAdd, RecurrenceFrequency.unit, hweeks,
        CivilDate.addDays_add]
    | monthly => exact absurd (.inl rfl) hanchored
    | yearly => exact absurd (.inr rfl) hanchored

/-- The recurrence of an anchor: iterating goes through the series, in order and without a repeat,
on the day of the month of the anchor; and from any date the next run is the first later element. -/
structure FollowsSeries (add : DayjsAdd) (frequency : RecurrenceFrequency) (interval : ℤ)
    (zone : String) (anchor : CivilDate) : Prop where
  iterated : ∀ k ≤ maxAnchorSteps, iterated add frequency interval zone anchor k =
    .ok (series frequency interval anchor k)
  increasing : StrictMono fun k => getTime (series frequency interval anchor k)
  day : frequency = .monthly ∨ frequency = .yearly → ∀ k,
    (series frequency interval anchor k).day = min anchor.day
      (daysInMonth (series frequency interval anchor k).year
        (series frequency interval anchor k).month)
  least : frequency = .monthly ∨ frequency = .yearly → ∀ date,
    getTime date < getTime (series frequency interval anchor maxAnchorSteps) →
      ∃ k, 1 ≤ k ∧
        nextRunDate add frequency interval date zone (some anchor) =
          .ok (series frequency interval anchor k) ∧
        getTime date < getTime (series frequency interval anchor k) ∧
        ∀ j, 1 ≤ j → getTime date < getTime (series frequency interval anchor j) →
          getTime (series frequency interval anchor k) ≤
            getTime (series frequency interval anchor j)

/-- A rent that is due on the last day of January 2024, a leap year, and monthly from there. -/
def endOfJanuary : CivilDate := ⟨2024, 1, 31, by decide, by decide, by decide, by decide⟩

end Series

section Numbers

/-- The date numbers of `Recurring.Date` are read as calendar dates, one day after the other, and
the date library adds to them as the calendar does. -/
structure Reads (dayjs : Dayjs) (read : Date → CivilDate) : Prop where
  next : ∀ n, read (n + 1) = (read n).nextDay
  month : ∀ zone date n, read (dayjs.add zone date n .month) = (read date).addMonths n
  year : ∀ zone date n, read (dayjs.add zone date n .year) = (read date).addMonths (12 * n)

variable {dayjs : Dayjs} {read : Date → CivilDate} {date base n : Date} {zone : String}

theorem Reads.add_days (h : Reads dayjs read) (n : ℕ) : read (date + n) = (read date).addDays n := by
  induction n with
  | zero => rfl
  | succ n ih =>
    have hnext : (read date).addDays (n + 1) = ((read date).addDays n).nextDay :=
      Function.iterate_succ_apply' _ _ _
    rw [hnext, ← ih, ← h.next]
    rfl

theorem Reads.add (h : Reads dayjs read) (n : ℕ) (unit : TimeUnit) :
    read (dayjs.add zone date n unit) = calendarAdd (read date) n unit := by
  cases unit with
  | day =>
    rw [dayjs.add_day]
    exact h.add_days n
  | week =>
    rw [dayjs.add_week]
    exact h.add_days (7 * n)
  | month => exact h.month zone date n
  | year => exact h.year zone date n

theorem Reads.isAfterWall (h : Reads dayjs read) (date date' : Date) :
    RecurrenceEngine.isAfterWall (read date') (read date) = true ↔ date < date' := by
  have hday : ∀ d : Date, (read d).dayNumber = (read 0).dayNumber + d := by
    intro d
    have hread : read (0 + d) = (read 0).addDays d := h.add_days d
    rw [Nat.zero_add] at hread
    rw [hread, CivilDate.dayNumber_addDays]
  have hcast : ((date : ℕ) : ℤ) < (date' : ℕ) ↔ date < date' := Int.ofNat_lt
  rw [isAfterWall_iff, getTime, getTime, hday date, hday date', ← hcast]
  constructor
  · intro hlt
    omega
  · intro hlt
    omega

/-- The engine on date numbers answers what the engine on calendar dates answers. -/
theorem Reads.nextRunDate (h : Reads dayjs read) (frequency : RecurrenceFrequency) (interval : ℤ)
    (date : Date) (zone : String) (anchor : Option Date) :
    (Recurring.nextRunDate dayjs frequency interval date zone anchor).map read =
      RecurrenceEngine.nextRunDate (fun _ date n unit => calendarAdd date n unit) frequency interval
        (read date) zone (anchor.map read) := by
  have hwalk : ∀ (base : Date) (unit : TimeUnit) (remaining step : ℕ),
      (anchorWalk dayjs zone base interval.toNat unit date remaining step).map read =
        walkFrom (fun _ date n unit => calendarAdd date n unit) zone (read base) interval.toNat unit
          (read date) remaining step := by
    intro base unit remaining
    induction remaining with
    | zero => exact fun _ => rfl
    | succ remaining ih =>
      intro step
      have hadd : ∀ n, read (dayjs.add zone base n unit) = calendarAdd (read base) n unit :=
        fun n => h.add n unit
      rw [anchorWalk, walkFrom]
      simp only [← hadd, h.isAfterWall]
      split
      · rfl
      · exact ih (step + 1)
  unfold Recurring.nextRunDate RecurrenceEngine.nextRunDate
  split
  · rfl
  · cases anchor with
    | none => exact congrArg Except.ok (h.add _ _)
    | some base =>
      cases frequency with
      | daily => exact congrArg Except.ok (h.add _ _)
      | weekly => exact congrArg Except.ok (h.add _ _)
      | monthly =>
        simp only [Option.map_some, ← hwalk]
        cases anchorWalk dayjs zone base interval.toNat RecurrenceFrequency.monthly.unit date
          maxAnchorSteps 1 <;> rfl
      | yearly =>
        simp only [Option.map_some, ← hwalk]
        cases anchorWalk dayjs zone base interval.toNat RecurrenceFrequency.yearly.unit date
          maxAnchorSteps 1 <;> rfl

theorem first_le : 1 ≤ 1 := le_rfl

/-- The dates from the first of January 1970 on, counted. -/
def epoch : CivilDate := ⟨1970, 1, 1, first_le, by decide, first_le, by decide⟩

theorem dayNumber_counted (n : ℕ) : (epoch.addDays n).dayNumber = n := by
  have hepoch : epoch.dayNumber = 0 := by decide
  rw [CivilDate.dayNumber_addDays, hepoch, zero_add]

theorem counted_dayNumber {date : CivilDate} (h : 0 ≤ date.dayNumber) :
    epoch.addDays date.dayNumber.toNat = date := by
  apply CivilDate.dayNumber_injective
  rw [dayNumber_counted, Int.toNat_of_nonneg h]

/-- The calendar's addition, on date numbers. -/
def counted : Dayjs where
  add _ date n
    | .day => date + n
    | .week => date + 7 * n
    | .month => ((epoch.addDays date).addMonths n).dayNumber.toNat
    | .year => ((epoch.addDays date).addMonths (12 * n)).dayNumber.toNat
  add_day _ _ _ := rfl
  add_week _ _ _ := rfl

theorem counted_reads : Reads counted epoch.addDays := by
  have hlater : ∀ (date : Date) (n : ℕ), 0 ≤ ((epoch.addDays date).addMonths n).dayNumber := by
    intro date n
    have hdate : (0 : ℤ) ≤ (epoch.addDays date).dayNumber := by
      rw [dayNumber_counted]
      exact Int.natCast_nonneg date
    rcases Nat.eq_zero_or_pos n with rfl | hpos
    · rwa [CivilDate.addMonths_zero]
    · have hlt : ((epoch.addDays date).addMonths 0).dayNumber <
          ((epoch.addDays date).addMonths n).dayNumber := CivilDate.dayNumber_addMonths_lt hpos
      rw [CivilDate.addMonths_zero] at hlt
      omega
  refine ⟨fun n => ?_, fun zone date n => ?_, fun zone date n => ?_⟩
  · exact Function.iterate_succ_apply' _ _ _
  · exact counted_dayNumber (hlater date n)
  · exact counted_dayNumber (hlater date (12 * n))

end Numbers

end DddBoilerplate.Recurring.RecurrenceEngine
