/- module: DddBoilerplate/Domain/CivilCalendar
   generality: G
   digest: The dates of the civil calendar, their order in time, and what adding days and months does. -/

import Mathlib.Algebra.Order.Ring.Int
import Mathlib.Data.Int.ConditionallyCompleteOrder
import Mathlib.Logic.Function.Iterate
import Mathlib.Order.Monotone.Basic
import Mathlib.Tactic.IntervalCases
import Mathlib.Tactic.Ring

set_option autoImplicit false
set_option relaxedAutoImplicit false
set_option linter.all false

namespace DddBoilerplate.CivilCalendar

def IsLeap (year : ℤ) : Prop := year % 4 = 0 ∧ (year % 100 ≠ 0 ∨ year % 400 = 0)

instance (year : ℤ) : Decidable (IsLeap year) := inferInstanceAs (Decidable (_ ∧ _))

def daysInMonth (year : ℤ) (month : ℕ) : ℕ :=
  if month = 2 then if IsLeap year then 29 else 28
  else if month = 4 ∨ month = 6 ∨ month = 9 ∨ month = 11 then 30
  else 31

theorem daysInMonth_pos (year : ℤ) (month : ℕ) : 1 ≤ daysInMonth year month := by
  unfold daysInMonth
  split_ifs <;> omega

/-- A date that exists. -/
structure CivilDate where
  year : ℤ
  month : ℕ
  day : ℕ
  month_pos : 1 ≤ month
  month_le : month ≤ 12
  day_pos : 1 ≤ day
  day_le : day ≤ daysInMonth year month
  deriving DecidableEq

/-- The days of a year before a month. -/
def daysBeforeMonth (year : ℤ) (month : ℕ) : ℤ :=
  ([0, 31, 59, 90, 120, 151, 181, 212, 243, 273, 304, 334].getD (month - 1) 0 : ℕ) +
    if 2 < month ∧ IsLeap year then 1 else 0

/-- The days from the first of January of the year 1 to that of a year. -/
def daysBeforeYear (year : ℤ) : ℤ :=
  365 * (year - 1) + (year - 1) / 4 - (year - 1) / 100 + (year - 1) / 400

/-- The days from the first of January 1970 to the first of the month with this number, counted
from January of the year 0. -/
def monthStart (index : ℤ) : ℤ :=
  daysBeforeYear (index / 12) + daysBeforeMonth (index / 12) ((index % 12).toNat + 1) - 719162

/-- The length of the month with this number. -/
def monthLength (index : ℤ) : ℕ := daysInMonth (index / 12) ((index % 12).toNat + 1)

theorem daysBeforeYear_succ (year : ℤ) :
    daysBeforeYear (year + 1) = daysBeforeYear year + 365 + if IsLeap year then 1 else 0 := by
  have hfourth : year / 4 = (year - 1) / 4 + if year % 4 = 0 then 1 else 0 := by
    split_ifs <;> omega
  have hcentury : year / 100 = (year - 1) / 100 + if year % 100 = 0 then 1 else 0 := by
    split_ifs <;> omega
  have hera : year / 400 = (year - 1) / 400 + if year % 400 = 0 then 1 else 0 := by
    split_ifs <;> omega
  have hleap : (if IsLeap year then 1 else 0 : ℤ) = (if year % 4 = 0 then 1 else 0) -
      (if year % 100 = 0 then 1 else 0) + if year % 400 = 0 then 1 else 0 := by
    have hcenturies : year % 100 = 0 → year % 4 = 0 := by omega
    have heras : year % 400 = 0 → year % 100 = 0 := by omega
    clear hfourth hcentury hera
    unfold IsLeap
    split_ifs <;> omega
  unfold daysBeforeYear
  rw [hleap, add_sub_cancel_right, hfourth, hcentury, hera]
  ring

/-- A month starts where the one before it ends. -/
theorem monthStart_succ (index : ℤ) :
    monthStart (index + 1) = monthStart index + monthLength index := by
  obtain ⟨year, month, hmonth, rfl⟩ : ∃ year : ℤ, ∃ month : ℕ, month < 12 ∧
      index = 12 * year + month :=
    ⟨index / 12, (index % 12).toNat, by omega, by omega⟩
  have hyear : (12 * year + month : ℤ) / 12 = year := by omega
  have hrest : ((12 * year + month : ℤ) % 12).toNat = month := by omega
  unfold monthStart monthLength
  rw [hyear, hrest]
  by_cases hlast : month = 11
  · subst hlast
    have hyear' : (12 * year + (11 : ℕ) + 1 : ℤ) / 12 = year + 1 := by omega
    have hrest' : ((12 * year + (11 : ℕ) + 1 : ℤ) % 12).toNat = 0 := by omega
    rw [hyear', hrest', daysBeforeYear_succ]
    simp only [daysBeforeMonth, daysInMonth]
    split_ifs <;> simp_all <;> omega
  · have hyear' : (12 * year + month + 1 : ℤ) / 12 = year := by omega
    have hrest' : ((12 * year + month + 1 : ℤ) % 12).toNat = month + 1 := by omega
    rw [hyear', hrest']
    have hbefore : month < 11 := by omega
    clear hmonth hlast hyear hrest hyear' hrest'
    interval_cases month <;> simp [daysBeforeMonth, daysInMonth] <;>
      first | omega | (split_ifs <;> omega)

theorem monthStart_strictMono : StrictMono monthStart := by
  refine strictMono_int_of_lt_succ fun index => ?_
  have hlength : 1 ≤ monthLength index := daysInMonth_pos _ _
  rw [monthStart_succ]
  omega

namespace CivilDate

variable {date date' : CivilDate} {n m : ℕ}

/-- The number of the month, counted from January of the year 0. -/
def monthIndex (date : CivilDate) : ℤ := 12 * date.year + (date.month - 1 : ℕ)

theorem monthIndex_div (date : CivilDate) : date.monthIndex / 12 = date.year := by
  have hle := date.month_le
  unfold monthIndex
  omega

theorem monthIndex_mod (date : CivilDate) : (date.monthIndex % 12).toNat + 1 = date.month := by
  have hpos := date.month_pos
  have hle := date.month_le
  unfold monthIndex
  omega

theorem day_le_monthLength (date : CivilDate) : date.day ≤ monthLength date.monthIndex := by
  unfold monthLength
  rw [monthIndex_div, monthIndex_mod]
  exact date.day_le

theorem eq_of_monthIndex_eq (hmonth : date.monthIndex = date'.monthIndex)
    (hday : date.day = date'.day) : date = date' := by
  have hyear : date.year = date'.year := by rw [← monthIndex_div, hmonth, monthIndex_div]
  have hmonth' : date.month = date'.month := by rw [← monthIndex_mod, hmonth, monthIndex_mod]
  cases date
  cases date'
  simp only at hyear hmonth' hday
  subst hyear hmonth' hday
  rfl

/-- The number of days since the first of January 1970. -/
def dayNumber (date : CivilDate) : ℤ := monthStart date.monthIndex + (date.day - 1 : ℕ)

/-- A date in an earlier month is the earlier date. -/
theorem dayNumber_lt_of_monthIndex_lt (h : date.monthIndex < date'.monthIndex) :
    date.dayNumber < date'.dayNumber := by
  have hstart := monthStart_strictMono.monotone (Int.add_one_le_of_lt h)
  have hday := date.day_le_monthLength
  have hpos := date.day_pos
  rw [monthStart_succ] at hstart
  unfold dayNumber
  omega

theorem dayNumber_injective : Function.Injective dayNumber := by
  intro date date' heq
  rcases lt_trichotomy date.monthIndex date'.monthIndex with hlt | hsame | hlt
  · exact absurd heq (dayNumber_lt_of_monthIndex_lt hlt).ne
  · have hpos := date.day_pos
    have hpos' := date'.day_pos
    unfold dayNumber at heq
    rw [hsame] at heq
    exact eq_of_monthIndex_eq hsame (by omega)
  · exact absurd heq (dayNumber_lt_of_monthIndex_lt hlt).ne'

/-- The date in a month with this day, or with the last one where the month is too short. -/
def clamped (index : ℤ) (day : ℕ) (hday : 1 ≤ day) : CivilDate where
  year := index / 12
  month := (index % 12).toNat + 1
  day := min day (monthLength index)
  month_pos := Nat.le_add_left _ _
  month_le := by omega
  day_pos := le_min hday (daysInMonth_pos _ _)
  day_le := min_le_right _ _

@[simp] theorem clamped_monthIndex (index : ℤ) (day : ℕ) (hday : 1 ≤ day) :
    (clamped index day hday).monthIndex = index := by
  unfold clamped monthIndex
  dsimp only
  omega

@[simp] theorem clamped_day (index : ℤ) (day : ℕ) (hday : 1 ≤ day) :
    (clamped index day hday).day = min day (monthLength index) := rfl

/-- The same day some months later, or the last one of that month. -/
def addMonths (date : CivilDate) (n : ℕ) : CivilDate :=
  clamped (date.monthIndex + n) date.day date.day_pos

@[simp] theorem addMonths_monthIndex : (date.addMonths n).monthIndex = date.monthIndex + n :=
  clamped_monthIndex _ _ _

/-- The day of the month is the one that was there before, wherever the month has it. -/
theorem addMonths_day : (date.addMonths n).day =
    min date.day (daysInMonth (date.addMonths n).year (date.addMonths n).month) := rfl

@[simp] theorem addMonths_zero : date.addMonths 0 = date := by
  refine eq_of_monthIndex_eq (by simp) ?_
  have hmonth : date.monthIndex + (0 : ℕ) = date.monthIndex := by simp
  unfold addMonths
  rw [clamped_day, hmonth]
  exact min_eq_left date.day_le_monthLength

/-- More months are a later date, whatever is clamped on the way. -/
theorem dayNumber_addMonths_lt (h : n < m) :
    (date.addMonths n).dayNumber < (date.addMonths m).dayNumber := by
  refine dayNumber_lt_of_monthIndex_lt ?_
  rw [addMonths_monthIndex, addMonths_monthIndex]
  omega

/-- The day after. -/
def nextDay (date : CivilDate) : CivilDate :=
  if h : date.day < daysInMonth date.year date.month then
    { date with day := date.day + 1, day_pos := Nat.le_add_left _ _, day_le := h }
  else clamped (date.monthIndex + 1) 1 le_rfl

theorem dayNumber_nextDay : date.nextDay.dayNumber = date.dayNumber + 1 := by
  have hpos := date.day_pos
  unfold nextDay
  split
  · unfold dayNumber monthIndex
    dsimp only
    omega
  · rename_i hlast
    have hday : date.day = monthLength date.monthIndex := by
      refine le_antisymm date.day_le_monthLength ?_
      unfold monthLength
      rw [monthIndex_div, monthIndex_mod]
      omega
    have hlength : 1 ≤ monthLength (date.monthIndex + 1) := daysInMonth_pos _ _
    unfold dayNumber
    rw [clamped_monthIndex, clamped_day, monthStart_succ]
    omega

def addDays (date : CivilDate) (n : ℕ) : CivilDate := nextDay^[n] date

@[simp] theorem addDays_zero : date.addDays 0 = date := rfl

theorem addDays_add : date.addDays (n + m) = (date.addDays n).addDays m := by
  unfold addDays
  rw [Nat.add_comm, Function.iterate_add_apply]

theorem dayNumber_addDays : (date.addDays n).dayNumber = date.dayNumber + n := by
  induction n with
  | zero => simp
  | succ n ih =>
    have hnext : date.addDays (n + 1) = (date.addDays n).nextDay :=
      Function.iterate_succ_apply' _ _ _
    rw [hnext, dayNumber_nextDay, ih]
    push_cast
    ring

end CivilDate

example : (⟨1970, 1, 1, le_rfl, by decide, le_rfl, by decide⟩ : CivilDate).dayNumber = 0 := by
  decide

end DddBoilerplate.CivilCalendar
