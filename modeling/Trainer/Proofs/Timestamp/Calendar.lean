import Mathlib
import Trainer.Proofs.Timestamp

/-!
# Moments of the calendar

A moment has a day that its month has and a time of day (`InCalendar`); it is valid when its year is
in range as well (`isValid_iff_inCalendar`).

* The day after a day of the calendar and the day before it are days of the calendar
  (`InCalendar.nextDay`, `InCalendar.previousDay`), so a local time is still one when it is moved to
  UTC (`InCalendar.toUtc`).
* A time that is read is valid (`isValid_of_parse?`), hence written and read back unchanged.
-/

namespace Trainer
namespace Timestamp

variable {t : Timestamp}

/-! ## Months -/

/-- A month has at least 28 days. -/
theorem le_monthLength (year : Int) (month : Nat) (hfirst : 1 ≤ month) (hlast : month ≤ 12) :
    28 ≤ monthLength year month := by
  unfold monthLength
  split
  · split
    · omega
    · omega
  split
  · omega
  split
  · omega
  · omega

theorem monthLength_december (year : Int) : monthLength year 12 = 31 := rfl

/-! ## Days -/

/-- A day that its month has and a time of day, in whatever year. -/
structure InCalendar (t : Timestamp) : Prop where
  day_pos : 1 ≤ t.day
  day_le : t.day ≤ monthLength t.year t.month
  hour_le : t.hour ≤ 23
  minute_le : t.minute ≤ 59
  second_le : t.second ≤ 60
  nano_lt : t.nano < 1000000000

/-- A time is valid if it is in the calendar and its year can be written. -/
theorem isValid_iff_inCalendar : t.isValid = true ↔ yearInRange t.year = true ∧ t.InCalendar := by
  rw [isValid_iff]
  constructor
  · rintro ⟨hyear, hday, hlast, hhour, hminute, hsecond, hnano⟩
    exact ⟨hyear, hday, hlast, hhour, hminute, hsecond, hnano⟩
  · rintro ⟨hyear, h⟩
    exact ⟨hyear, h.day_pos, h.day_le, h.hour_le, h.minute_le, h.second_le, h.nano_lt⟩

theorem InCalendar.month_le (h : t.InCalendar) : t.month ≤ 12 := by
  have hlength : 0 < monthLength t.year t.month := h.day_pos.trans h.day_le
  exact month_le_of_monthLength_pos hlength

/-- Another day of the calendar at the same time of day. -/
theorem InCalendar.withDate (h : t.InCalendar) {year : Int} {month day : Nat} (hday : 1 ≤ day)
    (hlast : day ≤ monthLength year month) :
    InCalendar { t with year := year, month := month, day := day } where
  day_pos := hday
  day_le := hlast
  hour_le := h.hour_le
  minute_le := h.minute_le
  second_le := h.second_le
  nano_lt := h.nano_lt

/-- The day after a day of the calendar is one of the calendar. -/
theorem InCalendar.nextDay (h : t.InCalendar) : t.nextDay.InCalendar := by
  unfold Timestamp.nextDay
  split
  case isTrue hinside =>
    exact h.withDate (by omega) hinside
  case isFalse =>
    split
    case isTrue hmonth =>
      have hlength := le_monthLength t.year (t.month + 1) (by omega) (by omega)
      exact h.withDate le_rfl (by omega)
    case isFalse =>
      have hlength := le_monthLength (t.year + 1) 1 le_rfl (by omega)
      exact h.withDate le_rfl (by omega)

/-- The day before a day of the calendar is one of the calendar. -/
theorem InCalendar.previousDay (h : t.InCalendar) : t.previousDay.InCalendar := by
  have hday := h.day_pos
  have hlast := h.day_le
  unfold Timestamp.previousDay
  split
  case isTrue hinside =>
    exact h.withDate (by omega) (by omega)
  case isFalse =>
    split
    case isTrue hmonth =>
      -- The day before the first of a month is the last day of the month before.
      have hmonths := h.month_le
      have hlength := le_monthLength t.year (t.month - 1) (by omega) (by omega)
      exact h.withDate (by omega) le_rfl
    case isFalse =>
      exact h.withDate (by omega) (monthLength_december _).ge

/-! ## Moving to UTC -/

/-- Another time of day, given in minutes. -/
theorem InCalendar.withClock (h : t.InCalendar) {clock : Nat} (hclock : clock < 1440) :
    InCalendar { t with hour := clock / 60, minute := clock % 60 } where
  day_pos := h.day_pos
  day_le := h.day_le
  hour_le := by
    change clock / 60 ≤ 23
    omega
  minute_le := by
    change clock % 60 ≤ 59
    omega
  second_le := h.second_le
  nano_lt := h.nano_lt

/-- A local time of the calendar is still one as a moment in UTC. -/
theorem InCalendar.toUtc (h : t.InCalendar) (offset : Int) : (t.toUtc offset).InCalendar := by
  have hclock : (((t.hour : Int) * 60 + t.minute - offset) % 1440).toNat < 1440 := by omega
  have hturned := h.withClock hclock
  simp only [Timestamp.toUtc]
  split
  · exact hturned.previousDay
  split
  · exact hturned.nextDay
  · exact hturned

/-! ## Reading -/

/-- A time that is read is a moment of the calendar, in a year in range. -/
theorem isValid_of_parseChars {cs : List Char} (h : parseChars cs = some t) :
    t.isValid = true := by
  have hpart {α β : Type} {x : Option α} {f : α → Option β} {b : β}
      (hx : (x >>= f) = some b) : ∃ a, x = some a ∧ f a = some b :=
    Option.bind_eq_some_iff.1 hx
  -- The parts are read one after the other; only the last step decides about the moment.
  unfold parseChars at h
  obtain ⟨⟨year, cs₁⟩, -, h⟩ := hpart h
  obtain ⟨cs₂, -, h⟩ := hpart h
  obtain ⟨⟨month, cs₃⟩, -, h⟩ := hpart h
  obtain ⟨cs₄, -, h⟩ := hpart h
  obtain ⟨⟨day, cs₅⟩, -, h⟩ := hpart h
  dsimp only at h
  split at h
  case h_2 => exact absurd h (by simp)
  case h_1 mark rest =>
    split at h
    case isFalse => exact absurd h (by simp)
    case isTrue =>
      obtain ⟨cs₆, -, h⟩ := hpart h
      obtain ⟨⟨hour, cs₇⟩, -, h⟩ := hpart h
      obtain ⟨cs₈, -, h⟩ := hpart h
      obtain ⟨⟨minute, cs₉⟩, -, h⟩ := hpart h
      obtain ⟨cs₁₀, -, h⟩ := hpart h
      obtain ⟨⟨second, cs₁₁⟩, -, h⟩ := hpart h
      obtain ⟨⟨nano, cs₁₂⟩, -, h⟩ := hpart h
      obtain ⟨⟨offset, cs₁₃⟩, -, h⟩ := hpart h
      dsimp only at h
      split at h
      case isFalse => exact absurd h (by simp)
      case isTrue hchecks =>
        simp only [Bool.and_eq_true] at hchecks
        obtain ⟨⟨-, hlocal⟩, hyear⟩ := hchecks
        have hcalendar := (isValid_iff_inCalendar.1 hlocal).2
        cases h
        exact isValid_iff_inCalendar.2 ⟨hyear, hcalendar.toUtc offset⟩

/-- A time that was read is valid. -/
theorem isValid_of_parse? {s : String} (h : parse? s = some t) : t.isValid = true :=
  isValid_of_parseChars h

end Timestamp
end Trainer
