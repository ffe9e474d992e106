/-
  Key dialogue — dates of the proleptic Gregorian calendar.

  * A `Date` is a year, a month and a day that exists in that month; the year
    may be negative or above 9999;
  * `Date.next` is the following day, by the month lengths and the leap-year
    rule;
  * `Date.number` counts the days from the end of the year before year 1;
    `number_next`: the following day has the following number;
  * `Date.daysUntil` is the validity period that a key prompt asks for.
-/
namespace KeyDialogue

/-- A leap year is divisible by 4, and by 400 if it is divisible by 100. -/
def isLeapYear (year : Int) : Bool :=
  year % 4 == 0 && (year % 100 != 0 || year % 400 == 0)

/-- The length of a month, counted from 1. -/
def daysInMonth (year : Int) (month : Nat) : Nat :=
  match month with
  | 2 => if isLeapYear year then 29 else 28
  | 4 | 6 | 9 | 11 => 30
  | _ => 31

/-- A calendar date. -/
structure Date where
  year : Int
  month : Nat
  day : Nat
  month_pos : 0 < month
  month_le : month ≤ 12
  day_pos : 0 < day
  day_le : day ≤ daysInMonth year month
  deriving DecidableEq

namespace Date

/-- The date with the given parts, if there is one. -/
def ofParts? (year : Int) (month day : Nat) : Option Date :=
  if h : 0 < month ∧ month ≤ 12 ∧ 0 < day ∧ day ≤ daysInMonth year month then
    some ⟨year, month, day, h.1, h.2.1, h.2.2.1, h.2.2.2⟩
  else none

/-- Every date comes from its parts. -/
@[simp] theorem ofParts?_self (d : Date) : ofParts? d.year d.month d.day = some d := by
  simp [ofParts?, d.month_pos, d.month_le, d.day_pos, d.day_le]

theorem ofParts?_eq_some_iff {y : Int} {m n : Nat} {d : Date} :
    ofParts? y m n = some d ↔ d.year = y ∧ d.month = m ∧ d.day = n := by
  constructor
  · intro h
    simp only [ofParts?] at h
    split at h
    · cases h; simp
    · cases h
  · rintro ⟨rfl, rfl, rfl⟩; simp

theorem one_le_daysInMonth (year : Int) (month : Nat) : 1 ≤ daysInMonth year month := by
  unfold daysInMonth; split <;> (try split) <;> omega

/-- The following day. -/
def next (d : Date) : Date :=
  if h : d.day < daysInMonth d.year d.month then
    ⟨d.year, d.month, d.day + 1, d.month_pos, d.month_le, Nat.succ_pos _, h⟩
  else if h : d.month < 12 then
    ⟨d.year, d.month + 1, 1, Nat.succ_pos _, h, Nat.one_pos, one_le_daysInMonth _ _⟩
  else
    ⟨d.year + 1, 1, 1, Nat.one_pos, by decide, Nat.one_pos, one_le_daysInMonth _ _⟩

/-! ## Counting days -/

/-- The days from the start of year 1 to the start of the given year; negative
    for the years before. -/
def daysBeforeYear (year : Int) : Int :=
  let past := year - 1
  365 * past + past / 4 - past / 100 + past / 400

/-- The days of the first months of a year. -/
def daysInMonths (year : Int) : Nat → Nat
  | 0 => 0
  | m + 1 => daysInMonths year m + daysInMonth year (m + 1)

/-- The number of a date; 1 January of year 1 has number 1. -/
def number (d : Date) : Int :=
  daysBeforeYear d.year + daysInMonths d.year (d.month - 1) + d.day

/-- The twelve months make up the year. -/
theorem daysBeforeYear_succ (year : Int) :
    daysBeforeYear (year + 1) = daysBeforeYear year + daysInMonths year 12 := by
  have hleap : isLeapYear year = true ↔
      year % 4 = 0 ∧ (¬year % 100 = 0 ∨ year % 400 = 0) := by simp [isLeapYear]
  simp only [daysBeforeYear, daysInMonths, daysInMonth, hleap]
  split <;> omega

/-- The following day has the following number. -/
theorem number_next (d : Date) : d.next.number = d.number + 1 := by
  have hpos := d.month_pos
  have hle := d.month_le
  have hday := d.day_le
  unfold next
  split
  · simp only [number]; omega
  · split
    · next h _ =>
      obtain ⟨m, hm⟩ : ∃ m, d.month = m + 1 := ⟨d.month - 1, by omega⟩
      have : d.day = daysInMonth d.year (m + 1) := by rw [← hm]; omega
      simp only [number, hm, Nat.add_sub_cancel, daysInMonths]
      omega
    · have hm : d.month = 12 := by omega
      have : d.day = daysInMonth d.year 12 := by rw [← hm]; omega
      have hy := daysBeforeYear_succ d.year
      have h12 : daysInMonths d.year 12 = daysInMonths d.year (12 - 1) + daysInMonth d.year 12 :=
        rfl
      have h0 : daysInMonths (d.year + 1) (1 - 1) = 0 := rfl
      simp only [number, hm, hy, h12, h0]
      omega

/-- The whole days from `today` until a date; none if the date is not in the
    future. -/
def daysUntil (today d : Date) : Nat := (d.number - today.number).toNat

end Date

end KeyDialogue
