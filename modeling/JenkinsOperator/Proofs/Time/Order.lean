import JenkinsOperator.Time.Span

/-!
# The order of moments

Dates are ordered by year, month and day, and moments by date, second of the day and what has passed
of that second. The calendar counts its days in this order (`Date.dayNumber_lt`), so from a moment to
one that does not stand before it no negative span leads (`Time.since_nonneg`). That holds outside
of leap seconds: within one, the second of the day stands still while time goes on.
-/

namespace JenkinsOperator

/-! ## The days before a year and before a month -/

/-- The number of days before the first of January of a year, counted from year 1. -/
def daysBeforeYear (year : Int) : Int :=
  365 * (year - 1) + (year - 1) / 4 - (year - 1) / 100 + (year - 1) / 400

theorem leapYear_iff {year : Int} :
    leapYear year = true ↔ year % 4 = 0 ∧ year % 100 ≠ 0 ∨ year % 400 = 0 :=
  decide_eq_true_iff

theorem daysBeforeYear_succ (year : Int) :
    daysBeforeYear (year + 1) = daysBeforeYear year + if leapYear year then 366 else 365 := by
  unfold daysBeforeYear
  split
  case isTrue leap =>
    rw [leapYear_iff] at leap
    omega
  case isFalse common =>
    rw [leapYear_iff] at common
    omega

theorem daysBeforeYear_mono {year later : Int} (le : year ≤ later) :
    daysBeforeYear year ≤ daysBeforeYear later := by
  unfold daysBeforeYear
  omega

theorem daysBeforeMonth_succ (year : Int) {month : Nat} (pos : 1 ≤ month) :
    daysBeforeMonth year (month + 1) = daysBeforeMonth year month + daysInMonth year month := by
  obtain ⟨before, rfl⟩ := Nat.exists_eq_add_of_le' pos
  rfl

theorem daysBeforeMonth_mono (year : Int) {month later : Nat} (pos : 1 ≤ month)
    (le : month ≤ later) : daysBeforeMonth year month ≤ daysBeforeMonth year later := by
  induction le with
  | refl => exact Nat.le_refl _
  | step le ih =>
    rw [daysBeforeMonth_succ year (Nat.le_trans pos le)]
    exact Nat.le_add_right_of_le ih

/-- All twelve months make up the year. -/
theorem daysBeforeMonth_thirteen (year : Int) :
    daysBeforeMonth year 13 = if leapYear year then 366 else 365 := by
  cases leap : leapYear year with
  | true => simp [daysBeforeMonth, daysInMonth, leap]
  | false => simp [daysBeforeMonth, daysInMonth, leap]

/-! ## Dates -/

instance : LT Date where
  lt d e := d.year < e.year ∨
    d.year = e.year ∧ (d.month < e.month ∨ d.month = e.month ∧ d.day < e.day)

/-- Dates are in the order of their years, months and days. -/
theorem Date.lt_iff {d e : Date} : d < e ↔ d.year < e.year ∨
    d.year = e.year ∧ (d.month < e.month ∨ d.month = e.month ∧ d.day < e.day) := Iff.rfl

instance (d e : Date) : Decidable (d < e) := decidable_of_iff _ Date.lt_iff.symm

namespace Date

variable (d : Date)

theorem dayNumber_eq :
    d.dayNumber = daysBeforeYear d.year + daysBeforeMonth d.year d.month + d.day := rfl

/-- A date does not lie beyond its month. -/
theorem add_day_le :
    daysBeforeMonth d.year d.month + d.day ≤ daysBeforeMonth d.year (d.month + 1) := by
  rw [daysBeforeMonth_succ d.year d.month_pos]
  exact Nat.add_le_add_left d.day_le _

/-- A date does not lie beyond its year. -/
theorem dayNumber_le : d.dayNumber ≤ daysBeforeYear (d.year + 1) := by
  have month := d.add_day_le
  have year : daysBeforeMonth d.year (d.month + 1) ≤ daysBeforeMonth d.year 13 :=
    daysBeforeMonth_mono d.year (by omega) (Nat.succ_le_succ d.month_le)
  rw [daysBeforeMonth_thirteen] at year
  rw [dayNumber_eq, daysBeforeYear_succ]
  cases leap : leapYear d.year with
  | true =>
    rw [leap, if_pos rfl] at year
    rw [if_pos rfl]
    omega
  | false =>
    rw [leap, if_neg Bool.false_ne_true] at year
    rw [if_neg Bool.false_ne_true]
    omega

/-- The days are counted in the order of their dates. -/
theorem dayNumber_lt {d e : Date} (lt : d < e) : d.dayNumber < e.dayNumber := by
  have day := e.day_pos
  rcases lt with year | ⟨year, month | ⟨month, later⟩⟩
  · have before : daysBeforeYear (d.year + 1) ≤ daysBeforeYear e.year := daysBeforeYear_mono year
    have within := d.dayNumber_le
    have start := e.dayNumber_eq
    omega
  · have before : daysBeforeMonth d.year (d.month + 1) ≤ daysBeforeMonth d.year e.month :=
      daysBeforeMonth_mono d.year (Nat.le_add_left 1 _) month
    have within := d.add_day_le
    rw [dayNumber_eq, dayNumber_eq, ← year]
    omega
  · rw [dayNumber_eq, dayNumber_eq, ← year, ← month]
    omega

end Date

/-! ## Moments -/

instance : LE Time where
  le t u := t.date < u.date ∨ t.date = u.date ∧
    (t.secondOfDay < u.secondOfDay ∨
      t.secondOfDay = u.secondOfDay ∧ t.sinceSecond ≤ u.sinceSecond)

/-- Moments are in the order of their dates, and on one date in that of the clock. -/
theorem Time.le_iff {t u : Time} : t ≤ u ↔ t.date < u.date ∨ t.date = u.date ∧
    (t.secondOfDay < u.secondOfDay ∨
      t.secondOfDay = u.secondOfDay ∧ t.sinceSecond ≤ u.sinceSecond) := Iff.rfl

instance (t u : Time) : Decidable (t ≤ u) := decidable_of_iff _ Time.le_iff.symm

namespace Time

variable {t : Time}

theorem secondOfDay_lt (t : Time) : t.secondOfDay < 86400 := by
  have hour := t.hour_lt
  have minute := t.minute_lt
  unfold secondOfDay
  omega

theorem sinceSecond_lt (regular : t.isLeap = false) : t.sinceSecond < 1000000000 := by
  unfold sinceSecond
  rw [regular]
  exact t.nano_lt

/-- Between moments that do not lie within leap seconds, seconds are counted by the clock. -/
theorem secondsBetween_eq {later earlier : Time} (regular : earlier.isLeap = false)
    (regular' : later.isLeap = false) :
    secondsBetween later earlier = later.secondOfDay - earlier.secondOfDay := by
  unfold secondsBetween
  rw [regular, regular']
  simp only [Bool.false_eq_true, and_false, if_false]

/-- No negative span leads to a moment from one that does not stand after it. -/
theorem since_nonneg {earlier later : Time} (le : earlier ≤ later)
    (regular : earlier.isLeap = false) (regular' : later.isLeap = false) :
    0 ≤ (later.since earlier).nanos := by
  have second := earlier.secondOfDay_lt
  have nano := sinceSecond_lt regular
  show 0 ≤ ((later.date.dayNumber - earlier.date.dayNumber) * 86400 + secondsBetween later earlier)
    * 1000000000 + ((later.sinceSecond : Int) - earlier.sinceSecond)
  rw [secondsBetween_eq regular regular']
  rcases le with date | ⟨date, order⟩
  · -- At least one day lies between the dates, and less than that within either of them.
    have days := Date.dayNumber_lt date
    omega
  · rw [date]
    rcases order with later | ⟨same, later⟩
    · omega
    · omega

end Time

end JenkinsOperator
