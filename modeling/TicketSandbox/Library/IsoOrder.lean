import Mathlib.Data.List.Basic
import TicketSandbox.Library.IsoDates

namespace IsoDates

/-!
# The order of dates and of their texts

`isoformat` writes numbers of a fixed width and leaves out a fraction of zero.
The text of an earlier date is smaller all the same, since the `+` of the
offset comes before the `.` of a fraction.
-/

/-- The fields of a date, the longest unit first. -/
def DateTime.fields (date : DateTime) : List Nat :=
  [date.year, date.month, date.day, date.hour, date.minute, date.second,
    date.microsecond]

/-- The number of the day, from the first of January of the year 1. -/
def DateTime.dayNumber (date : DateTime) : Nat :=
  daysBeforeYear date.year + daysBeforeMonth date.year date.month + date.day

variable {first second : DateTime}

theorem fields_injective
    (same : first.fields = second.fields) : first = second := by
  obtain ⟨_, _, _, _, _, _, _, _⟩ := first
  obtain ⟨_, _, _, _, _, _, _, _⟩ := second
  simp only [DateTime.fields, List.cons.injEq, and_true] at same
  obtain ⟨rfl, rfl, rfl, rfl, rfl, rfl, rfl⟩ := same
  rfl

/-- Fields are in the order of their first difference. -/
theorem fields_lt_iff :
    first.fields < second.fields ↔
      first.year < second.year ∨ first.year = second.year ∧
        (first.month < second.month ∨ first.month = second.month ∧
          (first.day < second.day ∨ first.day = second.day ∧
            (first.hour < second.hour ∨ first.hour = second.hour ∧
              (first.minute < second.minute ∨ first.minute = second.minute ∧
                  (first.second < second.second ∨ first.second = second.second ∧
                      first.microsecond < second.microsecond))))) := by
  simp only [DateTime.fields, List.cons_lt_cons_iff, List.not_lt_nil, and_false,
    or_false]

theorem fields_trichotomy (first second : DateTime) :
    first.fields < second.fields ∨ first = second ∨
      second.fields < first.fields := by
  by_cases same : first.fields = second.fields
  · exact Or.inr (Or.inl (fields_injective same))
  · rw [fields_lt_iff, fields_lt_iff]
    simp only [DateTime.fields, List.cons.injEq, and_true] at same
    have apart : ¬ first = second := by
      rintro rfl
      exact same ⟨rfl, rfl, rfl, rfl, rfl, rfl, rfl⟩
    omega

/-! ## Instants -/

theorem daysBeforeMonth_year (year : Nat) :
    daysBeforeMonth year 13 = if isLeap year then 366 else 365 := by
  have months :
      (List.range 13).drop 1 = [1, 2, 3, 4, 5, 6, 7, 8, 9, 10, 11, 12] :=
    rfl
  rw [daysBeforeMonth, months]
  cases leap : isLeap year with
  | false => simp [daysIn, leap]
  | true => simp [daysIn, leap]

theorem daysBeforeYear_succ {year : Nat} (isYear : 1 ≤ year) :
    daysBeforeYear (year + 1) =
      daysBeforeYear year + daysBeforeMonth year 13 := by
  obtain ⟨past, rfl⟩ := Nat.exists_eq_add_of_le' isYear
  have century : (past + 1) % 100 = 0 → (past + 1) % 4 = 0 := by
    omega
  have fourth : (past + 1) % 400 = 0 → (past + 1) % 100 = 0 := by
    omega
  have fewer : past / 100 ≤ past := Nat.div_le_self past 100
  rw [daysBeforeMonth_year, daysBeforeYear, daysBeforeYear, isLeap,
    Nat.add_sub_cancel, Nat.add_sub_cancel, Nat.succ_div, Nat.succ_div,
    Nat.succ_div]
  simp only [Nat.dvd_iff_mod_eq_zero, decide_eq_true_eq]
  generalize past / 4 = fours, past / 100 = centuries,
    past / 400 = cycles at fewer ⊢
  generalize (past + 1) % 4 = inFour, (past + 1) % 100 = inCentury,
    (past + 1) % 400 = inCycle at century fourth ⊢
  split_ifs
  all_goals omega

theorem daysBeforeMonth_succ (year : Nat) {month : Nat} (isMonth : 1 ≤ month) :
    daysBeforeMonth year (month + 1) =
      daysBeforeMonth year month + daysIn year month := by
  obtain ⟨earlier, rfl⟩ := Nat.exists_eq_add_of_le' isMonth
  rw [daysBeforeMonth, daysBeforeMonth, List.range_succ,
      List.drop_append_of_le_length,
    List.foldl_append]
  · rfl
  · rw [List.length_range]
    omega

theorem daysBeforeMonth_mono (year : Nat) {month later : Nat}
    (isMonth : 1 ≤ month) (isLater : month ≤ later) :
    daysBeforeMonth year month ≤ daysBeforeMonth year later := by
  induction later, isLater using Nat.le_induction with
  | base => exact Nat.le_refl _
  | succ later isLater inductionHypothesis =>
      rw [daysBeforeMonth_succ year (by omega)]
      omega

theorem daysBeforeYear_mono
    {year later : Nat} (isYear : 1 ≤ year) (isLater : year ≤ later) :
    daysBeforeYear year ≤ daysBeforeYear later := by
  induction later, isLater using Nat.le_induction with
  | base => exact Nat.le_refl _
  | succ later isLater inductionHypothesis =>
      rw [daysBeforeYear_succ (by omega)]
      omega

theorem dayNumber_le (date : DateTime) :
    date.dayNumber ≤ daysBeforeYear date.year +
        daysBeforeMonth date.year (date.month + 1) := by
  have isDay := date.isCalendar.isDay.2
  rw [daysBeforeMonth_succ date.year date.isCalendar.isMonth.1]
  unfold DateTime.dayNumber
  omega

theorem dayNumber_lt
    (earlier : first.year < second.year ∨ first.year = second.year ∧
      (first.month < second.month ∨ first.month = second.month ∧
        first.day < second.day)) :
    first.dayNumber < second.dayNumber := by
  have isDay := second.isCalendar.isDay.1
  have within := dayNumber_le first
  have months := first.isCalendar.isMonth
  rcases earlier with lessYear | ⟨sameYear, lessMonth | ⟨sameMonth, lessDay⟩⟩
  · have whole : daysBeforeMonth first.year (first.month + 1) ≤
          daysBeforeMonth first.year 13 :=
      daysBeforeMonth_mono first.year (Nat.le_add_left 1 first.month)
        (Nat.succ_le_succ months.2)
    have years := daysBeforeYear_mono (Nat.le_add_left 1 first.year) lessYear
    rw [daysBeforeYear_succ first.isCalendar.isYear.1] at years
    have isSecond : daysBeforeYear second.year < second.dayNumber := by
      unfold DateTime.dayNumber
      omega
    omega
  · have whole :=
      daysBeforeMonth_mono first.year (Nat.le_add_left 1 first.month) lessMonth
    have isSecond : daysBeforeYear second.year +
            daysBeforeMonth second.year second.month <
          second.dayNumber := by
      unfold DateTime.dayNumber
      omega
    rw [← sameYear] at isSecond
    omega
  · unfold DateTime.dayNumber
    rw [sameYear, sameMonth]
    omega

theorem instant_eq (date : DateTime) :
    date.instant = (((((date.dayNumber : Int) - 719163) * 24 + date.hour) * 60 +
          date.minute) * 60 + date.second) * 1000000 + date.microsecond :=
  rfl

theorem instant_lt_of_fields (earlier : first.fields < second.fields) :
    first.instant < second.instant := by
  have before := fields_lt_iff.mp earlier
  have isFirst := first.isCalendar
  have hours := isFirst.isHour
  have minutes := isFirst.isMinute
  have seconds := isFirst.isSecond
  have micros := isFirst.isMicrosecond
  rw [instant_eq, instant_eq]
  by_cases sameDay : first.year = second.year ∧ first.month = second.month ∧
        first.day = second.day
  · obtain ⟨sameYear, sameMonth, isSame⟩ := sameDay
    have number : first.dayNumber = second.dayNumber := by
      unfold DateTime.dayNumber
      rw [sameYear, sameMonth, isSame]
    rw [number]
    omega
  · have number : first.dayNumber < second.dayNumber := dayNumber_lt (by omega)
    omega

theorem fields_lt_iff_instant_lt :
    first.fields < second.fields ↔ first.instant < second.instant := by
  constructor
  · exact instant_lt_of_fields
  · intro less
    rcases fields_trichotomy first second with before | rfl | after
    · exact before
    · exact (lt_irrefl _ less).elim
    · exact (lt_asymm less (instant_lt_of_fields after)).elim

/-! ## Texts -/

variable {value : Nat} {other : Nat}

theorem digit_lt
    (less : value % 10 < other % 10) : digit value < digit other := by
  have isDigit : other % 10 < 10 := Nat.mod_lt other (by decide)
  have all : ∀ high < 10, ∀ low < high,
        Char.ofNat (48 + low) < Char.ofNat (48 + high) := by
    decide
  exact all _ isDigit _ less

theorem digit_eq
    (same : value % 10 = other % 10) : digit value = digit other := by
  unfold digit
  rw [same]

theorem padded_lt {width : Nat} (less : value % 10 ^ width < other % 10 ^ width)
    (rest behind : Text) :
    padded width value ++ rest < padded width other ++ behind := by
  induction width with
  | zero =>
      rw [Nat.pow_zero, Nat.mod_one, Nat.mod_one] at less
      exact (lt_irrefl 0 less).elim
  | succ width inductionHypothesis =>
      rw [Nat.mod_pow_succ, Nat.mod_pow_succ] at less
      rw [padded, padded, List.cons_append, List.cons_append,
        List.cons_lt_cons_iff]
      have low : value % 10 ^ width < 10 ^ width :=
        Nat.mod_lt _ (Nat.pow_pos (by decide))
      have high : other % 10 ^ width < 10 ^ width :=
        Nat.mod_lt _ (Nat.pow_pos (by decide))
      rcases lt_trichotomy (value / 10 ^ width % 10)
        (other / 10 ^ width % 10) with isLess | isSame | isMore
      · exact Or.inl (digit_lt isLess)
      · rw [isSame] at less
        exact Or.inr ⟨digit_eq isSame, inductionHypothesis (by omega)⟩
      · have more : 10 ^ width * (other / 10 ^ width % 10 + 1) ≤
              10 ^ width * (value / 10 ^ width % 10) :=
          Nat.mul_le_mul_left _ isMore
        rw [Nat.mul_add, Nat.mul_one] at more
        omega

theorem number_lt {width : Nat} (less : value < other)
    (fits : other < 10 ^ width) (rest behind : Text) :
    padded width value ++ rest < padded width other ++ behind := by
  refine padded_lt ?_ rest behind
  rwa [Nat.mod_eq_of_lt (less.trans fits), Nat.mod_eq_of_lt fits]

theorem fraction_lt (less : value < other) (fits : other < 1000000) :
    fraction value ++ "+00:00".toList < fraction other ++ "+00:00".toList := by
  have isOther : fraction other = '.' :: padded 6 other := if_neg (by omega)
  rw [isOther]
  by_cases isZero : value = 0
  · have isValue : fraction value = [] := if_pos isZero
    rw [isValue]
    exact List.cons_lt_cons_iff.mpr (Or.inl (by decide))
  · have isValue : fraction value = '.' :: padded 6 value := if_neg isZero
    rw [isValue]
    exact List.cons_lt_cons_iff.mpr
      (Or.inr ⟨rfl, number_lt less (fits : other < 10 ^ 6) _ _⟩)

theorem isoformat_lt_of_fields (earlier : first.fields < second.fields) :
    isoformat first < isoformat second := by
  have fits := second.isCalendar
  have days := daysIn_le second.year second.month
  have isMonth : second.month < 10 ^ 2 := by
    have most := fits.isMonth.2
    omega
  have isDay : second.day < 10 ^ 2 := by
    have most := fits.isDay.2
    omega
  have isHour : second.hour < 10 ^ 2 := by
    have most := fits.isHour
    omega
  have isMinute : second.minute < 10 ^ 2 := by
    have most := fits.isMinute
    omega
  have isSecond : second.second < 10 ^ 2 := by
    have most := fits.isSecond
    omega
  unfold isoformat
  rcases fields_lt_iff.mp earlier with less | ⟨same, earlier⟩
  · exact number_lt less fits.isYear.2 _ _
  rw [same]
  refine List.append_left_lt (List.cons_lt_cons_iff.mpr (Or.inr ⟨rfl, ?_⟩))
  rcases earlier with less | ⟨same, earlier⟩
  · exact number_lt less isMonth _ _
  rw [same]
  refine List.append_left_lt (List.cons_lt_cons_iff.mpr (Or.inr ⟨rfl, ?_⟩))
  rcases earlier with less | ⟨same, earlier⟩
  · exact number_lt less isDay _ _
  rw [same]
  refine List.append_left_lt (List.cons_lt_cons_iff.mpr (Or.inr ⟨rfl, ?_⟩))
  rcases earlier with less | ⟨same, earlier⟩
  · exact number_lt less isHour _ _
  rw [same]
  refine List.append_left_lt (List.cons_lt_cons_iff.mpr (Or.inr ⟨rfl, ?_⟩))
  rcases earlier with less | ⟨same, earlier⟩
  · exact number_lt less isMinute _ _
  rw [same]
  refine List.append_left_lt (List.cons_lt_cons_iff.mpr (Or.inr ⟨rfl, ?_⟩))
  rcases earlier with less | ⟨same, less⟩
  · exact number_lt less isSecond _ _
  rw [same]
  exact List.append_left_lt (fraction_lt less fits.isMicrosecond)

/-- Texts are in the order of the instants. -/
theorem isoformat_lt_iff :
    isoformat first < isoformat second ↔ first.instant < second.instant := by
  rw [← fields_lt_iff_instant_lt]
  constructor
  · intro less
    rcases fields_trichotomy first second with before | rfl | after
    · exact before
    · exact (List.lt_irrefl _ less).elim
    · exact (List.lt_asymm less (isoformat_lt_of_fields after)).elim
  · exact isoformat_lt_of_fields

/-- Texts are the same for the same instant. -/
theorem isoformat_eq_iff :
    isoformat first = isoformat second ↔ first.instant = second.instant := by
  constructor
  · intro same
    rw [isoformat_injective same]
  · intro same
    rcases fields_trichotomy first second with before | rfl | after
    · exact ((instant_lt_of_fields before).ne same).elim
    · rfl
    · exact ((instant_lt_of_fields after).ne' same).elim

end IsoDates
