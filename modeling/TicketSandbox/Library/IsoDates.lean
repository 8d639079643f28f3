import Mathlib.Tactic.Ring

namespace IsoDates

/-!
# Dates as texts

Instants on the calendar, and the text that `datetime.isoformat` writes for
one in UTC.  `datetime.fromisoformat` reads that text back; which other texts
it reads is a parameter.
-/

/-- A text is a list of characters. -/
abbrev Text := List Char

/-! ## The calendar -/

/-- The year has a day more. -/
def isLeap (year : Nat) : Bool :=
  decide (year % 4 = 0 ∧ (year % 100 ≠ 0 ∨ year % 400 = 0))

/-- The days of a month. -/
def daysIn (year month : Nat) : Nat :=
  if month = 2 then
    if isLeap year then 29 else 28
  else if month ∈ [4, 6, 9, 11] then 30 else 31

/-- The fields name an instant between the years 1 and 9999. -/
structure IsCalendar
    (year month day hour minute second microsecond : Nat) : Prop where
  isYear : 1 ≤ year ∧ year < 10000
  isMonth : 1 ≤ month ∧ month ≤ 12
  isDay : 1 ≤ day ∧ day ≤ daysIn year month
  isHour : hour < 24
  isMinute : minute < 60
  isSecond : second < 60
  isMicrosecond : microsecond < 1000000

instance
    (year month day hour minute second microsecond : Nat) :
    Decidable (IsCalendar year month day hour minute second microsecond) :=
  decidable_of_iff ((1 ≤ year ∧ year < 10000) ∧ (1 ≤ month ∧ month ≤ 12) ∧
      (1 ≤ day ∧ day ≤ daysIn year month) ∧ hour < 24 ∧ minute < 60 ∧
      second < 60 ∧ microsecond < 1000000)
    ⟨fun ⟨isYear, isMonth, isDay, isHour, isMinute, isSecond, isMicro⟩ =>
        ⟨isYear, isMonth, isDay, isHour, isMinute, isSecond, isMicro⟩,
      fun fields =>
        ⟨fields.isYear, fields.isMonth, fields.isDay, fields.isHour,
          fields.isMinute, fields.isSecond, fields.isMicrosecond⟩⟩

/-- A `datetime` in UTC. -/
structure DateTime where
  year : Nat
  month : Nat
  day : Nat
  hour : Nat
  minute : Nat
  second : Nat
  microsecond : Nat
  isCalendar : IsCalendar year month day hour minute second microsecond
  deriving DecidableEq

/-- The days before the year, from the first of January of the year 1. -/
def daysBeforeYear (year : Nat) : Nat :=
  (year - 1) * 365 + (year - 1) / 4 - (year - 1) / 100 + (year - 1) / 400

/-- The days of the year before the month. -/
def daysBeforeMonth (year month : Nat) : Nat :=
  ((List.range month).drop 1).foldl
    (fun days other => days + daysIn year other) 0

/-- Microseconds since the year 1970. -/
def DateTime.instant (date : DateTime) : Int :=
  let days :=
    daysBeforeYear date.year + daysBeforeMonth date.year date.month + date.day
  (((((days : Int) - 719163) * 24 + date.hour) * 60 + date.minute) * 60 +
      date.second) * 1000000 + date.microsecond

/-- A date as `fromisoformat` returns it: with an offset, as an instant in
microseconds, or without one. -/
inductive Moment where
  | aware (instant : Int)
  | naive (instant : Int)

/-! ## Numbers of a fixed width -/

/-- The character of a decimal digit. -/
def digit (value : Nat) : Char :=
  Char.ofNat (48 + value % 10)

/-- The last decimal digits of the number. -/
def padded : Nat → Nat → Text
  | 0, _ => []
  | width + 1, value => digit (value / 10 ^ width) :: padded width value

/-- The value of a decimal digit. -/
def digitValue? (char : Char) : Option Nat :=
  if 48 ≤ char.toNat ∧ char.toNat ≤ 57 then some (char.toNat - 48) else none

/-- Read so many digits after those that were read. -/
def readDigits? : Nat → Nat → Text → Option (Nat × Text)
  | 0, value, text => some (value, text)
  | _ + 1, _, [] => none
  | width + 1, value, char :: text =>
      (digitValue? char).bind fun digit =>
        readDigits? width (10 * value + digit) text

/-- Read one character. -/
def readChar? (expected : Char) : Text → Option Text
  | [] => none
  | char :: text => if char = expected then some text else none

theorem digitValue?_digit (value : Nat) :
    digitValue? (digit value) = some (value % 10) := by
  have less : value % 10 < 10 := Nat.mod_lt value (by decide)
  unfold digit
  generalize value % 10 = number at less
  revert number
  decide

theorem readDigits?_padded (width value read : Nat) (rest : Text) :
    readDigits? width read (padded width value ++ rest) =
      some (read * 10 ^ width + value % 10 ^ width, rest) := by
  induction width generalizing read with
  | zero => simp [readDigits?, padded, Nat.mod_one]
  | succ width inductionHypothesis =>
      have split := @Nat.mod_pow_succ value 10 width
      simp only [padded, List.cons_append, readDigits?, digitValue?_digit,
        Option.bind_some, inductionHypothesis, split]
      ring_nf

theorem readDigits?_number
    {width value : Nat} (fits : value < 10 ^ width) (rest : Text) :
    readDigits? width 0 (padded width value ++ rest) = some (value, rest) := by
  rw [readDigits?_padded, Nat.mod_eq_of_lt fits]
  simp

theorem readChar?_cons (char : Char) (rest : Text) :
    readChar? char (char :: rest) = some rest :=
  if_pos rfl

/-! ## Texts -/

/-- The fraction of a second. -/
def fraction (microsecond : Nat) : Text :=
  if microsecond = 0 then [] else '.' :: padded 6 microsecond

/-- `datetime.isoformat`, in UTC. -/
def isoformat (date : DateTime) : Text :=
  padded 4 date.year ++ '-' :: (padded 2 date.month ++
      '-' :: (padded 2 date.day ++ 'T' :: (padded 2 date.hour ++
          ':' :: (padded 2 date.minute ++ ':' :: (padded 2 date.second ++
              (fraction date.microsecond ++ "+00:00".toList))))))

/-- Read the fraction of a second. -/
def readFraction? (text : Text) : Option (Nat × Text) :=
  match readChar? '.' text with
  | some rest => readDigits? 6 0 rest
  | none => some (0, text)

/-- The instant of the fields. -/
def dateTime?
    (year month day hour minute second microsecond : Nat) : Option DateTime :=
  if fields : IsCalendar year month day hour minute second microsecond then
    some
      { year, month, day, hour, minute, second, microsecond
        isCalendar := fields }
  else
    none

/-- Read a text that `isoformat` writes. -/
def readIso? (text : Text) : Option DateTime := do
  let (year, text) ← readDigits? 4 0 text
  let text ← readChar? '-' text
  let (month, text) ← readDigits? 2 0 text
  let text ← readChar? '-' text
  let (day, text) ← readDigits? 2 0 text
  let text ← readChar? 'T' text
  let (hour, text) ← readDigits? 2 0 text
  let text ← readChar? ':' text
  let (minute, text) ← readDigits? 2 0 text
  let text ← readChar? ':' text
  let (second, text) ← readDigits? 2 0 text
  let (microsecond, text) ← readFraction? text
  if text = "+00:00".toList then
    dateTime? year month day hour minute second microsecond
  else
    none

/-- `datetime.fromisoformat`; `others` reads the texts that `isoformat` does
not write in UTC. -/
def fromisoformat
    (others : Text → Option Moment) (text : Text) : Option Moment :=
  match readIso? text with
  | some date => some (.aware date.instant)
  | none => others text

theorem readFraction?_fraction
    {microsecond : Nat} (fits : microsecond < 1000000) :
    readFraction? (fraction microsecond ++ "+00:00".toList) =
      some (microsecond, "+00:00".toList) := by
  unfold fraction
  split
  · rename_i none
    rw [none]
    rfl
  · simp only [List.cons_append, readFraction?, readChar?_cons]
    exact readDigits?_number fits _

theorem daysIn_le (year month : Nat) : daysIn year month ≤ 31 := by
  unfold daysIn
  split
  · split
    · decide
    · decide
  · split
    · decide
    · decide

theorem readIso?_isoformat (date : DateTime) :
    readIso? (isoformat date) = some date := by
  have fields := date.isCalendar
  have year : date.year < 10 ^ 4 := by
    have bound := fields.isYear.2
    omega
  have month : date.month < 10 ^ 2 := by
    have bound := fields.isMonth.2
    omega
  have day : date.day < 10 ^ 2 := by
    have most := daysIn_le date.year date.month
    have bound := fields.isDay.2
    omega
  have hour : date.hour < 10 ^ 2 := by
    have bound := fields.isHour
    omega
  have minute : date.minute < 10 ^ 2 := by
    have bound := fields.isMinute
    omega
  have second : date.second < 10 ^ 2 := by
    have bound := fields.isSecond
    omega
  unfold readIso? isoformat
  refine Option.bind_eq_some_iff.mpr ⟨_, readDigits?_number year _, ?_⟩
  refine Option.bind_eq_some_iff.mpr ⟨_, readChar?_cons '-' _, ?_⟩
  refine Option.bind_eq_some_iff.mpr ⟨_, readDigits?_number month _, ?_⟩
  refine Option.bind_eq_some_iff.mpr ⟨_, readChar?_cons '-' _, ?_⟩
  refine Option.bind_eq_some_iff.mpr ⟨_, readDigits?_number day _, ?_⟩
  refine Option.bind_eq_some_iff.mpr ⟨_, readChar?_cons 'T' _, ?_⟩
  refine Option.bind_eq_some_iff.mpr ⟨_, readDigits?_number hour _, ?_⟩
  refine Option.bind_eq_some_iff.mpr ⟨_, readChar?_cons ':' _, ?_⟩
  refine Option.bind_eq_some_iff.mpr ⟨_, readDigits?_number minute _, ?_⟩
  refine Option.bind_eq_some_iff.mpr ⟨_, readChar?_cons ':' _, ?_⟩
  refine Option.bind_eq_some_iff.mpr ⟨_, readDigits?_number second _, ?_⟩
  refine Option.bind_eq_some_iff.mpr
    ⟨_, readFraction?_fraction fields.isMicrosecond, ?_⟩
  exact (if_pos rfl).trans (dif_pos fields)

/-- Different dates have different texts. -/
theorem isoformat_injective
    {first second : DateTime} (same : isoformat first = isoformat second) :
    first = second := by
  have back := readIso?_isoformat first
  rw [same, readIso?_isoformat] at back
  exact (Option.some.inj back).symm

/-- A date is read back from its text. -/
theorem fromisoformat_isoformat
    (others : Text → Option Moment) (date : DateTime) :
    fromisoformat others (isoformat date) = some (.aware date.instant) := by
  simp only [fromisoformat, readIso?_isoformat]

end IsoDates
