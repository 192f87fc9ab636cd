import CloudGuest.Library.Texts

/-!
The proleptic Gregorian calendar as day ordinals (day 1 is 1 January of year 1)
and its ISO texts. Every date and every instant of the years 1 to 9999 is read
back from its text, so two of them never share one.
-/

namespace CloudGuest.Calendar

open Texts

def isLeap (year : Nat) : Bool := year % 4 = 0 && (year % 100 ≠ 0 || year % 400 = 0)

def daysBeforeYear (year : Nat) : Nat :=
  let past := year - 1
  past * 365 + past / 4 - past / 100 + past / 400

def yearLength (year : Nat) : Nat := if isLeap year then 366 else 365

def monthLengths (leap : Bool) : List Nat :=
  [31, if leap then 29 else 28, 31, 30, 31, 30, 31, 31, 30, 31, 30, 31]

def splitYear (days : Nat) : Nat × Nat :=
  let cycles := days / 146097
  let inCycle := days % 146097
  let centuries := inCycle / 36524
  let inCentury := inCycle % 36524
  let fours := inCentury / 1461
  let inFour := inCentury % 1461
  let years := inFour / 365
  let year := cycles * 400 + centuries * 100 + fours * 4 + years + 1
  -- The last day of a leap cycle falls one past its regular years.
  if years = 4 ∨ centuries = 4 then (year - 1, 365) else (year, inFour % 365)

def splitMonth (month : Nat) : List Nat → Nat → Nat × Nat
  | [], day => (month, day + 1)
  | length :: rest, day =>
      if day < length then (month, day + 1) else splitMonth (month + 1) rest (day - length)

structure Civil where
  year : Nat
  month : Nat
  day : Nat
  deriving DecidableEq

def civil (ordinal : Nat) : Civil :=
  let (year, dayOfYear) := splitYear (ordinal - 1)
  let (month, day) := splitMonth 1 (monthLengths (isLeap year)) dayOfYear
  ⟨year, month, day⟩

def Civil.ordinal (date : Civil) : Nat :=
  daysBeforeYear date.year + ((monthLengths (isLeap date.year)).take (date.month - 1)).sum + date.day

def Civil.Valid (date : Civil) : Prop :=
  1 ≤ date.year ∧ date.year ≤ 9999 ∧ 1 ≤ date.month ∧ date.month ≤ 12 ∧ 1 ≤ date.day ∧
    date.day ≤ (monthLengths (isLeap date.year)).getD (date.month - 1) 0

instance (date : Civil) : Decidable date.Valid := by unfold Civil.Valid; infer_instance

def maxOrdinal : Nat := 3652059

theorem daysBeforeYear_cycles (cycles centuries fours years : Nat) (inCycle : centuries ≤ 3)
    (inCentury : fours ≤ 24) (inFour : years ≤ 3) :
    daysBeforeYear (cycles * 400 + centuries * 100 + fours * 4 + years + 1) =
      146097 * cycles + 36524 * centuries + 1461 * fours + 365 * years := by
  simp only [daysBeforeYear]
  omega

theorem yearLength_regular (year : Nat) : 365 ≤ yearLength year := by
  unfold yearLength
  split <;> omega

theorem yearLength_leap (year : Nat) (fourth : year % 4 = 0)
    (kept : year % 100 ≠ 0 ∨ year % 400 = 0) : yearLength year = 366 := by
  simp [yearLength, isLeap, fourth, kept]

theorem splitYear_spec (days : Nat) :
    1 ≤ (splitYear days).1 ∧ daysBeforeYear (splitYear days).1 + (splitYear days).2 = days ∧
      (splitYear days).2 < yearLength (splitYear days).1 := by
  simp only [splitYear]
  split
  · rename_i last
    -- The year ending here is the third of its four, or closes the 400-year cycle.
    obtain ⟨centuries, fours, inCycle, inCentury, year, count, kept⟩ : ∃ centuries fours,
        centuries ≤ 3 ∧ fours ≤ 24 ∧
        days / 146097 * 400 + days % 146097 / 36524 * 100 + days % 146097 % 36524 / 1461 * 4 +
            days % 146097 % 36524 % 1461 / 365 + 1 - 1 =
          days / 146097 * 400 + centuries * 100 + fours * 4 + 3 + 1 ∧
        days = 146097 * (days / 146097) + 36524 * centuries + 1461 * fours + 1460 ∧
        (fours ≤ 23 ∨ centuries = 3) := by
      by_cases cycle : days % 146097 / 36524 = 4
      · exact ⟨3, 24, by omega⟩
      · exact ⟨days % 146097 / 36524, days % 146097 % 36524 / 1461, by omega⟩
    rw [year, daysBeforeYear_cycles _ _ _ _ inCycle inCentury (by omega),
      yearLength_leap _ (by omega) (by omega)]
    omega
  · rename_i regular
    refine ⟨by omega, ?_, ?_⟩
    · rw [daysBeforeYear_cycles _ _ _ _ (by omega) (by omega) (by omega)]
      omega
    · exact lt_of_lt_of_le (Nat.mod_lt _ (by omega)) (yearLength_regular _)

theorem splitMonth_spec (lengths : List Nat) (month day : Nat) (within : day < lengths.sum) :
    month ≤ (splitMonth month lengths day).1 ∧
      (splitMonth month lengths day).1 < month + lengths.length ∧
      1 ≤ (splitMonth month lengths day).2 ∧
      (splitMonth month lengths day).2 ≤ lengths.getD ((splitMonth month lengths day).1 - month) 0 ∧
      (lengths.take ((splitMonth month lengths day).1 - month)).sum +
        (splitMonth month lengths day).2 = day + 1 := by
  induction lengths generalizing month day with
  | nil => simp at within
  | cons length rest ih =>
      simp only [splitMonth]
      split
      · rename_i inside
        simp
        omega
      · rename_i past
        rw [List.sum_cons] at within
        obtain ⟨after, before, positive, fits, total⟩ := ih (month + 1) (day - length) (by omega)
        have place : (splitMonth (month + 1) rest (day - length)).1 - month =
            (splitMonth (month + 1) rest (day - length)).1 - (month + 1) + 1 := by omega
        simp only [place, List.getD_cons_succ, List.take_succ_cons, List.sum_cons,
          List.length_cons]
        omega

theorem monthLengths_sum (leap : Bool) :
    (monthLengths leap).sum = if leap then 366 else 365 := by
  cases leap <;> rfl

theorem civil_spec (ordinal : Nat) (positive : 1 ≤ ordinal) (inRange : ordinal ≤ maxOrdinal) :
    (civil ordinal).Valid ∧ (civil ordinal).ordinal = ordinal := by
  obtain ⟨first, days, fits⟩ := splitYear_spec (ordinal - 1)
  have within : (splitYear (ordinal - 1)).2 <
      (monthLengths (isLeap (splitYear (ordinal - 1)).1)).sum := by
    rw [monthLengths_sum]
    exact fits
  obtain ⟨after, before, dayPositive, dayFits, total⟩ :=
    splitMonth_spec (monthLengths (isLeap (splitYear (ordinal - 1)).1)) 1 _ within
  have last : (splitYear (ordinal - 1)).1 ≤ 9999 := by
    have bound : daysBeforeYear (splitYear (ordinal - 1)).1 ≤ 3652058 := by
      simp only [maxOrdinal] at inRange
      omega
    simp only [daysBeforeYear] at bound
    omega
  have months : (monthLengths (isLeap (splitYear (ordinal - 1)).1)).length = 12 := by
    simp [monthLengths]
  constructor
  · refine ⟨first, last, after, ?_, dayPositive, dayFits⟩
    simp only [civil]
    omega
  · simp only [Civil.ordinal, civil]
    omega

def expect (char : Char) : Text → Option Text
  | [] => none
  | first :: rest => if first = char then some rest else none

def isoDate (ordinal : Nat) : Text :=
  let date := civil ordinal
  padded 4 date.year ++ '-' :: (padded 2 date.month ++ '-' :: padded 2 date.day)

def readDate (text : Text) : Option (Nat × Text) := do
  let (year, text) ← readDigits 4 0 text
  let text ← expect '-' text
  let (month, text) ← readDigits 2 0 text
  let text ← expect '-' text
  let (day, text) ← readDigits 2 0 text
  let date : Civil := ⟨year, month, day⟩
  if date.Valid then some (date.ordinal, text) else none

def fromIsoDate (text : Text) : Option Nat := do
  let (ordinal, rest) ← readDate text
  if rest = [] then some ordinal else none

theorem monthLength_le (leap : Bool) (month : Nat) : (monthLengths leap).getD month 0 ≤ 31 := by
  match month with
  | 0 | 1 | 2 | 3 | 4 | 5 | 6 | 7 | 8 | 9 | 10 | 11 =>
      cases leap <;> simp [monthLengths]
  | month + 12 => simp [monthLengths]

theorem readDate_isoDate (ordinal : Nat) (rest : Text) (positive : 1 ≤ ordinal)
    (inRange : ordinal ≤ maxOrdinal) :
    readDate (isoDate ordinal ++ rest) = some (ordinal, rest) := by
  obtain ⟨valid, ordinalOf⟩ := civil_spec ordinal positive inRange
  have dayFits := monthLength_le (isLeap (civil ordinal).year) ((civil ordinal).month - 1)
  obtain ⟨-, year, -, month, -, day⟩ := id valid
  simp only [isoDate, readDate, List.append_assoc, List.cons_append]
  rw [readDigits_padded 4 0 _ _ (by omega)]
  simp only [Option.bind_eq_bind, Option.bind_some, expect, ↓reduceIte]
  rw [readDigits_padded 2 0 _ _ (by omega)]
  simp only [Option.bind_some, ↓reduceIte]
  rw [readDigits_padded 2 0 _ _ (by omega)]
  simp only [Option.bind_some, Nat.zero_mul, Nat.zero_add]
  rw [if_pos valid, ordinalOf]

theorem fromIsoDate_isoDate (ordinal : Nat) (positive : 1 ≤ ordinal)
    (inRange : ordinal ≤ maxOrdinal) : fromIsoDate (isoDate ordinal) = some ordinal := by
  have read := readDate_isoDate ordinal [] positive inRange
  rw [List.append_nil] at read
  simp [fromIsoDate, read]

/-- Microseconds since the epoch of the first and the last instant of years 1 to 9999. -/
def firstMicros : Int := -62135596800000000

def lastMicros : Int := 253402300799999999

/-- An instant of the years 1 to 9999, in microseconds since the epoch. -/
abbrev Moment := {micros : Int // firstMicros ≤ micros ∧ micros ≤ lastMicros}

theorem epoch_inRange : firstMicros ≤ 0 ∧ 0 ≤ lastMicros := by decide

theorem seconds_inRange (seconds : Nat) (few : seconds < 1000000) :
    firstMicros ≤ seconds * 1000000 ∧ (seconds : Int) * 1000000 ≤ lastMicros := by
  unfold firstMicros lastMicros
  omega

instance (first second : Moment) : Decidable (first ≤ second) :=
  Int.decLe first.val second.val

instance (first second : Moment) : Decidable (first < second) :=
  Int.decLt first.val second.val

def momentAt (micros : Int) : Option Moment :=
  if inRange : firstMicros ≤ micros ∧ micros ≤ lastMicros then some ⟨micros, inRange⟩ else none

theorem momentAt_val (moment : Moment) : momentAt moment.val = some moment :=
  dif_pos moment.property

def dayLength : Nat := 86400000000

def isoClock (clock : Nat) : Text :=
  padded 2 (clock / 3600000000) ++ ':' :: (padded 2 (clock / 60000000 % 60) ++
    ':' :: (padded 2 (clock / 1000000 % 60) ++ '.' :: padded 6 (clock % 1000000)))

def utcOffset : Text := ['+', '0', '0', ':', '0', '0']

def iso (moment : Moment) : Text :=
  let past := (moment.val - firstMicros).toNat
  isoDate (past / dayLength + 1) ++ 'T' :: (isoClock (past % dayLength) ++ utcOffset)

def readClock (text : Text) : Option (Nat × Text) := do
  let (hours, text) ← readDigits 2 0 text
  let text ← expect ':' text
  let (minutes, text) ← readDigits 2 0 text
  let text ← expect ':' text
  let (seconds, text) ← readDigits 2 0 text
  let text ← expect '.' text
  let (micros, text) ← readDigits 6 0 text
  if hours < 24 ∧ minutes < 60 ∧ seconds < 60 then
    some (((hours * 60 + minutes) * 60 + seconds) * 1000000 + micros, text)
  else none

def microsAt (ordinal clock : Nat) : Int :=
  firstMicros + (((ordinal - 1) * dayLength + clock : Nat) : Int)

def fromIso (text : Text) : Option Moment := do
  let date ← readDate text
  let text ← expect 'T' date.2
  let clock ← readClock text
  if clock.2 = utcOffset then momentAt (microsAt date.1 clock.1) else none

theorem readClock_isoClock (clock : Nat) (rest : Text) (inDay : clock < dayLength) :
    readClock (isoClock clock ++ rest) = some (clock, rest) := by
  simp only [dayLength] at inDay
  simp only [isoClock, readClock, List.append_assoc, List.cons_append]
  rw [readDigits_padded 2 0 _ _ (by omega)]
  simp only [Option.bind_eq_bind, Option.bind_some, expect, ↓reduceIte]
  rw [readDigits_padded 2 0 _ _ (by omega)]
  simp only [Option.bind_some, ↓reduceIte]
  rw [readDigits_padded 2 0 _ _ (by omega)]
  simp only [Option.bind_some, ↓reduceIte]
  rw [readDigits_padded 6 0 _ _ (by omega)]
  simp only [Option.bind_some, Nat.zero_mul, Nat.zero_add]
  rw [if_pos (by omega)]
  congr 2
  omega

theorem moment_parts (moment : Moment) :
    let past := (moment.val - firstMicros).toNat
    past / dayLength + 1 ≤ maxOrdinal ∧ past % dayLength < dayLength ∧
      microsAt (past / dayLength + 1) (past % dayLength) = moment.val := by
  intro past
  obtain ⟨first, last⟩ := moment.property
  simp only [past, microsAt, firstMicros, lastMicros, dayLength, maxOrdinal] at first last ⊢
  omega

theorem fromIso_parts (text rest clockText : Text) (ordinal clock : Nat) (moment : Moment)
    (dated : readDate text = some (ordinal, rest)) (marked : expect 'T' rest = some clockText)
    (clocked : readClock clockText = some (clock, utcOffset))
    (whole : microsAt ordinal clock = moment.val) : fromIso text = some moment := by
  unfold fromIso
  rw [dated, Option.bind_eq_bind, Option.bind_some, marked, Option.bind_eq_bind, Option.bind_some,
    clocked, Option.bind_some, if_pos rfl, whole]
  exact momentAt_val moment

theorem fromIso_iso (moment : Moment) : fromIso (iso moment) = some moment := by
  obtain ⟨ordinal, clock, whole⟩ := moment_parts moment
  exact fromIso_parts _ _ _ _ _ moment (readDate_isoDate _ _ (Nat.le_add_left 1 _) ordinal) rfl
    (readClock_isoClock _ _ clock) whole

theorem iso_injective : Function.Injective iso := by
  intro left right equal
  have read := congrArg fromIso equal
  rw [fromIso_iso, fromIso_iso] at read
  exact Option.some.inj read

/-! ### Shifting an instant -/

def ordinalOf (moment : Moment) : Nat := (moment.val - firstMicros).toNat / dayLength + 1

def clockOf (moment : Moment) : Nat := (moment.val - firstMicros).toNat % dayLength

def addDays (moment : Moment) (days : Nat) : Option Moment :=
  momentAt (moment.val + ((days * dayLength : Nat) : Int))

def Civil.addMonths (date : Civil) (months : Nat) : Civil :=
  -- The month some months later; its last day stands in for a day it does not have.
  let index := date.month - 1 + months
  let year := date.year + index / 12
  let month := index % 12 + 1
  ⟨year, month, min date.day ((monthLengths (isLeap year)).getD (month - 1) 0)⟩

def addMonths (moment : Moment) (months : Nat) : Option Moment :=
  -- The same clock time some months later, if the calendar still has it.
  let shifted := (civil (ordinalOf moment)).addMonths months
  if shifted.year ≤ 9999 then momentAt (microsAt shifted.ordinal (clockOf moment)) else none

theorem quotient_succ (count divisor : Nat) :
    (count + 1) / divisor = count / divisor + if (count + 1) % divisor = 0 then 1 else 0 := by
  rw [Nat.succ_div]
  simp only [Nat.dvd_iff_mod_eq_zero]

theorem daysBeforeYear_succ (year : Nat) (first : 1 ≤ year) :
    daysBeforeYear (year + 1) = daysBeforeYear year + yearLength year := by
  obtain ⟨past, rfl⟩ : ∃ past, year = past + 1 := ⟨year - 1, by omega⟩
  have fours := quotient_succ past 4
  have hundreds := quotient_succ past 100
  have cycles := quotient_succ past 400
  have few : past / 100 ≤ past / 4 := Nat.div_le_div_left (by decide) (by decide)
  simp only [daysBeforeYear, yearLength, isLeap, Bool.and_eq_true, Bool.or_eq_true,
    decide_eq_true_eq, Nat.add_sub_cancel]
  rw [fours, hundreds, cycles]
  by_cases fourth : (past + 1) % 4 = 0
  · by_cases hundredth : (past + 1) % 100 = 0
    · by_cases cycle : (past + 1) % 400 = 0
      · simp only [fourth, hundredth, cycle]
        simp
        omega
      · simp only [fourth, hundredth, cycle]
        simp
        omega
    · have regular : (past + 1) % 400 ≠ 0 := by omega
      rw [if_pos fourth, if_neg hundredth, if_neg regular, if_pos ⟨fourth, .inl hundredth⟩]
      omega
  · have hundredth : (past + 1) % 100 ≠ 0 := by omega
    have cycle : (past + 1) % 400 ≠ 0 := by omega
    simp only [fourth, hundredth, cycle]
    simp
    omega

theorem daysBeforeYear_later (year later : Nat) (first : 1 ≤ year) (before : year < later) :
    daysBeforeYear year + yearLength year ≤ daysBeforeYear later := by
  rw [← daysBeforeYear_succ year first]
  induction later, before using Nat.le_induction with
  | base => exact le_refl _
  | succ later passed ih =>
      rw [daysBeforeYear_succ later (by omega)]
      omega

theorem months_fit : ∀ leap : Bool, ∀ month < 12,
    ((monthLengths leap).take month).sum + (monthLengths leap).getD month 0 ≤
      if leap then 366 else 365 := by
  decide

theorem months_ordered : ∀ leap : Bool, ∀ later < 12, ∀ month < later,
    ((monthLengths leap).take month).sum + (monthLengths leap).getD month 0 ≤
      ((monthLengths leap).take later).sum := by
  decide

theorem months_nonempty : ∀ leap : Bool, ∀ month < 12, 1 ≤ (monthLengths leap).getD month 0 := by
  decide

theorem ordinal_lt (date later : Civil) (valid : date.Valid) (started : 1 ≤ later.day)
    (within : later.month ≤ 12)
    (after : date.year < later.year ∨ date.year = later.year ∧ date.month < later.month) :
    date.ordinal < later.ordinal := by
  obtain ⟨year, -, month, lastMonth, -, day⟩ := valid
  simp only [Civil.ordinal]
  rcases after with laterYear | ⟨sameYear, laterMonth⟩
  · have passed := daysBeforeYear_later date.year later.year year laterYear
    have fits := months_fit (isLeap date.year) (date.month - 1) (by omega)
    simp only [yearLength] at passed
    omega
  · have fits := months_ordered (isLeap date.year) (later.month - 1) (by omega) (date.month - 1)
      (by omega)
    rw [← sameYear]
    omega

theorem addMonths_later (date : Civil) (months : Nat) (valid : date.Valid) (positive : 1 ≤ months) :
    date.ordinal < (date.addMonths months).ordinal := by
  obtain ⟨-, -, month, lastMonth, day, -⟩ := id valid
  have nonempty := months_nonempty (isLeap (date.year + (date.month - 1 + months) / 12))
    ((date.month - 1 + months) % 12) (Nat.mod_lt _ (by omega))
  refine ordinal_lt date _ valid ?_ ?_ ?_
  · simp only [Civil.addMonths, Nat.add_sub_cancel]
    omega
  · simp only [Civil.addMonths]
    omega
  · simp only [Civil.addMonths]
    omega

theorem addMonths_lt (moment shifted : Moment) (months : Nat) (positive : 1 ≤ months)
    (added : addMonths moment months = some shifted) : moment.val < shifted.val := by
  obtain ⟨ordinal, clock, whole⟩ := moment_parts moment
  obtain ⟨valid, same⟩ := civil_spec (ordinalOf moment) (Nat.le_add_left 1 _) ordinal
  have later := addMonths_later (civil (ordinalOf moment)) months valid positive
  rw [same] at later
  simp only [addMonths] at added
  split at added
  · unfold momentAt at added
    split at added
    · cases added
      have start : moment.val = microsAt (ordinalOf moment) (clockOf moment) := whole.symm
      have first : 1 ≤ ordinalOf moment := Nat.le_add_left 1 _
      rw [start]
      simp only [microsAt, dayLength]
      omega
    · cases added
  · cases added

theorem isoDate_token (ordinal : Nat) : IsToken (isoDate ordinal) :=
  (padded_token _ _).append (.cons (by decide) ((padded_token _ _).append
    (.cons (by decide) (padded_token _ _))))

theorem iso_token (moment : Moment) : IsToken (iso moment) := by
  have clock : ∀ micros, IsToken (isoClock micros) := fun micros =>
    (padded_token _ _).append (.cons (by decide) ((padded_token _ _).append
      (.cons (by decide) ((padded_token _ _).append (.cons (by decide) (padded_token _ _))))))
  have offset : IsToken utcOffset := isToken_of_all _ (by decide)
  exact (isoDate_token _).append (.cons (by decide) ((clock _).append offset))

end CloudGuest.Calendar
