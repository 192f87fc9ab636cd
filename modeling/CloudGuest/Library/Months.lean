import CloudGuest.Library.Calendar

/-!
Adding months to dates and instants. A day past the end of the month reached is cut
to its last day, so the date never goes back, but two instants of different days cut
to one may change their order.
-/

namespace CloudGuest.Calendar

section Dates

theorem ordinal_le_max (date : Civil) (valid : date.Valid) :
    1 ≤ date.ordinal ∧ date.ordinal ≤ maxOrdinal := by
  obtain ⟨year, lastYear, month, lastMonth, day, lastDay⟩ := valid
  have fits := months_fit (isLeap date.year) (date.month - 1) (by omega)
  have years := daysBeforeYear_later date.year 10000 year (by omega)
  have last : daysBeforeYear 10000 = 3652059 := by decide
  simp only [yearLength, last] at years
  simp only [Civil.ordinal, maxOrdinal]
  omega

theorem ordinal_le_iff (date later : Civil) (valid : date.Valid) (laterValid : later.Valid) :
    date.ordinal ≤ later.ordinal ↔
      (date.year < later.year ∨ date.year = later.year ∧ date.month < later.month) ∨
        date.year = later.year ∧ date.month = later.month ∧ date.day ≤ later.day := by
  constructor
  · intro ordered
    by_contra reversed
    have turned : (later.year < date.year ∨ later.year = date.year ∧ later.month < date.month) ∨
        date.year = later.year ∧ date.month = later.month ∧ later.day < date.day := by omega
    rcases turned with before | ⟨year, month, day⟩
    · have less := ordinal_lt later date laterValid valid.2.2.2.2.1 valid.2.2.2.1 before
      omega
    · simp only [Civil.ordinal, year, month] at ordered
      omega
  · rintro (before | ⟨year, month, day⟩)
    · exact le_of_lt (ordinal_lt date later valid laterValid.2.2.2.2.1 laterValid.2.2.2.1 before)
    · simp only [Civil.ordinal, year, month]
      omega

theorem civil_ordinal (date : Civil) (valid : date.Valid) : civil date.ordinal = date := by
  obtain ⟨first, last⟩ := ordinal_le_max date valid
  obtain ⟨readValid, same⟩ := civil_spec date.ordinal first last
  have below := (ordinal_le_iff _ _ readValid valid).mp (le_of_eq same)
  have above := (ordinal_le_iff _ _ valid readValid).mp (le_of_eq same.symm)
  rcases read : civil date.ordinal with ⟨year, month, day⟩
  rcases date with ⟨dateYear, dateMonth, dateDay⟩
  rw [read] at below above
  dsimp only at below above
  rw [Civil.mk.injEq]
  omega

def Civil.lastDayAfter (date : Civil) (months : Nat) : Nat :=
  (monthLengths (isLeap (date.addMonths months).year)).getD ((date.addMonths months).month - 1) 0

theorem addMonths_day (date : Civil) (months : Nat) :
    (date.addMonths months).day = min date.day (date.lastDayAfter months) := rfl

theorem addMonths_valid (date : Civil) (months : Nat) (valid : date.Valid)
    (inRange : (date.addMonths months).year ≤ 9999) : (date.addMonths months).Valid := by
  obtain ⟨year, -, -, -, day, -⟩ := valid
  have nonempty := months_nonempty (isLeap (date.year + (date.month - 1 + months) / 12))
    ((date.month - 1 + months) % 12) (Nat.mod_lt _ (by omega))
  refine ⟨?_, inRange, ?_, ?_, ?_, ?_⟩ <;>
    simp only [Civil.addMonths, Nat.add_sub_cancel] <;> omega

structure Civil.CutTogether (months : Nat) (earlier later : Civil) : Prop where
  year : earlier.year = later.year
  month : earlier.month = later.month
  earlierCut : earlier.lastDayAfter months ≤ earlier.day
  laterCut : later.lastDayAfter months ≤ later.day

theorem Civil.CutTogether.ordinal {months : Nat} {earlier later : Civil}
    (cut : Civil.CutTogether months earlier later) :
    (earlier.addMonths months).ordinal = (later.addMonths months).ordinal := by
  have lastDays : earlier.lastDayAfter months = later.lastDayAfter months := by
    simp only [Civil.lastDayAfter, Civil.addMonths, cut.year, cut.month]
  have days := cut.earlierCut
  have laterDays := cut.laterCut
  simp only [Civil.ordinal, addMonths_day]
  simp only [Civil.addMonths, cut.year, cut.month]
  omega

theorem addMonths_order (months : Nat) (earlier later : Civil) (valid : earlier.Valid)
    (laterValid : later.Valid) (shifted : (earlier.addMonths months).Valid)
    (laterShifted : (later.addMonths months).Valid) (before : earlier.ordinal < later.ordinal) :
    (earlier.addMonths months).ordinal < (later.addMonths months).ordinal ∨
      Civil.CutTogether months earlier later := by
  have firstMonth := valid.2.2.1
  have lastMonth := valid.2.2.2.1
  have laterFirst := laterValid.2.2.1
  have laterLast := laterValid.2.2.2.1
  rcases (ordinal_le_iff _ _ valid laterValid).mp (le_of_lt before) with month | ⟨year, month, day⟩
  · left
    refine ordinal_lt _ _ shifted laterShifted.2.2.2.2.1 laterShifted.2.2.2.1 ?_
    simp only [Civil.addMonths]
    omega
  -- Days of one month keep their order unless both are cut to the last day of the other.
  · have different : earlier.day < later.day := by
      refine lt_of_le_of_ne day ?_
      intro same
      simp [Civil.ordinal, year, month, same] at before
    have sameYear : (earlier.addMonths months).year = (later.addMonths months).year := by
      simp [Civil.addMonths, year, month]
    have sameMonth : (earlier.addMonths months).month = (later.addMonths months).month := by
      simp [Civil.addMonths, year, month]
    have sameLast : earlier.lastDayAfter months = later.lastDayAfter months := by
      simp only [Civil.lastDayAfter, sameYear, sameMonth]
    by_cases cut : earlier.lastDayAfter months ≤ earlier.day
    · right
      exact ⟨year, month, cut, by omega⟩
    · left
      simp only [Civil.ordinal, sameYear, sameMonth, addMonths_day]
      omega

end Dates

section Instants

theorem ordinalOf_le (moment : Moment) : 1 ≤ ordinalOf moment ∧ ordinalOf moment ≤ maxOrdinal :=
  ⟨Nat.le_add_left 1 _, (moment_parts moment).1⟩

theorem clockOf_lt (moment : Moment) : clockOf moment < dayLength := (moment_parts moment).2.1

theorem moment_micros (moment : Moment) :
    moment.val = microsAt (ordinalOf moment) (clockOf moment) := (moment_parts moment).2.2.symm

theorem moment_le_iff (moment later : Moment) :
    moment ≤ later ↔ ordinalOf moment < ordinalOf later ∨
      ordinalOf moment = ordinalOf later ∧ clockOf moment ≤ clockOf later := by
  have clock := clockOf_lt moment
  have laterClock := clockOf_lt later
  have first := (ordinalOf_le moment).1
  have laterFirst := (ordinalOf_le later).1
  rw [← Subtype.coe_le_coe, moment_micros moment, moment_micros later]
  simp only [microsAt, dayLength] at clock laterClock ⊢
  omega

def dateOf (moment : Moment) : Civil := civil (ordinalOf moment)

theorem dateOf_spec (moment : Moment) :
    (dateOf moment).Valid ∧ (dateOf moment).ordinal = ordinalOf moment :=
  civil_spec _ (ordinalOf_le moment).1 (ordinalOf_le moment).2

theorem addMonths_eq (moment : Moment) (months : Nat) :
    addMonths moment months =
      if ((dateOf moment).addMonths months).year ≤ 9999 then
        momentAt (microsAt ((dateOf moment).addMonths months).ordinal (clockOf moment))
      else none := rfl

theorem momentAt_parts (date : Civil) (clock : Nat) (valid : date.Valid) (inDay : clock < dayLength) :
    ∃ moment, momentAt (microsAt date.ordinal clock) = some moment ∧ dateOf moment = date ∧
      clockOf moment = clock := by
  obtain ⟨first, last⟩ := ordinal_le_max date valid
  have within : firstMicros ≤ microsAt date.ordinal clock ∧
      microsAt date.ordinal clock ≤ lastMicros := by
    simp only [microsAt, firstMicros, lastMicros, dayLength, maxOrdinal] at inDay last ⊢
    omega
  have past : (microsAt date.ordinal clock - firstMicros).toNat =
      (date.ordinal - 1) * dayLength + clock := by
    simp only [microsAt]
    omega
  have divided : (date.ordinal - 1) * dayLength + clock = clock + (date.ordinal - 1) * dayLength := by
    omega
  refine ⟨⟨microsAt date.ordinal clock, within⟩, dif_pos within, ?_, ?_⟩
  · have sameDay : ordinalOf ⟨microsAt date.ordinal clock, within⟩ = date.ordinal := by
      simp only [ordinalOf]
      rw [past, divided, Nat.add_mul_div_right _ _ (by decide), Nat.div_eq_of_lt inDay]
      omega
    rw [dateOf, sameDay, civil_ordinal date valid]
  · simp only [clockOf]
    rw [past, divided, Nat.add_mul_mod_self_right, Nat.mod_eq_of_lt inDay]

theorem addMonths_dated (moment : Moment) (months : Nat) :
    (∀ shifted, addMonths moment months = some shifted →
      dateOf shifted = (dateOf moment).addMonths months ∧ clockOf shifted = clockOf moment) ∧
    ((addMonths moment months).isSome = true ↔ ((dateOf moment).addMonths months).year ≤ 9999) := by
  rw [addMonths_eq]
  by_cases inRange : ((dateOf moment).addMonths months).year ≤ 9999
  · have valid := addMonths_valid (dateOf moment) months (dateOf_spec moment).1 inRange
    obtain ⟨found, reached, date, clock⟩ := momentAt_parts _ _ valid (clockOf_lt moment)
    rw [if_pos inRange, reached]
    refine ⟨?_, by simp [inRange]⟩
    intro shifted same
    obtain rfl := Option.some.inj same
    exact ⟨date, clock⟩
  · rw [if_neg inRange]
    simp [inRange]

/-- Of two instants on different dates the later comes to an instant no later than the other's
exactly when they are cut to one day and its clock is not ahead. -/
theorem addMonths_overtaken (months : Nat) (earlier later shifted laterShifted : Moment)
    (before : ordinalOf earlier < ordinalOf later) (added : addMonths earlier months = some shifted)
    (laterAdded : addMonths later months = some laterShifted) :
    ordinalOf shifted ≤ ordinalOf laterShifted ∧
      (laterShifted ≤ shifted ↔
        Civil.CutTogether months (dateOf earlier) (dateOf later) ∧ clockOf later ≤ clockOf earlier) ∧
      (shifted ≤ laterShifted ↔
        ¬(Civil.CutTogether months (dateOf earlier) (dateOf later) ∧
          clockOf later < clockOf earlier)) := by
  obtain ⟨date, clock⟩ := (addMonths_dated earlier months).1 shifted added
  obtain ⟨laterDate, laterClock⟩ := (addMonths_dated later months).1 laterShifted laterAdded
  obtain ⟨shiftedValid, shiftedOrdinal⟩ := dateOf_spec shifted
  obtain ⟨laterShiftedValid, laterShiftedOrdinal⟩ := dateOf_spec laterShifted
  obtain ⟨valid, ordinal⟩ := dateOf_spec earlier
  obtain ⟨laterValid, laterOrdinal⟩ := dateOf_spec later
  rw [date] at shiftedValid shiftedOrdinal
  rw [laterDate] at laterShiftedValid laterShiftedOrdinal
  rw [moment_le_iff shifted, moment_le_iff laterShifted, clock, laterClock, ← shiftedOrdinal,
    ← laterShiftedOrdinal]
  -- Where both are cut to one day, their clocks decide.
  by_cases cut : Civil.CutTogether months (dateOf earlier) (dateOf later)
  · have same := cut.ordinal
    rw [same]
    refine ⟨le_refl _, ?_, ?_⟩
    · simp only [lt_irrefl, false_or, true_and, cut]
    · simp only [lt_irrefl, false_or, true_and, cut, not_lt]
  · rcases addMonths_order months (dateOf earlier) (dateOf later) valid laterValid shiftedValid
      laterShiftedValid (by omega) with less | cutTogether
    · refine ⟨le_of_lt less, ⟨?_, fun held => absurd held.1 cut⟩, ?_⟩
      · omega
      · exact ⟨fun _ held => cut held.1, fun _ => .inl less⟩
    · exact absurd cutTogether cut

theorem addMonths_sameDate (months : Nat) (moment other shifted otherShifted : Moment)
    (same : ordinalOf moment = ordinalOf other) (added : addMonths moment months = some shifted)
    (otherAdded : addMonths other months = some otherShifted) :
    ordinalOf shifted = ordinalOf otherShifted ∧
      (shifted ≤ otherShifted ↔ clockOf moment ≤ clockOf other) := by
  obtain ⟨date, clock⟩ := (addMonths_dated moment months).1 shifted added
  obtain ⟨otherDate, otherClock⟩ := (addMonths_dated other months).1 otherShifted otherAdded
  have dates : dateOf shifted = dateOf otherShifted := by
    rw [date, otherDate, dateOf, dateOf, same]
  have ordinals : ordinalOf shifted = ordinalOf otherShifted := by
    rw [← (dateOf_spec shifted).2, dates, (dateOf_spec otherShifted).2]
  refine ⟨ordinals, ?_⟩
  rw [moment_le_iff, ordinals, clock, otherClock]
  simp

theorem addMonths_le_iff (months : Nat) (earlier later shifted laterShifted : Moment)
    (before : earlier ≤ later) (added : addMonths earlier months = some shifted)
    (laterAdded : addMonths later months = some laterShifted) :
    ordinalOf shifted ≤ ordinalOf laterShifted ∧
      (shifted ≤ laterShifted ↔
        ¬(Civil.CutTogether months (dateOf earlier) (dateOf later) ∧
          clockOf later < clockOf earlier)) := by
  rcases (moment_le_iff earlier later).mp before with day | ⟨day, onTime⟩
  · obtain ⟨dates, -, order⟩ :=
      addMonths_overtaken months earlier later shifted laterShifted day added laterAdded
    exact ⟨dates, order⟩
  · obtain ⟨dates, order⟩ :=
      addMonths_sameDate months earlier later shifted laterShifted day added laterAdded
    refine ⟨le_of_eq dates, ⟨fun _ cut => absurd cut.2 (not_lt_of_ge onTime), fun _ => ?_⟩⟩
    exact order.mpr onTime

theorem addMonths_ge_iff (months : Nat) (earlier later shifted laterShifted : Moment)
    (before : earlier < later) (added : addMonths earlier months = some shifted)
    (laterAdded : addMonths later months = some laterShifted) :
    laterShifted ≤ shifted ↔
      Civil.CutTogether months (dateOf earlier) (dateOf later) ∧
        clockOf later ≤ clockOf earlier := by
  rcases (moment_le_iff earlier later).mp (le_of_lt before) with day | ⟨day, -⟩
  · exact (addMonths_overtaken months earlier later shifted laterShifted day added laterAdded).2.1
  · obtain ⟨-, order⟩ :=
      addMonths_sameDate months later earlier laterShifted shifted day.symm laterAdded added
    have ahead : ¬ clockOf later ≤ clockOf earlier := by
      intro behind
      exact absurd ((moment_le_iff later earlier).mpr (.inr ⟨day.symm, behind⟩)) (not_le_of_gt before)
    rw [order]
    exact ⟨fun behind => absurd behind ahead, And.right⟩

end Instants

end CloudGuest.Calendar
