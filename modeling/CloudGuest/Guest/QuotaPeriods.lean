import CloudGuest.Guest.Quotas
import CloudGuest.Library.Months
import CloudGuest.Library.Zones

/-!
Where the periods of a fair usage policy begin (guest/validators.py,
`compute_period_start`), in a zone whose offset changes at instants.
-/

namespace CloudGuest.Guest.QuotaPeriods

open Calendar Zones

/-! ### Local days -/

def startDay : QuotaPeriodType → Nat → Nat
  | .daily, day => day
  | .weekly, day => day - (day + 6) % 7
  | .monthly, day => { civil day with day := 1 }.ordinal

def SameDays : QuotaPeriodType → Nat → Nat → Prop
  | .daily, day, other => day = other
  | .weekly, day, other => (day + 6) / 7 = (other + 6) / 7
  | .monthly, day, other =>
      (civil day).year = (civil other).year ∧ (civil day).month = (civil other).month

instance (period : QuotaPeriodType) (day other : Nat) : Decidable (SameDays period day other) := by
  cases period <;> unfold SameDays <;> infer_instance

section Days

variable {day other : Nat}

theorem firstOfMonth_valid (date : Civil) (valid : date.Valid) :
    ({ date with day := 1 } : Civil).Valid := by
  obtain ⟨year, lastYear, month, lastMonth, day, fits⟩ := valid
  exact ⟨year, lastYear, month, lastMonth, le_refl 1, by dsimp only; omega⟩

theorem firstOfMonth_le_iff (date later : Civil) (valid : date.Valid) (laterValid : later.Valid) :
    ({ date with day := 1 } : Civil).ordinal ≤ ({ later with day := 1 } : Civil).ordinal ↔
      (date.year < later.year ∨ date.year = later.year ∧ date.month < later.month) ∨
        date.year = later.year ∧ date.month = later.month := by
  rw [ordinal_le_iff _ _ (firstOfMonth_valid date valid) (firstOfMonth_valid later laterValid)]
  simp

theorem startDay_le (period : QuotaPeriodType) (first : 1 ≤ day) (last : day ≤ maxOrdinal) :
    1 ≤ startDay period day ∧ startDay period day ≤ day := by
  cases period with
  | daily => exact ⟨first, le_refl day⟩
  | weekly =>
      simp only [startDay]
      omega
  | monthly =>
      obtain ⟨valid, same⟩ := civil_spec day first last
      have below := (ordinal_le_iff _ _ (firstOfMonth_valid _ valid) valid).mpr
        (Or.inr ⟨rfl, rfl, valid.2.2.2.2.1⟩)
      rw [same] at below
      exact ⟨(ordinal_le_max _ (firstOfMonth_valid _ valid)).1, below⟩

theorem startDay_mono (period : QuotaPeriodType) (first : 1 ≤ other) (last : other ≤ maxOrdinal)
    (top : day ≤ maxOrdinal) (reached : startDay period other ≤ day) :
    startDay period other ≤ startDay period day := by
  cases period with
  | daily => exact reached
  | weekly =>
      simp only [startDay] at reached ⊢
      omega
  | monthly =>
      have start := (startDay_le .monthly first last).1
      obtain ⟨otherValid, -⟩ := civil_spec other first last
      obtain ⟨valid, same⟩ := civil_spec day (start.trans reached) top
      simp only [startDay] at reached ⊢
      rw [← same, ordinal_le_iff _ _ (firstOfMonth_valid _ otherValid) valid] at reached
      rw [firstOfMonth_le_iff _ _ otherValid valid]
      dsimp only at reached
      omega

theorem startDay_same (period : QuotaPeriodType) (first : 1 ≤ day) (last : day ≤ maxOrdinal)
    (otherFirst : 1 ≤ other) (otherLast : other ≤ maxOrdinal) :
    startDay period day = startDay period other ↔ SameDays period day other := by
  cases period with
  | daily => exact Iff.rfl
  | weekly =>
      simp only [startDay, SameDays]
      omega
  | monthly =>
      obtain ⟨valid, -⟩ := civil_spec day first last
      obtain ⟨otherValid, -⟩ := civil_spec other otherFirst otherLast
      have below := firstOfMonth_le_iff _ _ valid otherValid
      have above := firstOfMonth_le_iff _ _ otherValid valid
      simp only [startDay, SameDays]
      constructor
      · intro same
        have early := below.mp (le_of_eq same)
        have late := above.mp (le_of_eq same.symm)
        omega
      · rintro ⟨year, month⟩
        exact le_antisymm (below.mpr (Or.inr ⟨year, month⟩))
          (above.mpr (Or.inr ⟨year.symm, month.symm⟩))

end Days

/-! ### Period starts -/

def startWall (period : QuotaPeriodType) (localNow : Moment) : Int :=
  microsAt (startDay period (ordinalOf localNow)) 0

/-- Taking days off a time makes it the first of its name; replacing its fields does not. -/
def keepsFold (period : QuotaPeriodType) : Bool := period ≠ .weekly

def computePeriodStart (zone : Zone) (period : QuotaPeriodType) (now : Moment) : Option Moment :=
  (momentAt (zone.wall now.val)).bind fun localNow =>
    momentAt (startWall period localNow -
      zone.localOffset (zone.isFold now.val && keepsFold period) (startWall period localNow))

/-- Two instants of one local day, ISO week or month. -/
def SamePeriod (zone : Zone) (period : QuotaPeriodType) (now other : Moment) : Prop :=
  match momentAt (zone.wall now.val), momentAt (zone.wall other.val) with
  | some localNow, some localOther =>
      SameDays period (ordinalOf localNow) (ordinalOf localOther)
  | _, _ => False

instance (zone : Zone) (period : QuotaPeriodType) (now other : Moment) :
    Decidable (SamePeriod zone period now other) := by
  unfold SamePeriod
  split <;> infer_instance

/-- No change of the clock repeats or skips the midnight that begins the period of an instant. -/
def Settled (zone : Zone) (period : QuotaPeriodType) (now : Moment) : Prop :=
  ∀ localNow, momentAt (zone.wall now.val) = some localNow →
    zone.Spares (startWall period localNow) now.val (zone.isFold now.val && keepsFold period)

instance (zone : Zone) (period : QuotaPeriodType) (now : Moment) :
    Decidable (Settled zone period now) :=
  match read : momentAt (zone.wall now.val) with
  | none => isTrue fun _ found => nomatch read.symm.trans found
  | some localNow =>
      decidable_of_iff
        (zone.Spares (startWall period localNow) now.val
          (zone.isFold now.val && keepsFold period))
        ⟨fun spared _ found => Option.some.inj (read.symm.trans found) ▸ spared,
          fun settled => settled localNow read⟩

theorem momentAt_eq {micros : Int} {moment : Moment} (found : momentAt micros = some moment) :
    moment.val = micros := by
  unfold momentAt at found
  split at found
  · obtain rfl := Option.some.inj found
    rfl
  · cases found

theorem startWall_le_iff (period : QuotaPeriodType) (moment other : Moment) :
    startWall period moment ≤ startWall period other ↔
      startDay period (ordinalOf moment) ≤ startDay period (ordinalOf other) := by
  have first := (startDay_le period (ordinalOf_le moment).1 (ordinalOf_le moment).2).1
  have second := (startDay_le period (ordinalOf_le other).1 (ordinalOf_le other).2).1
  simp only [startWall, microsAt, dayLength]
  omega

theorem startWall_reached (period : QuotaPeriodType) (moment other : Moment) :
    startWall period other ≤ moment.val ↔ startDay period (ordinalOf other) ≤ ordinalOf moment := by
  have first := (startDay_le period (ordinalOf_le other).1 (ordinalOf_le other).2).1
  have bounds := moment.property
  simp only [startWall, microsAt, ordinalOf, dayLength, firstMicros] at *
  omega

structure Begins (zone : Zone) (period : QuotaPeriodType) (now start localNow : Moment)
    (reached : Int) : Prop where
  read : momentAt (zone.wall now.val) = some localNow
  value : start.val = zone.settled (startWall period localNow)
  once : ∀ time, time < reached ↔ zone.wall time < startWall period localNow
  after : reached ≤ start.val
  before : start.val ≤ now.val

theorem settled_begins (zone : Zone) (period : QuotaPeriodType) (now start : Moment)
    (settled : Settled zone period now)
    (computed : computePeriodStart zone period now = some start) :
    ∃ localNow reached, Begins zone period now start localNow reached := by
  obtain ⟨localNow, read, found⟩ := Option.bind_eq_some_iff.mp computed
  obtain ⟨offset, reached, once, after, same⟩ := zone.spares_once (settled localNow read)
  have value : start.val = zone.settled (startWall period localNow) := by
    rw [momentAt_eq found, offset, sub_sub_cancel]
  have come : startWall period localNow ≤ zone.wall now.val := by
    rw [← momentAt_eq read, startWall_reached]
    exact (startDay_le period (ordinalOf_le localNow).1 (ordinalOf_le localNow).2).2
  have past : reached ≤ now.val :=
    not_lt.mp fun early => absurd ((once now.val).mp early) (not_lt.mpr come)
  refine ⟨localNow, reached, read, value, once, value ▸ after, ?_⟩
  rw [value]
  rcases same with first | before
  · rw [first]
    exact past
  · exact before

theorem starts_ordered (zone : Zone) (period : QuotaPeriodType)
    (now later start laterStart : Moment)
    (settled : Settled zone period now) (laterSettled : Settled zone period later)
    (computed : computePeriodStart zone period now = some start)
    (laterComputed : computePeriodStart zone period later = some laterStart) :
    (now ≤ later → start.val ≤ laterStart.val) ∧
      (start.val = laterStart.val ↔ SamePeriod zone period now later) := by
  obtain ⟨localNow, reached, begins⟩ := settled_begins zone period now start settled computed
  obtain ⟨localLater, laterReached, laterBegins⟩ :=
    settled_begins zone period later laterStart laterSettled laterComputed
  have nowRead := momentAt_eq begins.read
  have laterRead := momentAt_eq laterBegins.read
  obtain ⟨first, last⟩ := ordinalOf_le localNow
  obtain ⟨laterFirst, laterLast⟩ := ordinalOf_le localLater
  have order := startWall_le_iff period localNow localLater
  have reverse := startWall_le_iff period localLater localNow
  have same : SamePeriod zone period now later ↔
      startWall period localNow = startWall period localLater := by
    have days := startDay_same period first last laterFirst laterLast
    simp only [SamePeriod, begins.read, laterBegins.read]
    rw [← days]
    constructor
    · intro equal
      exact le_antisymm (order.mpr (le_of_eq equal)) (reverse.mpr (le_of_eq equal.symm))
    · intro equal
      exact le_antisymm (order.mp (le_of_eq equal)) (reverse.mp (le_of_eq equal.symm))
  rcases lt_trichotomy (startWall period localNow) (startWall period localLater) with
    less | equal | more
  · -- The instant is over before the later period's midnight is reached.
    have past : now.val < laterReached := by
      rw [laterBegins.once, ← nowRead]
      by_contra come
      have day := (startWall_reached period localNow localLater).mp (not_lt.mp come)
      have above := startDay_mono period laterFirst laterLast last day
      exact absurd (reverse.mpr above) (not_le.mpr less)
    have apart : start.val < laterStart.val :=
      lt_of_le_of_lt begins.before (lt_of_lt_of_le past laterBegins.after)
    exact ⟨fun _ => le_of_lt apart, iff_of_false (ne_of_lt apart) fun one =>
      ne_of_lt less (same.mp one)⟩
  · have equalStarts : start.val = laterStart.val := by
      rw [begins.value, laterBegins.value, equal]
    exact ⟨fun _ => le_of_eq equalStarts, iff_of_true equalStarts (same.mpr equal)⟩
  · -- The other way round, the second instant is before the first.
    have past : later.val < reached := by
      rw [begins.once, ← laterRead]
      by_contra come
      have day := (startWall_reached period localLater localNow).mp (not_lt.mp come)
      have above := startDay_mono period first last laterLast day
      exact absurd (order.mpr above) (not_le.mpr more)
    have apart : laterStart.val < start.val :=
      lt_of_le_of_lt laterBegins.before (lt_of_lt_of_le past begins.after)
    have reversed : later.val < now.val :=
      lt_of_lt_of_le past (begins.after.trans begins.before)
    exact ⟨fun passed => absurd passed (not_le.mpr reversed), iff_of_false (ne_of_gt apart)
      fun one => ne_of_gt more (same.mp one)⟩

/-- Where the midnights are settled, a start is at most now, later for later instants, and one for
all of a period. -/
def StartsOnce (zone : Zone) (period : QuotaPeriodType) : Prop :=
  ∀ now start, Settled zone period now → computePeriodStart zone period now = some start →
    start ≤ now ∧ ∀ later laterStart, Settled zone period later →
      computePeriodStart zone period later = some laterStart →
        (now ≤ later → start ≤ laterStart) ∧ (SamePeriod zone period now later → start = laterStart)

theorem starts_once (zone : Zone) (period : QuotaPeriodType) : StartsOnce zone period := by
  intro now start settled computed
  constructor
  · obtain ⟨localNow, reached, begins⟩ := settled_begins zone period now start settled computed
    exact begins.before
  · intro later laterStart laterSettled laterComputed
    obtain ⟨ordered, one⟩ := starts_ordered zone period now later start laterStart settled
      laterSettled computed laterComputed
    exact ⟨ordered, fun same => Subtype.ext (one.mpr same)⟩

end CloudGuest.Guest.QuotaPeriods
