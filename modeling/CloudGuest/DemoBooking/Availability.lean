import CloudGuest.Library.FirstSeen

/-!
The slot grid of a demo-booking day (`demo_booking/availability.py`) and when it
keeps meetings apart. A wall time is counted in microseconds of an unzoned
calendar, an instant in microseconds of UTC; a time zone says the offset of each
wall time, read as its first occurrence, and the wall time of each instant.
-/

namespace CloudGuest.DemoBooking

open FirstSeen

/-- A `ZoneInfo`: `utcoffset` of a wall time with `fold=0`, and `fromutc`. -/
structure Zone where
  offset : Int → Int
  wallAt : Int → Int

def dayMicros : Int := 86400000000

def minuteMicros : Int := 60000000

structure BookingWindow where
  timezone : Zone
  workdayStart : Int
  workdayEnd : Int
  slotMinutes : Int
  bufferMinutes : Int
  startOfDay : 0 ≤ workdayStart ∧ workdayStart < dayMicros
  endOfDay : 0 ≤ workdayEnd ∧ workdayEnd < dayMicros
  slotPositive : 0 < slotMinutes
  bufferNonneg : 0 ≤ bufferMinutes

namespace BookingWindow

variable (window : BookingWindow)

def localDate (instant : Int) : Int := window.timezone.wallAt instant / dayMicros

def length : Int := window.slotMinutes * minuteMicros

def step : Int := (window.slotMinutes + window.bufferMinutes) * minuteMicros

def toUtc (wall : Int) : Int := wall - window.timezone.offset wall

theorem length_pos : 0 < window.length := by
  have positive := window.slotPositive
  simp only [length, minuteMicros]
  omega

theorem length_le_step : window.length ≤ window.step := by
  have nonneg := window.bufferNonneg
  simp only [length, step, minuteMicros]
  omega

def gridLoop (closing cursor : Int) (starts : List Int) : List Int :=
  -- The loop of `day_grid` from a cursor on; two aware times of one zone compare by wall time.
  if cursor + window.length ≤ closing then
    gridLoop closing (cursor + window.step) (addNew starts (window.toUtc cursor))
  else starts
termination_by (closing - cursor).toNat
decreasing_by
  have positive := window.length_pos
  have longer := window.length_le_step
  omega

def dayGrid (day : Int) : List Int :=
  window.gridLoop (day * dayMicros + window.workdayEnd) (day * dayMicros + window.workdayStart) []

def isOnGrid (instant : Int) : Bool := instant ∈ window.dayGrid (window.localDate instant)

section Slots

def slotWall (day : Int) (slot : Nat) : Int :=
  day * dayMicros + window.workdayStart + slot * window.step

def Fits (day : Int) (slot : Nat) : Prop :=
  window.slotWall day slot + window.length ≤ day * dayMicros + window.workdayEnd

def slotsFrom (closing cursor : Int) : Nat :=
  ((closing - window.length - cursor) / window.step + 1).toNat

theorem step_pos : 0 < window.step := lt_of_lt_of_le window.length_pos window.length_le_step

theorem slotsFrom_fits (closing cursor : Int) (slot : Nat) :
    slot < window.slotsFrom closing cursor ↔
      cursor + slot * window.step + window.length ≤ closing := by
  have positive := window.step_pos
  have divided : (slot : Int) ≤ (closing - window.length - cursor) / window.step ↔
      slot * window.step ≤ closing - window.length - cursor := Int.le_ediv_iff_mul_le positive
  simp only [slotsFrom]
  omega

theorem slotsFrom_step (closing cursor : Int) (fits : cursor + window.length ≤ closing) :
    window.slotsFrom closing cursor = window.slotsFrom closing (cursor + window.step) + 1 := by
  have positive := window.step_pos
  have shifted : (closing - window.length - (cursor + window.step)) / window.step =
      (closing - window.length - cursor) / window.step + -1 := by
    rw [← Int.add_mul_ediv_right _ _ (ne_of_gt positive)]
    congr 1
    ring
  have nonneg : 0 ≤ (closing - window.length - cursor) / window.step :=
    Int.ediv_nonneg (by omega) (le_of_lt positive)
  simp only [slotsFrom, shifted]
  omega

theorem gridLoop_slots (closing cursor : Int) (starts : List Int) :
    window.gridLoop closing cursor starts =
      ((List.range (window.slotsFrom closing cursor)).map fun slot : Nat =>
        window.toUtc (cursor + slot * window.step)).foldl addNew starts := by
  -- The loop goes by the clock; the induction is on the slots it still has room for.
  induction slots : window.slotsFrom closing cursor generalizing cursor starts with
  | zero =>
      have late : ¬ cursor + window.length ≤ closing := by
        have none_fit := window.slotsFrom_fits closing cursor 0
        simp only [slots] at none_fit
        simpa using none_fit
      rw [gridLoop, if_neg late]
      simp
  | succ count ih =>
      have fits : cursor + window.length ≤ closing := by
        have first := window.slotsFrom_fits closing cursor 0
        simp only [slots] at first
        simpa using first
      have fewer : window.slotsFrom closing (cursor + window.step) = count := by
        have whole := window.slotsFrom_step closing cursor fits
        omega
      rw [gridLoop, if_pos fits, ih _ _ fewer, List.range_succ_eq_map, List.map_cons, List.foldl_cons,
        List.map_map]
      simp only [Nat.cast_zero, zero_mul, add_zero]
      congr 1
      refine List.map_congr_left ?_
      intro slot _
      simp only [Function.comp, Nat.cast_succ]
      congr 1
      ring

def slotCount (day : Int) : Nat :=
  window.slotsFrom (day * dayMicros + window.workdayEnd) (day * dayMicros + window.workdayStart)

theorem slotCount_fits (day : Int) (slot : Nat) :
    slot < window.slotCount day ↔ window.Fits day slot :=
  window.slotsFrom_fits _ _ slot

theorem dayGrid_slots (day : Int) :
    window.dayGrid day = firstSeen ((List.range (window.slotCount day)).map fun slot =>
      window.toUtc (window.slotWall day slot)) :=
  window.gridLoop_slots _ _ []

theorem mem_dayGrid (day instant : Int) :
    instant ∈ window.dayGrid day ↔
      ∃ slot, window.Fits day slot ∧ window.toUtc (window.slotWall day slot) = instant := by
  rw [dayGrid_slots, mem_firstSeen, List.mem_map]
  simp only [List.mem_range, slotCount_fits]

theorem dayGrid_ascending (day : Int) :
    (window.dayGrid day).Pairwise (· < ·) ↔
      ∀ slot, window.Fits day slot →
        (∃ earlier < slot, window.toUtc (window.slotWall day earlier) =
          window.toUtc (window.slotWall day slot)) ∨
        ∀ earlier < slot, window.toUtc (window.slotWall day earlier) <
          window.toUtc (window.slotWall day slot) := by
  rw [dayGrid_slots, firstSeen_range_ascending]
  simp only [slotCount_fits]

end Slots

section Offsets

/-- How much the zone's offset rises from one wall time to another. -/
def rise (earlier later : Int) : Int :=
  window.timezone.offset later - window.timezone.offset earlier

structure Offered (day : Int) (slot : Nat) : Prop where
  fits : window.Fits day slot
  sameDay : window.localDate (window.toUtc (window.slotWall day slot)) = day

/-- Within a day, a slot repeats the instant of an earlier one or the offset has risen since every
earlier one by less than the time between them. -/
def RisesInOrder : Prop :=
  ∀ day slot, window.Fits day slot →
    (∃ earlier < slot, window.rise (window.slotWall day earlier) (window.slotWall day slot) =
      window.slotWall day slot - window.slotWall day earlier) ∨
    ∀ earlier < slot, window.rise (window.slotWall day earlier) (window.slotWall day slot) <
      window.slotWall day slot - window.slotWall day earlier

/-- Between two offered slots the offset rises by exactly the time between them, or by a meeting's
length less than that, or more. -/
def RisesClear : Prop :=
  ∀ day slot otherDay otherSlot, window.Offered day slot → window.Offered otherDay otherSlot →
    let apart := window.slotWall otherDay otherSlot - window.slotWall day slot
    let rise := window.rise (window.slotWall day slot) (window.slotWall otherDay otherSlot)
    rise = apart ∨ rise ≤ apart - window.length ∨ apart + window.length ≤ rise

theorem isOnGrid_iff (instant : Int) :
    window.isOnGrid instant = true ↔
      ∃ day slot, window.Offered day slot ∧ window.toUtc (window.slotWall day slot) = instant := by
  simp only [isOnGrid, decide_eq_true_eq, mem_dayGrid]
  constructor
  · rintro ⟨slot, fits, same⟩
    exact ⟨_, slot, ⟨fits, by rw [same]⟩, same⟩
  · rintro ⟨day, slot, offered, rfl⟩
    rw [offered.sameDay]
    exact ⟨slot, offered.fits, rfl⟩

/-- The grids ascend and no two accepted starts overlap. -/
structure Guarded : Prop where
  ascending : ∀ day, (window.dayGrid day).Pairwise (· < ·)
  apart : ∀ left right, window.isOnGrid left = true → window.isOnGrid right = true →
    left ≠ right → window.length ≤ |left - right|

theorem ascending_iff_rises :
    (∀ day, (window.dayGrid day).Pairwise (· < ·)) ↔ window.RisesInOrder := by
  refine forall_congr' fun day => ?_
  rw [dayGrid_ascending]
  refine forall_congr' fun slot => forall_congr' fun _ => or_congr ?_ ?_
  · refine exists_congr fun earlier => and_congr_right fun _ => ?_
    simp only [toUtc, rise]
    omega
  · refine forall_congr' fun earlier => forall_congr' fun _ => ?_
    simp only [toUtc, rise]
    omega

theorem apart_iff_rises :
    (∀ left right, window.isOnGrid left = true → window.isOnGrid right = true →
      left ≠ right → window.length ≤ |left - right|) ↔ window.RisesClear := by
  have positive := window.length_pos
  constructor
  · intro apart day slot otherDay otherSlot offered otherOffered
    have between := apart _ _ ((window.isOnGrid_iff _).mpr ⟨day, slot, offered, rfl⟩)
      ((window.isOnGrid_iff _).mpr ⟨otherDay, otherSlot, otherOffered, rfl⟩)
    rw [le_abs] at between
    simp only [toUtc, rise] at between ⊢
    by_cases same : window.slotWall day slot - window.timezone.offset (window.slotWall day slot) =
        window.slotWall otherDay otherSlot -
          window.timezone.offset (window.slotWall otherDay otherSlot)
    · omega
    · have far := between same
      omega
  · intro clear left right onLeft onRight different
    obtain ⟨day, slot, offered, rfl⟩ := (window.isOnGrid_iff left).mp onLeft
    obtain ⟨otherDay, otherSlot, otherOffered, rfl⟩ := (window.isOnGrid_iff right).mp onRight
    have rises := clear day slot otherDay otherSlot offered otherOffered
    rw [le_abs]
    simp only [toUtc, rise] at rises different ⊢
    omega

/-- The starts column alone guards against overlapping meetings exactly when the zone's offset never
rises between two slots by nearly the time between them. -/
theorem guarded_iff_rises : window.Guarded ↔ window.RisesInOrder ∧ window.RisesClear := by
  rw [← ascending_iff_rises, ← apart_iff_rises]
  constructor
  · intro guarded
    exact ⟨guarded.ascending, guarded.apart⟩
  · rintro ⟨ascending, apart⟩
    exact ⟨ascending, apart⟩

end Offsets

end BookingWindow

section SpringForward

def hourMicros : Int := 3600000000

/-- The first days of a calendar in a zone that goes from UTC-5 to UTC-4 at 02:00 of day 1. -/
def springForward : Zone where
  offset := fun wall => if wall < dayMicros + 3 * hourMicros then -5 * hourMicros else -4 * hourMicros
  wallAt := fun instant =>
    if instant < dayMicros + 7 * hourMicros then instant - 5 * hourMicros
    else instant - 4 * hourMicros

def nightWindow : BookingWindow where
  timezone := springForward
  workdayStart := 0
  workdayEnd := 8 * hourMicros
  slotMinutes := 30
  bufferMinutes := 15
  startOfDay := by decide
  endOfDay := by decide
  slotPositive := by decide
  bufferNonneg := by decide

/-- The slot of 02:15, which does not exist, overlaps the one of 03:00, which comes after it in the
grid and before it in time. -/
theorem spring_forward_overlaps :
    nightWindow.isOnGrid (dayMicros + 7 * hourMicros) = true ∧
      nightWindow.isOnGrid (dayMicros + 7 * hourMicros + 15 * minuteMicros) = true ∧
      ¬ nightWindow.Guarded := by
  have offered : ∀ slot : Nat, slot ∈ [3, 4] → nightWindow.Offered 1 slot := by
    simp only [List.mem_cons, List.not_mem_nil, or_false, forall_eq_or_imp, forall_eq]
    refine ⟨⟨?_, by decide +kernel⟩, ⟨?_, by decide +kernel⟩⟩
    · unfold BookingWindow.Fits
      decide +kernel
    · unfold BookingWindow.Fits
      decide +kernel
  have onTime : nightWindow.isOnGrid (dayMicros + 7 * hourMicros) = true :=
    (nightWindow.isOnGrid_iff _).mpr ⟨1, 4, offered 4 (by simp), by decide +kernel⟩
  have overlapping : nightWindow.isOnGrid (dayMicros + 7 * hourMicros + 15 * minuteMicros) = true :=
    (nightWindow.isOnGrid_iff _).mpr ⟨1, 3, offered 3 (by simp), by decide +kernel⟩
  refine ⟨onTime, overlapping, ?_⟩
  intro guarded
  have apart := guarded.apart _ _ onTime overlapping (by decide)
  exact absurd apart (by decide +kernel)

end SpringForward

end CloudGuest.DemoBooking
