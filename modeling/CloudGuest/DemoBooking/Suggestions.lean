import CloudGuest.DemoBooking.Availability

/-!
Availability, the booking check and the conflict suggestions of a demo-booking
calendar (`demo_booking/availability.py`). Dates are counted as ordinals, and in a
zone of one offset the three agree on the instants that are bookable and free.
-/

namespace CloudGuest.DemoBooking

/-- The whole `BookingWindow`: the rules of the grid, the notice and the days it is open. -/
structure BookingCalendar extends BookingWindow where
  leadTimeMinutes : Int
  horizonDays : Int
  workingWeekdays : Finset Int
  blackoutDates : Finset Int

inductive DemoBookingDayStatus where
  | available
  | fullyBooked
  | noRemainingSlots
  | nonWorkingDay
  | blackout
  | outsideWindow
  deriving DecidableEq

structure Slot where
  startsAt : Int
  endsAt : Int
  deriving DecidableEq

structure DayAvailability where
  day : Int
  status : DemoBookingDayStatus
  slots : List Slot
  deriving DecidableEq

/-- `date.weekday()`: Monday is 0, and so is the day of ordinal 1. -/
def weekday (day : Int) : Int := (day + 6) % 7

def iterateDates (start finish : Int) : List Int :=
  (List.range (finish - start + 1).toNat).map fun past : Nat => start + past

namespace BookingCalendar

variable (window : BookingCalendar)

def firstBookableDate (now : Int) : Int := window.localDate now

def lastBookableDate (now : Int) : Int := window.localDate now + window.horizonDays

def isWithinWindow (day now : Int) : Bool :=
  window.firstBookableDate now ≤ day && day ≤ window.lastBookableDate now

def isWorkingDay (day : Int) : Bool :=
  weekday day ∈ window.workingWeekdays && day ∉ window.blackoutDates

def slotEnd (startsAt : Int) : Int := startsAt + window.length

/-- On the grid, of a working day inside the window, and with enough notice. -/
def isBookable (startsAt now : Int) : Bool :=
  let day := window.localDate startsAt
  if !window.isOnGrid startsAt then false
  else if !window.isWorkingDay day then false
  else if !window.isWithinWindow day now then false
  else now < startsAt && window.leadTimeMinutes * minuteMicros ≤ startsAt - now

def dayAvailability (day now : Int) (taken : List Int) : DayAvailability :=
  if !window.isWithinWindow day now then ⟨day, .outsideWindow, []⟩
  else if day ∈ window.blackoutDates then ⟨day, .blackout, []⟩
  else if weekday day ∉ window.workingWeekdays then ⟨day, .nonWorkingDay, []⟩
  else
    let stillBookable := (window.dayGrid day).filter fun start => window.isBookable start now
    let free := stillBookable.filter (· ∉ taken)
    if free ≠ [] then ⟨day, .available, free.map fun start => ⟨start, window.slotEnd start⟩⟩
    else if stillBookable = [] then ⟨day, .noRemainingSlots, []⟩
    else ⟨day, .fullyBooked, []⟩

def collectDay (now : Int) (taken : List Int) (limit : Int) :
    List Int → List Int → List Int × Bool
  -- The starts of one day added to those found; `true` where the search is over.
  | [], found => (found, false)
  | start :: rest, found =>
      if start ∈ taken ∨ ¬ window.isBookable start now then collectDay now taken limit rest found
      else
        let found := found ++ [start]
        if limit ≤ found.length then (found, true) else collectDay now taken limit rest found

def collectDays (now : Int) (taken : List Int) (limit : Int) : List Int → List Int → List Int
  | [], found => found
  | day :: rest, found =>
      if !window.isWorkingDay day then collectDays now taken limit rest found
      else
        match window.collectDay now taken limit (window.dayGrid day) found with
        | (found, true) => found
        | (found, false) => collectDays now taken limit rest found

def nextAvailableStarts (now : Int) (taken : List Int) (limit : Int) : List Int :=
  window.collectDays now taken limit
    (iterateDates (window.firstBookableDate now) (window.lastBookableDate now)) []

section Search

variable (now : Int) (taken : List Int)

def isFree (start : Int) : Bool := window.isBookable start now && start ∉ taken

def freeStarts (days : List Int) : List Int :=
  (days.filter (window.isWorkingDay ·)).flatMap fun day =>
    (window.dayGrid day).filter (window.isFree now taken)

/-- How many starts a search for so many gives at most: it looks at its limit after a find. -/
def most (limit : Int) : Nat := (max limit 1).toNat

theorem collectDay_take (limit : Int) (starts found : List Int) (room : found.length < most limit) :
    window.collectDay now taken limit starts found =
      let all := found ++ starts.filter (window.isFree now taken)
      (all.take (most limit), decide (most limit ≤ all.length)) := by
  -- The limit is looked at after a start is appended, so there is room at every step.
  induction starts generalizing found with
  | nil =>
      have short : found.take (most limit) = found := List.take_of_length_le (le_of_lt room)
      simp [collectDay, short, room]
  | cons start rest ih =>
      unfold collectDay
      by_cases free : window.isFree now taken start = true
      · have kept : ¬(start ∈ taken ∨ ¬ window.isBookable start now) := by
          simp only [isFree, Bool.and_eq_true, decide_eq_true_eq] at free
          simp [free]
        have split : found ++ start :: rest.filter (window.isFree now taken) =
            found ++ [start] ++ rest.filter (window.isFree now taken) := by simp
        rw [if_neg kept, List.filter_cons_of_pos free, split]
        dsimp only
        split
        -- The start fills the list up, and the search ends with it.
        · rename_i full
          have reached : most limit = (found ++ [start]).length := by
            simp only [most, List.length_append, List.length_singleton] at room full ⊢
            omega
          rw [reached, List.take_left]
          simp
        · rename_i more
          have roomy : (found ++ [start]).length < most limit := by
            simp only [most, List.length_append, List.length_singleton] at room more ⊢
            omega
          exact ih _ roomy
      · have skipped : start ∈ taken ∨ ¬ window.isBookable start now := by
          simp only [isFree, Bool.and_eq_true, decide_eq_true_eq] at free
          tauto
        rw [if_pos skipped, ih found room, List.filter_cons_of_neg free]

theorem collectDays_take (limit : Int) (days found : List Int) (room : found.length < most limit) :
    window.collectDays now taken limit days found =
      (found ++ window.freeStarts now taken days).take (most limit) := by
  induction days generalizing found with
  | nil =>
      rw [freeStarts, List.filter_nil, List.flatMap_nil, List.append_nil]
      exact (List.take_of_length_le (le_of_lt room)).symm
  | cons day rest ih =>
      unfold collectDays
      cases working : window.isWorkingDay day with
      | false =>
          have skipped : window.freeStarts now taken (day :: rest) =
              window.freeStarts now taken rest := by
            simp [freeStarts, working]
          rw [skipped]
          simpa using ih found room
      | true =>
          have split : window.freeStarts now taken (day :: rest) =
              (window.dayGrid day).filter (window.isFree now taken) ++
                window.freeStarts now taken rest := by
            simp [freeStarts, working]
          rw [collectDay_take window now taken limit _ found room, split, ← List.append_assoc]
          generalize found ++ (window.dayGrid day).filter (window.isFree now taken) = all
          -- A day that fills the list up ends the search, whatever the days after it have.
          by_cases full : most limit ≤ all.length
          · simp [full, List.take_append_of_le_length full]
          · have whole : all.take (most limit) = all := List.take_of_length_le (by omega)
            simpa [full, whole] using ih all (by omega)

theorem nextAvailableStarts_take (limit : Int) :
    window.nextAvailableStarts now taken limit =
      (window.freeStarts now taken (iterateDates (window.firstBookableDate now)
        (window.lastBookableDate now))).take (most limit) := by
  have room : ([] : List Int).length < most limit := by
    simp only [most, List.length_nil]
    omega
  exact window.collectDays_take now taken limit _ [] room

end Search

theorem bookable_date (start now : Int) (bookable : window.isBookable start now = true) :
    start ∈ window.dayGrid (window.localDate start) ∧
      window.isWorkingDay (window.localDate start) = true ∧
      window.isWithinWindow (window.localDate start) now = true := by
  unfold isBookable at bookable
  dsimp only at bookable
  split at bookable
  · cases bookable
  · rename_i onGrid
    split at bookable
    · cases bookable
    · rename_i working
      split at bookable
      · cases bookable
      · rename_i within
        have grid : window.isOnGrid start = true := by simpa using onGrid
        simp only [BookingWindow.isOnGrid, decide_eq_true_eq] at grid
        exact ⟨grid, by simpa using working, by simpa using within⟩

theorem isFree_iff (now : Int) (taken : List Int) (start : Int) :
    window.isFree now taken start = true ↔ window.isBookable start now = true ∧ start ∉ taken := by
  simp [isFree]

section OneOffset

/-- A zone whose wall times are all as far from UTC. -/
structure OneOffset (zone : Zone) (shift : Int) : Prop where
  offset : ∀ wall, zone.offset wall = shift
  wallAt : ∀ instant, zone.wallAt instant = instant + shift

variable {window} {shift : Int} (zoned : OneOffset window.timezone shift)

include zoned

theorem localDate_slot (day : Int) (slot : Nat) (fits : window.Fits day slot) :
    window.localDate (window.toUtc (window.slotWall day slot)) = day := by
  -- A slot's instant is on the date it was made for, as a slot ends before midnight.
  have positive := window.length_pos
  have step := window.step_pos
  have started := window.startOfDay
  have ended := window.endOfDay
  have past : 0 ≤ (slot : Int) * window.step := mul_nonneg (Int.natCast_nonneg _) (le_of_lt step)
  unfold BookingWindow.Fits at fits
  simp only [BookingWindow.localDate, BookingWindow.toUtc, zoned.offset, zoned.wallAt,
    Int.sub_add_cancel]
  unfold BookingWindow.slotWall at fits ⊢
  generalize (slot : Int) * window.step = later at past fits ⊢
  unfold dayMicros at started ended fits ⊢
  omega

theorem dayGrid_localDate (day start : Int) (member : start ∈ window.dayGrid day) :
    window.localDate start = day := by
  obtain ⟨slot, fits, rfl⟩ := (window.mem_dayGrid day start).mp member
  exact localDate_slot zoned day slot fits

theorem dayGrid_sorted (day : Int) : (window.dayGrid day).Pairwise (· < ·) := by
  apply (window.dayGrid_ascending day).mpr
  intro slot _
  right
  intro earlier before
  have step := window.step_pos
  have less : (earlier : Int) * window.step < slot * window.step :=
    mul_lt_mul_of_pos_right (by exact_mod_cast before) step
  simp only [BookingWindow.toUtc, zoned.offset, BookingWindow.slotWall]
  omega

theorem localDate_mono (earlier later : Int) (before : earlier ≤ later) :
    window.localDate earlier ≤ window.localDate later := by
  simp only [BookingWindow.localDate, zoned.wallAt]
  exact Int.ediv_le_ediv (by decide) (by omega)

theorem mem_freeStarts (now : Int) (taken days : List Int) (start : Int) :
    start ∈ window.freeStarts now taken days ↔
      window.localDate start ∈ days ∧ window.isFree now taken start = true := by
  simp only [freeStarts, List.mem_flatMap, List.mem_filter]
  constructor
  · rintro ⟨day, ⟨inDays, -⟩, onGrid, free⟩
    rw [dayGrid_localDate zoned day start onGrid]
    exact ⟨inDays, free⟩
  · rintro ⟨inDays, free⟩
    obtain ⟨onGrid, working, -⟩ := window.bookable_date start now
      ((window.isFree_iff now taken start).mp free).1
    exact ⟨_, ⟨inDays, working⟩, onGrid, free⟩

theorem freeStarts_sorted (now : Int) (taken days : List Int) (ascending : days.Pairwise (· < ·)) :
    (window.freeStarts now taken days).Pairwise (· < ·) := by
  refine List.pairwise_flatMap.mpr ⟨?_, ?_⟩
  · intro day _
    exact (dayGrid_sorted zoned day).filter _
  · refine (ascending.filter _).imp ?_
    intro day later before start inDay other inLater
    rw [List.mem_filter] at inDay inLater
    have startDate := dayGrid_localDate zoned day start inDay.1
    have otherDate := dayGrid_localDate zoned later other inLater.1
    by_contra notBefore
    have ordered := localDate_mono zoned other start (by omega)
    omega

end OneOffset

theorem mem_iterateDates (start finish day : Int) :
    day ∈ iterateDates start finish ↔ start ≤ day ∧ day ≤ finish := by
  simp only [iterateDates, List.mem_map, List.mem_range]
  constructor
  · rintro ⟨past, bound, rfl⟩
    omega
  · rintro ⟨after, before⟩
    exact ⟨(day - start).toNat, by omega, by omega⟩

theorem iterateDates_sorted (start finish : Int) :
    (iterateDates start finish).Pairwise (· < ·) := by
  refine List.pairwise_map.mpr (List.pairwise_lt_range.imp ?_)
  intro earlier later before
  omega

section Agreement

def bookableOn (day now : Int) : Set Int :=
  {start | window.isBookable start now = true ∧ window.localDate start = day}

inductive Standing (day now : Int) (taken : List Int) : DemoBookingDayStatus → Prop where
  | outsideWindow (outside : window.isWithinWindow day now = false) :
      Standing day now taken .outsideWindow
  | blackout (within : window.isWithinWindow day now = true)
      (closed : day ∈ window.blackoutDates) : Standing day now taken .blackout
  | nonWorkingDay (within : window.isWithinWindow day now = true)
      (opened : day ∉ window.blackoutDates) (idle : weekday day ∉ window.workingWeekdays) :
      Standing day now taken .nonWorkingDay
  | available (within : window.isWithinWindow day now = true)
      (working : window.isWorkingDay day = true)
      (free : ∃ start ∈ window.bookableOn day now, start ∉ taken) :
      Standing day now taken .available
  | noRemainingSlots (within : window.isWithinWindow day now = true)
      (working : window.isWorkingDay day = true) (late : window.bookableOn day now = ∅) :
      Standing day now taken .noRemainingSlots
  | fullyBooked (within : window.isWithinWindow day now = true)
      (working : window.isWorkingDay day = true) (some : (window.bookableOn day now).Nonempty)
      (held : ∀ start ∈ window.bookableOn day now, start ∈ taken) :
      Standing day now taken .fullyBooked

variable {window} {shift : Int}

theorem Standing.unique {day now : Int} {taken : List Int} {left right : DemoBookingDayStatus}
    (one : window.Standing day now taken left) (other : window.Standing day now taken right) :
    left = right := by
  cases one <;> cases other <;> grind [isWorkingDay, Set.Nonempty]

variable (zoned : OneOffset window.timezone shift)

include zoned

theorem mem_bookable (day now start : Int) :
    start ∈ (window.dayGrid day).filter (fun start => window.isBookable start now) ↔
      start ∈ window.bookableOn day now := by
  simp only [List.mem_filter, bookableOn, Set.mem_ofPred_eq]
  constructor
  · rintro ⟨onGrid, bookable⟩
    exact ⟨bookable, dayGrid_localDate zoned day start onGrid⟩
  · rintro ⟨bookable, rfl⟩
    exact ⟨(window.bookable_date start now bookable).1, bookable⟩

theorem dayAvailability_standing (day now : Int) (taken : List Int) :
    window.Standing day now taken (window.dayAvailability day now taken).status ∧
      ∀ start, start ∈ (window.dayAvailability day now taken).slots.map (·.startsAt) ↔
        start ∈ window.bookableOn day now ∧ start ∉ taken := by
  have none_else (other : window.isWithinWindow day now = false ∨ window.isWorkingDay day = false) :
      ∀ start, start ∉ window.bookableOn day now := by
    rintro start ⟨bookable, rfl⟩
    have date := window.bookable_date start now bookable
    simp [date] at other
  unfold dayAvailability
  -- A status at a time, in the order the code asks for them.
  by_cases within : window.isWithinWindow day now = true
  · by_cases closed : day ∈ window.blackoutDates
    · simp only [within, closed, Bool.not_true, Bool.false_eq_true, if_false, if_true]
      refine ⟨.blackout within closed, ?_⟩
      have nothing := none_else (.inr (by simp [isWorkingDay, closed]))
      simp [nothing]
    · by_cases working : weekday day ∈ window.workingWeekdays
      · have open_ : window.isWorkingDay day = true := by simp [isWorkingDay, closed, working]
        have members := mem_bookable zoned day now
        simp only [within, closed, working, Bool.not_true, Bool.false_eq_true, if_false, not_true]
        generalize (window.dayGrid day).filter (fun start => window.isBookable start now) =
          stillBookable at members
        split
        · rename_i free
          obtain ⟨start, member⟩ := List.exists_mem_of_ne_nil _ free
          rw [List.mem_filter, members, decide_eq_true_eq] at member
          refine ⟨.available within open_ ⟨start, member⟩, ?_⟩
          intro other
          simp [members]
        · rename_i full
          have held : ∀ start ∈ window.bookableOn day now, start ∈ taken := by
            simpa [members] using full
          have nothing : ∀ start, start ∈ window.bookableOn day now → start ∉ taken → False :=
            fun start bookable free => free (held start bookable)
          split
          · rename_i late
            rw [late] at members
            have empty : window.bookableOn day now = ∅ := by
              ext start
              simpa using (members start).symm
            exact ⟨.noRemainingSlots within open_ empty, by simp [empty]⟩
          · rename_i some
            obtain ⟨start, member⟩ := List.exists_mem_of_ne_nil _ some
            refine ⟨.fullyBooked within open_ ⟨start, (members start).mp member⟩ held, ?_⟩
            simpa using nothing
      · have idle := none_else (.inr (by simp [isWorkingDay, working]))
        simp only [within, closed, working, Bool.not_true, Bool.false_eq_true, if_false,
          not_false_eq_true, if_true]
        exact ⟨.nonWorkingDay within closed working, by simp [idle]⟩
  · have outside : window.isWithinWindow day now = false := by simpa using within
    simp only [outside, Bool.not_false, if_true]
    exact ⟨.outsideWindow outside, by simp [none_else (.inl outside)]⟩

theorem status_iff (day now : Int) (taken : List Int) (status : DemoBookingDayStatus) :
    (window.dayAvailability day now taken).status = status ↔
      window.Standing day now taken status := by
  have standing := (dayAvailability_standing zoned day now taken).1
  constructor
  · rintro rfl
    exact standing
  · exact standing.unique

/-- A listed slot is one that can be booked and is not taken; the suggestions are the first of
these, and one of them where fewer are asked for; and every date has the status of the documented
precedence. -/
theorem bookings_agree (now : Int) (taken : List Int) :
    (∀ start, start ∈ (window.dayAvailability (window.localDate start) now taken).slots.map
        (·.startsAt) ↔ window.isBookable start now = true ∧ start ∉ taken) ∧
    (∃ free : List Int, free.Pairwise (· < ·) ∧
      (∀ start, start ∈ free ↔ window.isBookable start now = true ∧ start ∉ taken) ∧
      ∀ limit, window.nextAvailableStarts now taken limit = free.take (max limit 1).toNat) ∧
    ∀ day status, (window.dayAvailability day now taken).status = status ↔
      window.Standing day now taken status := by
  refine ⟨?_, ⟨_, ?_, ?_, window.nextAvailableStarts_take now taken⟩, ?_⟩
  · intro start
    rw [(dayAvailability_standing zoned _ now taken).2]
    simp [bookableOn]
  · exact freeStarts_sorted zoned now taken _ (iterateDates_sorted _ _)
  · intro start
    rw [mem_freeStarts zoned, isFree_iff, mem_iterateDates]
    constructor
    · exact And.right
    · intro free
      have within := (window.bookable_date start now free.1).2.2
      simp only [isWithinWindow, Bool.and_eq_true, decide_eq_true_eq] at within
      exact ⟨within, free⟩
  · intro day status
    exact status_iff zoned day now taken status

end Agreement

end BookingCalendar

section Office

def kolkata : Zone where
  offset := fun _ => 19800000000
  wallAt := fun instant => instant + 19800000000

theorem kolkata_oneOffset : BookingCalendar.OneOffset kolkata 19800000000 :=
  ⟨fun _ => rfl, fun _ => rfl⟩

theorem half_hour_pos : (0 : Int) < 30 := by decide

def office : BookingCalendar where
  timezone := kolkata
  workdayStart := 36000000000
  workdayEnd := 64800000000
  slotMinutes := 30
  bufferMinutes := 0
  startOfDay := by decide
  endOfDay := by decide
  slotPositive := half_hour_pos
  bufferNonneg := by decide
  leadTimeMinutes := 120
  horizonDays := 30
  workingWeekdays := {0, 1, 2, 3, 4}
  blackoutDates := ∅

/-- Ten o'clock of the first Friday is bookable, and one list has all suggestions. -/
theorem bookings_agree_office :
    ((102600000000 : Int) ∈
        (office.dayAvailability (office.localDate 102600000000) 0 []).slots.map (·.startsAt) ↔
      office.isBookable 102600000000 0 = true ∧ (102600000000 : Int) ∉ ([] : List Int)) ∧
    ∃ free : List Int, ∀ limit,
      office.nextAvailableStarts 0 [] limit = free.take (max limit 1).toNat := by
  have zoned : BookingCalendar.OneOffset office.timezone 19800000000 := kolkata_oneOffset
  obtain ⟨slots, ⟨free, -, -, found⟩, -⟩ := BookingCalendar.bookings_agree zoned 0 []
  exact ⟨slots 102600000000, free, found⟩

/-- Asked for no suggestion, the search gives the first free slot. -/
theorem none_asked_one_given :
    ¬∃ free : List Int, office.nextAvailableStarts 0 [] 0 = free.take (0 : Int).toNat := by
  have monday : (102600000000 : Int) ∈ office.dayGrid 1 := by
    refine (office.mem_dayGrid 1 102600000000).mpr ⟨0, ?_, by decide⟩
    unfold BookingWindow.Fits
    decide
  have onGrid : office.isOnGrid 102600000000 = true := decide_eq_true monday
  have bookable : office.isBookable 102600000000 0 = true := by
    simp only [BookingCalendar.isBookable, onGrid]
    decide
  have found : (102600000000 : Int) ∈ office.freeStarts 0 []
      (iterateDates (office.firstBookableDate 0) (office.lastBookableDate 0)) := by
    rw [BookingCalendar.mem_freeStarts kolkata_oneOffset, BookingCalendar.isFree_iff]
    exact ⟨by decide, bookable, by simp⟩
  rintro ⟨free, none⟩
  rw [office.nextAvailableStarts_take] at none
  cases starts : office.freeStarts 0 []
      (iterateDates (office.firstBookableDate 0) (office.lastBookableDate 0)) with
  | nil =>
      rw [starts] at found
      cases found
  | cons first rest =>
      rw [starts] at none
      simp [BookingCalendar.most] at none

end Office

end CloudGuest.DemoBooking
