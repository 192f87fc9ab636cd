import CloudGuest.Library.Calendar
import CloudGuest.Library.Casing
import CloudGuest.Library.Deadlines

/-!
The login hours of an access tier (policy/access_tier.py, `login_hours_standing`) for
whatever strings `GroupLoginHoursRules` lets through, in a zone whose offset does not
change. A time may come with an offset of its own; two times of which one has an offset
have no order, and the interpreter raises where they are compared.
-/

namespace CloudGuest.LoginHours

open Texts Calendar Casing Deadlines

/-! ### Times of the day -/

structure Time where
  hour : Nat
  minute : Nat
  second : Nat
  microsecond : Nat
  offset : Option Int
  inDay : hour < 24 ∧ minute < 60 ∧ second < 60 ∧ microsecond < 1000000

def MINUTE : Int := 60000000
def SECOND : Int := 1000000

def Time.toMinute (time : Time) : Int := (time.hour * 60 + time.minute : Nat) * MINUTE

def Time.clock (time : Time) : Int :=
  time.toMinute + time.second * SECOND + time.microsecond

/-- How two times compare: by their clocks if their offsets are the same, by the clocks less the
whole seconds of their offsets if both have one. -/
def compareTimes (left right : Time) : Option Ordering :=
  if left.offset = right.offset then some (compare left.clock right.clock)
  else
    match left.offset, right.offset with
    | some leftOffset, some rightOffset =>
        some (compare (left.clock - leftOffset / SECOND * SECOND)
          (right.clock - rightOffset / SECOND * SECOND))
    | _, _ => none

/-! ### The rules -/

structure GroupLoginHoursRules where
  days : List Text
  startTime : Text
  endTime : Text

inductive Fault where
  | typeError | overflowError
  deriving DecidableEq

inductive Standing where
  | unrestricted
  | closed
  | closesIn (seconds : Int)
  deriving DecidableEq

def dayIndex (name : Text) : Option Int :=
  [("mon", 0), ("tue", 1), ("wed", 2), ("thu", 3), ("fri", 4), ("sat", 5), ("sun", 6)].findSome?
    fun entry => if name = entry.1.toList then some entry.2 else none

def weekday (day : Int) : Int := (day + 6) % 7

def dayOf (wall : Int) : Int := (wall - firstMicros) / dayLength + 1

def midnight (day : Int) : Int := firstMicros + (day - 1) * dayLength

section Standing

variable (properties : Properties) (fromIsoFormat : Text → Option Time)

def parseHhmm (value : Text) : Option Time := fromIsoFormat (strip value)

def dayIndexes (days : List Text) : Option (List Int) :=
  if days = [] then some [0, 1, 2, 3, 4, 5, 6]
  else
    let found := days.filterMap fun day => dayIndex ((lower properties (strip day)).take 3)
    if found = [] then none else some found

structure Hours where
  start : Time
  close : Time
  days : List Int

def readHours (rules : GroupLoginHoursRules) : Option Hours := do
  let start ← parseHhmm fromIsoFormat rules.startTime
  let close ← parseHhmm fromIsoFormat rules.endTime
  let days ← dayIndexes properties rules.days
  return ⟨start, close, days⟩

def Hours.opens (hours : Hours) (day : Int) : Int := midnight day + hours.start.toMinute

def Hours.closingMinute (hours : Hours) (day : Int) : Int :=
  midnight day + hours.close.toMinute + (MINUTE - 1)

def Hours.window (hours : Hours) (day : Int) : Except Fault (Int × Int) :=
  match compareTimes hours.start hours.close with
  | none => .error .typeError
  | some .eq =>
      if hours.opens day + dayLength ≤ lastMicros then
        .ok (hours.opens day, hours.opens day + dayLength - 1)
      else .error .overflowError
  | some .gt =>
      if hours.closingMinute day + dayLength ≤ lastMicros then
        .ok (hours.opens day, hours.closingMinute day + dayLength)
      else .error .overflowError
  | some .lt => .ok (hours.opens day, hours.closingMinute day)

def lookBack (hours : Hours) (wall : Int) : List Int → Except Fault Standing
  | [] => .ok .closed
  | back :: rest =>
      let day := dayOf wall - back
      if wall - back * dayLength < firstMicros then .error .overflowError
      else if weekday day ∉ hours.days then lookBack hours wall rest
      else
        match hours.window day with
        | .error fault => .error fault
        | .ok (opens, closes) =>
            if opens ≤ wall ∧ wall ≤ closes then
              .ok (.closesIn (max (ceilSeconds (closes - wall)) 1))
            else lookBack hours wall rest

/-- Where a wall time falls among the windows of hours that could be read. -/
def Hours.standing (hours : Hours) (wall : Int) : Except Fault Standing :=
  match momentAt wall with
  | none => .error .overflowError
  | some wall => lookBack hours wall.val [0, 1]

def loginHoursStanding (rules : GroupLoginHoursRules) (zoneOffset : Int) (now : Moment) :
    Except Fault Standing :=
  match readHours properties fromIsoFormat rules with
  | none => .ok .unrestricted
  | some hours => hours.standing (now.val + zoneOffset)

end Standing

/-! ### Windows -/

section Windows

variable (hours : Hours)

def Hours.ends (day : Int) : Int :=
  -- When the window that starts on a day ends: on the next day if it starts later than it ends,
  -- and after 24 hours if the two are the same.
  match compareTimes hours.start hours.close with
  | some .eq => hours.opens day + dayLength - 1
  | some .gt => hours.closingMinute day + dayLength
  | _ => hours.closingMinute day

def Hours.Listed (day : Int) : Prop := weekday day ∈ hours.days

instance (day : Int) : Decidable (hours.Listed day) := inferInstanceAs (Decidable (_ ∈ _))

def Hours.Within (wall day : Int) : Prop :=
  hours.Listed day ∧ hours.opens day ≤ wall ∧ wall ≤ hours.ends day

instance (wall day : Int) : Decidable (hours.Within wall day) :=
  inferInstanceAs (Decidable (_ ∧ _ ∧ _))

def Hours.Mixed : Prop := hours.start.offset.isSome ≠ hours.close.offset.isSome

instance : Decidable hours.Mixed := inferInstanceAs (Decidable (_ ≠ _))

def Hours.RunsOver : Prop :=
  compareTimes hours.start hours.close = some .eq ∨ compareTimes hours.start hours.close = some .gt

instance : Decidable hours.RunsOver := inferInstanceAs (Decidable (_ ∨ _))

theorem compareTimes_none (left right : Time) :
    compareTimes left right = none ↔ left.offset.isSome ≠ right.offset.isSome := by
  unfold compareTimes
  cases first : left.offset with
  | none =>
      cases second : right.offset with
      | none => simp
      | some offset => simp
  | some offset =>
      cases second : right.offset with
      | none => simp
      | some other =>
          simp only [Option.isSome_some, ne_eq, not_true_eq_false, iff_false]
          split <;> simp

theorem dayOf_bounds (wall : Int) :
    midnight (dayOf wall) ≤ wall ∧ wall < midnight (dayOf wall) + dayLength := by
  simp only [midnight, dayOf, dayLength]
  omega

theorem toMinute_bounds (time : Time) : 0 ≤ time.toMinute ∧ time.toMinute + MINUTE ≤ dayLength := by
  obtain ⟨hours, minutes, -, -⟩ := time.inDay
  simp only [Time.toMinute, MINUTE, dayLength]
  omega

theorem window_bounds (day : Int) :
    midnight day ≤ hours.opens day ∧ hours.ends day < midnight day + 2 * dayLength := by
  have start := toMinute_bounds hours.start
  have close := toMinute_bounds hours.close
  simp only [Hours.opens, Hours.ends, Hours.closingMinute]
  simp only [MINUTE] at *
  constructor
  · omega
  · split <;> omega

theorem within_days (wall day : Int) (within : hours.Within wall day) :
    day = dayOf wall ∨ day = dayOf wall - 1 := by
  have own := dayOf_bounds wall
  have bounds := window_bounds hours day
  obtain ⟨-, opened, open_⟩ := within
  simp only [midnight, dayLength] at own bounds
  omega

theorem allDay_within (wall : Int) (equal : compareTimes hours.start hours.close = some .eq)
    (daily : ∀ day, hours.Listed day) : ∃ day, hours.Within wall day := by
  have own := dayOf_bounds wall
  have start := toMinute_bounds hours.start
  by_cases opened : hours.opens (dayOf wall) ≤ wall
  · refine ⟨dayOf wall, daily _, opened, ?_⟩
    simp only [Hours.ends, equal, Hours.opens, dayLength] at *
    omega
  · refine ⟨dayOf wall - 1, daily _, ?_, ?_⟩
    all_goals
      simp only [Hours.ends, equal, Hours.opens, midnight, dayLength, MINUTE] at *
      omega

/-- The seconds until a window ends, at least one: the last of them starts inside it, and no
fewer reach its end. -/
structure Hours.UntilEnd (wall day seconds : Int) : Prop where
  inside : hours.opens day ≤ wall + (seconds - 1) * SECOND ∧
    wall + (seconds - 1) * SECOND ≤ hours.ends day
  least : IsLeast {count : Int | 1 ≤ count ∧ hours.ends day ≤ wall + count * SECOND} seconds

theorem untilEnd_ceil (wall day : Int) (within : hours.Within wall day) :
    hours.UntilEnd wall day (max (ceilSeconds (hours.ends day - wall)) 1) := by
  obtain ⟨-, opened, before⟩ := within
  have positive : 1 ≤ max (ceilSeconds (hours.ends day - wall)) 1 := le_max_right _ _
  constructor
  · simp only [ceilSeconds, SECOND]
    omega
  · constructor
    · refine ⟨positive, ?_⟩
      simp only [ceilSeconds, SECOND]
      omega
    · rintro count ⟨atLeast, reaches⟩
      simp only [ceilSeconds, SECOND] at *
      omega

/-- The rules cannot be compared, or a day that is needed is not in the calendar. -/
def Hours.Broken (wall : Int) : Prop :=
  (hours.Mixed ∧
    (hours.Listed (dayOf wall) ∨ (1 < dayOf wall ∧ hours.Listed (dayOf wall - 1)))) ∨
  (hours.Listed (dayOf wall) ∧ hours.RunsOver ∧ dayOf wall = maxOrdinal) ∨
  (dayOf wall = 1 ∧ ¬hours.Within wall (dayOf wall))

instance (wall : Int) : Decidable (hours.Broken wall) :=
  inferInstanceAs (Decidable (_ ∨ _ ∨ _))

theorem window_mixed (day : Int) (mixed : hours.Mixed) : hours.window day = .error .typeError := by
  have unordered := (compareTimes_none hours.start hours.close).mpr mixed
  simp [Hours.window, unordered]

theorem window_last (day : Int) (runs : hours.RunsOver) (last : day = maxOrdinal) :
    hours.window day = .error .overflowError := by
  have start := toMinute_bounds hours.start
  have close := toMinute_bounds hours.close
  rcases runs with equal | later
  · simp only [Hours.window, equal]
    refine if_neg ?_
    simp only [Hours.opens, midnight, firstMicros, lastMicros, dayLength, maxOrdinal] at *
    omega
  · simp only [Hours.window, later]
    refine if_neg ?_
    simp only [Hours.closingMinute, midnight, firstMicros, lastMicros, dayLength, maxOrdinal,
      MINUTE] at *
    omega

theorem window_ends (day : Int) (ordered : ¬hours.Mixed)
    (fits : day < maxOrdinal ∨ (day = maxOrdinal ∧ ¬hours.RunsOver)) :
    hours.window day = .ok (hours.opens day, hours.ends day) := by
  have start := toMinute_bounds hours.start
  have close := toMinute_bounds hours.close
  -- A window that ends by midnight needs no day after its own.
  cases compared : compareTimes hours.start hours.close with
  | none => exact absurd ((compareTimes_none _ _).mp compared) ordered
  | some order =>
      cases order with
      | lt => simp [Hours.window, Hours.ends, compared]
      | eq =>
          have before : day < maxOrdinal := by
            rcases fits with before | ⟨-, kept⟩
            · exact before
            · exact absurd (Or.inl compared) kept
          simp only [Hours.window, Hours.ends, compared]
          refine if_pos ?_
          simp only [Hours.opens, midnight, firstMicros, lastMicros, dayLength, maxOrdinal,
            MINUTE] at *
          omega
      | gt =>
          have before : day < maxOrdinal := by
            rcases fits with before | ⟨-, kept⟩
            · exact before
            · exact absurd (Or.inr compared) kept
          simp only [Hours.window, Hours.ends, compared]
          refine if_pos ?_
          simp only [Hours.closingMinute, midnight, firstMicros, lastMicros, dayLength,
            maxOrdinal, MINUTE] at *
          omega

theorem window_listed (day : Int) (top : day ≤ maxOrdinal)
    (ordered : ¬(hours.Listed day ∧ hours.Mixed))
    (fits : ¬(hours.Listed day ∧ hours.RunsOver ∧ day = maxOrdinal)) (listed : hours.Listed day) :
    hours.window day = .ok (hours.opens day, hours.ends day) := by
  apply window_ends hours day fun unordered => ordered ⟨listed, unordered⟩
  rcases lt_or_eq_of_le top with before | final
  · exact Or.inl before
  · exact Or.inr ⟨final, fun runs => fits ⟨listed, runs, final⟩⟩

end Windows

/-! ### The days looked at -/

section LookBack

variable (hours : Hours) (wall : Int)

theorem lookBack_within (back : Int) (rest : List Int)
    (reached : firstMicros ≤ wall - back * dayLength)
    (window : hours.window (dayOf wall - back) =
      .ok (hours.opens (dayOf wall - back), hours.ends (dayOf wall - back)))
    (within : hours.Within wall (dayOf wall - back)) :
    lookBack hours wall (back :: rest) =
      .ok (.closesIn (max (ceilSeconds (hours.ends (dayOf wall - back) - wall)) 1)) := by
  obtain ⟨listed, opened, before⟩ := within
  simp only [Hours.Listed] at listed
  simp [lookBack, not_lt.mpr reached, listed, window, opened, before]

theorem lookBack_without (back : Int) (rest : List Int)
    (reached : firstMicros ≤ wall - back * dayLength)
    (window : hours.Listed (dayOf wall - back) → hours.window (dayOf wall - back) =
      .ok (hours.opens (dayOf wall - back), hours.ends (dayOf wall - back)))
    (without : ¬hours.Within wall (dayOf wall - back)) :
    lookBack hours wall (back :: rest) = lookBack hours wall rest := by
  by_cases listed : hours.Listed (dayOf wall - back)
  · have outside : ¬(hours.opens (dayOf wall - back) ≤ wall ∧
        wall ≤ hours.ends (dayOf wall - back)) :=
      fun inside => without ⟨listed, inside⟩
    have named : weekday (dayOf wall - back) ∈ hours.days := listed
    simp [lookBack, not_lt.mpr reached, named, window listed, if_neg outside]
  · have unnamed : weekday (dayOf wall - back) ∉ hours.days := listed
    simp [lookBack, not_lt.mpr reached, unnamed]

theorem lookBack_fault (back : Int) (rest : List Int) (fault : Fault)
    (reached : firstMicros ≤ wall - back * dayLength) (listed : hours.Listed (dayOf wall - back))
    (window : hours.window (dayOf wall - back) = .error fault) :
    lookBack hours wall (back :: rest) = .error fault := by
  have named : weekday (dayOf wall - back) ∈ hours.days := listed
  simp [lookBack, not_lt.mpr reached, named, window]

theorem dayOf_reached (first : firstMicros ≤ wall) (last : wall ≤ lastMicros) :
    1 ≤ dayOf wall ∧ dayOf wall ≤ maxOrdinal ∧
      (firstMicros ≤ wall - 1 * dayLength ↔ 1 < dayOf wall) := by
  simp only [dayOf, firstMicros, lastMicros, dayLength, maxOrdinal] at *
  omega

theorem today_reached (first : firstMicros ≤ wall) : firstMicros ≤ wall - 0 * dayLength := by
  omega

theorem lookBack_broken (first : firstMicros ≤ wall) (last : wall ≤ lastMicros)
    (broken : hours.Broken wall) : ∃ fault, lookBack hours wall [0, 1] = .error fault := by
  obtain ⟨one, top, second⟩ := dayOf_reached wall first last
  have today : dayOf wall - 0 = dayOf wall := by omega
  have reached := today_reached wall first
  by_cases mixed : hours.Listed (dayOf wall) ∧ hours.Mixed
  · refine ⟨.typeError, lookBack_fault hours wall 0 [1] _ reached ?_ ?_⟩
    · rw [today]
      exact mixed.1
    · exact window_mixed hours _ mixed.2
  by_cases runsOut : hours.Listed (dayOf wall) ∧ hours.RunsOver ∧ dayOf wall = maxOrdinal
  · refine ⟨.overflowError, lookBack_fault hours wall 0 [1] _ reached ?_ ?_⟩
    · rw [today]
      exact runsOut.1
    · rw [today]
      exact window_last hours _ runsOut.2.1 runsOut.2.2
  -- Nothing is wrong with today's window, so the day before is looked at.
  have outside : ¬hours.Within wall (dayOf wall - 0) := by
    rw [today]
    rintro within
    rcases broken with ⟨unordered, listed | earlier⟩ | past | start
    · exact mixed ⟨listed, unordered⟩
    · exact mixed ⟨within.1, unordered⟩
    · exact runsOut past
    · exact start.2 within
  have window : hours.Listed (dayOf wall - 0) → hours.window (dayOf wall - 0) =
      .ok (hours.opens (dayOf wall - 0), hours.ends (dayOf wall - 0)) := by
    rw [today]
    exact window_listed hours _ top mixed runsOut
  rw [lookBack_without hours wall 0 [1] reached window outside]
  by_cases later : 1 < dayOf wall
  · rcases broken with ⟨unordered, listed | earlier⟩ | past | start
    · exact absurd ⟨listed, unordered⟩ mixed
    · exact ⟨.typeError, lookBack_fault hours wall 1 [] _ (second.mpr later) earlier.2
        (window_mixed hours _ unordered)⟩
    · exact absurd past runsOut
    · omega
  · have unreached : wall - 1 * dayLength < firstMicros :=
      not_le.mp fun back => later (second.mp back)
    exact ⟨.overflowError, by rw [lookBack]; exact if_pos unreached⟩

/-- Where nothing raises, the window that started last among those around the instant counts. -/
theorem lookBack_exact (first : firstMicros ≤ wall) (last : wall ≤ lastMicros)
    (kept : ¬hours.Broken wall) :
    (lookBack hours wall [0, 1] = .ok .closed ∧ ∀ day, ¬hours.Within wall day) ∨
      ∃ day seconds, lookBack hours wall [0, 1] = .ok (.closesIn seconds) ∧
        hours.Within wall day ∧ (∀ other, hours.Within wall other → other ≤ day) ∧
        hours.UntilEnd wall day seconds := by
  obtain ⟨one, top, second⟩ := dayOf_reached wall first last
  have today : dayOf wall - 0 = dayOf wall := by omega
  have reached := today_reached wall first
  have window : hours.Listed (dayOf wall - 0) → hours.window (dayOf wall - 0) =
      .ok (hours.opens (dayOf wall - 0), hours.ends (dayOf wall - 0)) := by
    rw [today]
    exact window_listed hours _ top (fun mixed => kept (Or.inl ⟨mixed.2, Or.inl mixed.1⟩))
      fun runsOut => kept (Or.inr (Or.inl runsOut))
  -- Today's window counts where it is open, else yesterday's, which may run past midnight.
  by_cases inside : hours.Within wall (dayOf wall - 0)
  · right
    refine ⟨_, _, lookBack_within hours wall 0 [1] reached (window inside.1) inside, inside, ?_,
      untilEnd_ceil hours wall _ inside⟩
    intro other within
    rcases within_days hours wall other within with same | before <;> omega
  · rw [lookBack_without hours wall 0 [1] reached window inside]
    rw [today] at inside
    have later : 1 < dayOf wall := by
      by_contra start
      exact kept (Or.inr (Or.inr ⟨by omega, inside⟩))
    have earlier : hours.Listed (dayOf wall - 1) → hours.window (dayOf wall - 1) =
        .ok (hours.opens (dayOf wall - 1), hours.ends (dayOf wall - 1)) := fun listed =>
      window_ends hours _ (fun unordered => kept (Or.inl ⟨unordered, Or.inr ⟨later, listed⟩⟩))
        (Or.inl (by omega))
    by_cases before : hours.Within wall (dayOf wall - 1)
    · right
      refine ⟨_, _, lookBack_within hours wall 1 [] (second.mpr later) (earlier before.1) before,
        before, ?_, untilEnd_ceil hours wall _ before⟩
      intro other within
      rcases within_days hours wall other within with same | previous
      · exact absurd (same ▸ within) inside
      · exact le_of_eq previous
    · left
      rw [lookBack_without hours wall 1 [] (second.mpr later) earlier before]
      refine ⟨rfl, ?_⟩
      intro day within
      rcases within_days hours wall day within with same | previous
      · exact inside (same ▸ within)
      · exact before (previous ▸ within)

def inCalendar (micros : Int) : Prop := firstMicros ≤ micros ∧ micros ≤ lastMicros

theorem standing_outside (outside : ¬inCalendar wall) :
    hours.standing wall = .error .overflowError := by
  have lost : momentAt wall = none := dif_neg outside
  rw [Hours.standing, lost]

theorem standing_inside (inside : inCalendar wall) :
    hours.standing wall = lookBack hours wall [0, 1] := by
  have reached : momentAt wall = some ⟨wall, inside⟩ := dif_pos inside
  rw [Hours.standing, reached]

/-- The end of the window that counts, which is today's where it is open. -/
def Hours.closesAt : Option Int :=
  ([dayOf wall, dayOf wall - 1].find? fun day => decide (hours.Within wall day)).map hours.ends

theorem closesAt_latest {closes : Int} (known : hours.closesAt wall = some closes) :
    ∃ day, hours.Within wall day ∧ (∀ other, hours.Within wall other → other ≤ day) ∧
      hours.ends day = closes := by
  obtain ⟨day, found, ended⟩ := Option.map_eq_some_iff.mp known
  have open_ := List.find?_some found
  refine ⟨day, of_decide_eq_true open_, ?_, ended⟩
  intro other within
  rcases within_days hours wall other within with rfl | rfl
  · -- Today's window is asked for first.
    simp only [List.find?_cons, decide_eq_true within] at found
    exact le_of_eq (Option.some.inj found)
  · have listed := List.mem_of_find?_eq_some found
    simp only [List.mem_cons, List.not_mem_nil, or_false] at listed
    omega

/-- Within a window an allowance is given, and it runs out with the window. -/
theorem standing_meets {standing : Standing} (answered : hours.standing wall = .ok standing)
    {closes : Int} (known : hours.closesAt wall = some closes) :
    ∃ seconds, standing = .closesIn seconds ∧ Meets wall (some seconds) closes := by
  obtain ⟨day, within, latest, rfl⟩ := closesAt_latest hours wall known
  have inside : inCalendar wall := by
    by_contra outside
    rw [standing_outside hours wall outside] at answered
    cases answered
  rw [standing_inside hours wall inside] at answered
  have kept : ¬hours.Broken wall := by
    intro broken
    obtain ⟨fault, raised⟩ := lookBack_broken hours wall inside.1 inside.2 broken
    rw [answered] at raised
    cases raised
  rcases lookBack_exact hours wall inside.1 inside.2 kept with
    ⟨-, none⟩ | ⟨last, seconds, open_, counted, newest, until_⟩
  · exact absurd within (none day)
  · rw [answered] at open_
    obtain rfl : last = day := le_antisymm (latest last counted) (newest day within)
    refine ⟨seconds, Except.ok.inj open_, seconds, rfl, ?_⟩
    have before := until_.inside.2
    simp only [SECOND] at before
    omega

end LookBack

/-! ### Exact login hours -/

section Exact

variable (properties : Properties) (fromIsoFormat : Text → Option Time)

def Unreadable (rules : GroupLoginHoursRules) : Prop :=
  parseHhmm fromIsoFormat rules.startTime = none ∨ parseHhmm fromIsoFormat rules.endTime = none ∨
    (rules.days ≠ [] ∧
      ∀ day ∈ rules.days, dayIndex ((lower properties (strip day)).take 3) = none)

/-- The rules restrict nothing just when they cannot be read; they are closed just outside every
window, and inside one the seconds until it ends are counted. -/
def Exact (rules : GroupLoginHoursRules) (zoneOffset : Int) (now : Moment) : Prop :=
  ∃ standing, loginHoursStanding properties fromIsoFormat rules zoneOffset now = .ok standing ∧
    (standing = .unrestricted ↔ Unreadable properties fromIsoFormat rules) ∧
    ∀ hours, readHours properties fromIsoFormat rules = some hours →
      (standing = .closed ↔ ∀ day, ¬hours.Within (now.val + zoneOffset) day) ∧
      (∀ seconds, standing = .closesIn seconds → ∃ day,
        hours.Within (now.val + zoneOffset) day ∧
          (∀ other, hours.Within (now.val + zoneOffset) other → other ≤ day) ∧
          hours.UntilEnd (now.val + zoneOffset) day seconds) ∧
      ((∀ day, hours.Listed day) → compareTimes hours.start hours.close = some .eq →
        standing ≠ .closed)

def Breaks (rules : GroupLoginHoursRules) (zoneOffset : Int) (now : Moment) : Prop :=
  ∃ hours, readHours properties fromIsoFormat rules = some hours ∧
    (¬inCalendar (now.val + zoneOffset) ∨ hours.Broken (now.val + zoneOffset))

theorem dayIndexes_none (days : List Text) :
    dayIndexes properties days = none ↔
      days ≠ [] ∧ ∀ day ∈ days, dayIndex ((lower properties (strip day)).take 3) = none := by
  unfold dayIndexes
  by_cases empty : days = []
  · simp [empty]
  · simp [empty, List.filterMap_eq_nil_iff]

theorem readHours_none (rules : GroupLoginHoursRules) :
    readHours properties fromIsoFormat rules = none ↔
      Unreadable properties fromIsoFormat rules := by
  rw [Unreadable, ← dayIndexes_none]
  unfold readHours
  cases start : parseHhmm fromIsoFormat rules.startTime with
  | none => simp
  | some first =>
      cases close : parseHhmm fromIsoFormat rules.endTime with
      | none => simp
      | some last =>
          cases days : dayIndexes properties rules.days with
          | none => simp
          | some listed => simp

theorem breaks_raises (rules : GroupLoginHoursRules) (zoneOffset : Int) (now : Moment)
    (breaks : Breaks properties fromIsoFormat rules zoneOffset now) :
    ∃ fault, loginHoursStanding properties fromIsoFormat rules zoneOffset now = .error fault := by
  obtain ⟨hours, read, outside | broken⟩ := breaks
  · exact ⟨.overflowError, by simp [loginHoursStanding, read, standing_outside hours _ outside]⟩
  · by_cases inside : inCalendar (now.val + zoneOffset)
    · obtain ⟨fault, raised⟩ := lookBack_broken hours _ inside.1 inside.2 broken
      exact ⟨fault, by simp [loginHoursStanding, read, standing_inside hours _ inside, raised]⟩
    · exact ⟨.overflowError, by simp [loginHoursStanding, read, standing_outside hours _ inside]⟩

/-- Login hours are exact just where nothing raises. -/
theorem login_hours_iff (rules : GroupLoginHoursRules) (zoneOffset : Int) (now : Moment) :
    Exact properties fromIsoFormat rules zoneOffset now ↔
      ¬Breaks properties fromIsoFormat rules zoneOffset now := by
  constructor
  · rintro ⟨standing, returned, -⟩ breaks
    obtain ⟨fault, raised⟩ := breaks_raises properties fromIsoFormat rules zoneOffset now breaks
    rw [returned] at raised
    cases raised
  · intro kept
    cases read : readHours properties fromIsoFormat rules with
    | none =>
        have unreadable := (readHours_none properties fromIsoFormat rules).mp read
        refine ⟨.unrestricted, by simp [loginHoursStanding, read], by simp [unreadable], ?_⟩
        intro hours readable
        rw [read] at readable
        cases readable
    | some hours =>
        have readable : ¬Unreadable properties fromIsoFormat rules := by
          rw [← readHours_none, read]
          simp
        have inside : inCalendar (now.val + zoneOffset) := by
          by_contra outside
          exact kept ⟨hours, read, Or.inl outside⟩
        have whole : ¬hours.Broken (now.val + zoneOffset) :=
          fun broken => kept ⟨hours, read, Or.inr broken⟩
        have standing : loginHoursStanding properties fromIsoFormat rules zoneOffset now =
            lookBack hours (now.val + zoneOffset) [0, 1] := by
          simp [loginHoursStanding, read, standing_inside hours _ inside]
        rw [Exact, standing]
        rcases lookBack_exact hours _ inside.1 inside.2 whole with
          ⟨closed, none⟩ | ⟨day, seconds, open_, within, latest, until_⟩
        · refine ⟨.closed, closed, by simp [readable], ?_⟩
          intro other same
          obtain rfl : hours = other := Option.some.inj (read.symm.trans same)
          refine ⟨by simp [none], by simp, ?_⟩
          intro daily equal
          obtain ⟨day, within⟩ := allDay_within hours (now.val + zoneOffset) equal daily
          exact absurd within (none day)
        · refine ⟨.closesIn seconds, open_, by simp [readable], ?_⟩
          intro other same
          obtain rfl : hours = other := Option.some.inj (read.symm.trans same)
          refine ⟨?_, ?_, by simp⟩
          · simp only [reduceCtorEq, false_iff, not_forall, not_not]
            exact ⟨day, within⟩
          · rintro count same
            obtain rfl := Standing.closesIn.inj same
            exact ⟨day, within, latest, until_⟩

end Exact

/-! ### A closing time with an offset -/

def hourMinute (text : Text) : Option (Nat × Nat × Text) := do
  let (hour, text) ← readDigits 2 0 text
  let text ← expect ':' text
  let (minute, text) ← readDigits 2 0 text
  return (hour, minute, text)

def clockTexts (text : Text) : Option Time := do
  let (hour, minute, rest) ← hourMinute text
  let offset ← match rest with
    | [] => some none
    | sign :: zone => do
        let (hours, minutes, rest) ← hourMinute zone
        let ahead : Int := (hours * 60 + minutes : Nat) * MINUTE
        if rest ≠ [] ∨ ¬(hours < 24 ∧ minutes < 60) then none
        else if sign = '+' then some (some ahead)
        else if sign = '-' then some (some (-ahead))
        else none
  if inDay : hour < 24 ∧ minute < 60 ∧ 0 < 60 ∧ 0 < 1000000 then
    some ⟨hour, minute, 0, 0, offset, inDay⟩
  else none

def asciiLetters : Properties := ⟨Char.isAlpha, fun _ => false⟩

def monday : Moment := ⟨1767603600000000, by decide⟩

theorem mixedOffsets_raise :
    ¬Exact asciiLetters clockTexts ⟨[], "09:00".toList, "17:00+00:00".toList⟩ 0 monday := by
  rintro ⟨standing, returned, -⟩
  have raised : loginHoursStanding asciiLetters clockTexts
      ⟨[], "09:00".toList, "17:00+00:00".toList⟩ 0 monday = .error .typeError := by
    decide +kernel
  rw [returned] at raised
  cases raised

/-- Without the offset there are eight hours and a minute left. -/
example : loginHoursStanding asciiLetters clockTexts ⟨[], "09:00".toList, "17:00".toList⟩ 0
    monday = .ok (.closesIn 28860) := by decide +kernel

end CloudGuest.LoginHours
