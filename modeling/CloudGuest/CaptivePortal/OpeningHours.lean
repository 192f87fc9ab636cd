import CloudGuest.Guest.Sessions
import CloudGuest.Library.Deadlines

/-!
When a venue is open (captive_portal/validators.py, `is_open_now`,
`seconds_until_closing`), by a wall clock in microseconds from a Thursday's midnight.
Times of the day are minutes, as the write checks leave them. A schedule that cannot be
read is none here.
-/

namespace CloudGuest.OpeningHours
open Deadlines
open Guest (minutes)

def DAY : Int := 86400000000
def LAST_INSTANT : Int := 59999999

def dayOf (wall : Int) : Int := wall / DAY

def timeOfDay (wall : Int) : Int := wall % DAY

def weekday (day : Int) : Nat := ((day + 3) % 7).toNat

structure DayWindow where
  start : Nat
  close : Nat
  deriving DecidableEq

abbrev Schedule := Nat → Option DayWindow

def isOpenNow (schedule : Schedule) (wall : Int) : Bool :=
  (schedule (weekday (dayOf wall))).any fun window =>
    minutes window.start ≤ timeOfDay wall && timeOfDay wall ≤ minutes window.close

def closesAt (schedule : Schedule) (day : Int) : Option Int :=
  (schedule (weekday day)).map fun window => day * DAY + minutes window.close + LAST_INSTANT

def secondsUntilClosing (schedule : Schedule) (wall : Int) : Option Int :=
  if !isOpenNow schedule wall then none
  else (closesAt schedule (dayOf wall)).map fun closing => max (ceilSeconds (closing - wall)) 1

theorem secondsUntilClosing_meets (schedule : Schedule) (wall : Int)
    (isOpen : isOpenNow schedule wall = true) :
    ∃ closing, closesAt schedule (dayOf wall) = some closing ∧
      Meets wall (secondsUntilClosing schedule wall) closing := by
  -- While it is open, a venue knows when it closes, and is given no longer.
  have early := isOpen
  unfold isOpenNow at early
  cases window : schedule (weekday (dayOf wall)) with
  | none =>
      rw [window] at early
      cases early
  | some window' =>
      rw [window, Option.any_some, Bool.and_eq_true, decide_eq_true_eq, decide_eq_true_eq] at early
      have closing : closesAt schedule (dayOf wall) =
          some (dayOf wall * DAY + minutes window'.close + LAST_INSTANT) := by
        rw [closesAt, window, Option.map_some]
      refine ⟨_, closing, ?_⟩
      rw [secondsUntilClosing, isOpen, closing]
      refine max_ceil_meets ?_
      -- the closing minute begins no earlier than the time of the day
      have whole : dayOf wall * DAY + timeOfDay wall = wall := Int.ediv_mul_add_emod wall DAY
      have later : 0 ≤ LAST_INSTANT := by decide
      omega

end CloudGuest.OpeningHours
