import CloudGuest.Library.Cycles
import CloudGuest.Library.Texts

/-!
When a text message may be sent (marketing/validators.py, `in_quiet_hours` and
`next_allowed_at`). Instants are microseconds in UTC, on a calendar without ends; a
zone is its constant offset. The two texts of the settings are read on every call;
`none` is the `ValueError` of one that is no time of day.
-/

namespace CloudGuest.QuietHours
open Cycles Texts

def DAY : Int := 86400000000

def readWhole (text : Text) : Option Nat :=
  -- Digits alone, as HH:MM has them. Python's `int` also reads a sign, blanks around the number,
  -- underscores within it and other digits than these, so none is not its `ValueError`.
  if text ≠ [] ∧ text.all Char.isDigit then some (Nat.ofDigitChars 10 text 0) else none

def timeOf (hours minutes : Nat) : Option Int :=
  if hours < 24 ∧ minutes < 60 then some ((hours * 60 + minutes) * 60000000) else none

def parseHhmm (value : Text) : Option Int :=
  match value.span (· ≠ ':') with
  | (hours, _ :: minutes) => do timeOf (← readWhole hours) (← readWhole minutes)
  | (_, []) => none

section Hours

variable (start finish : Text) (zone : Int)

def inQuietHours (moment : Int) : Option Bool := do
  let quietStart ← parseHhmm start
  let quietEnd ← parseHhmm finish
  return inWindow quietStart quietEnd ((moment + zone) % DAY)

def nextAllowedAt (moment : Int) : Option Int := do
  if ← inQuietHours start finish zone moment then
    let quietEnd ← parseHhmm finish
    return windowEnd DAY quietEnd (moment + zone) - zone
  else return moment

end Hours

def hhmm (hour : Fin 24) (minute : Fin 60) : Text := padded 2 hour ++ ':' :: padded 2 minute

theorem readWhole_padded (number : Fin 60) : readWhole (padded 2 number) = some number.val := by
  have all : ∀ number : Fin 60, readWhole (padded 2 number) = some number.val := by decide +kernel
  exact all number

/-- A text HH:MM is read as a time of the day. -/
theorem parseHhmm_hhmm (hour : Fin 24) (minute : Fin 60) :
    ∃ time, parseHhmm (hhmm hour minute) = some time ∧ 0 ≤ time ∧ time < DAY := by
  have split : (hhmm hour minute).span (· ≠ ':') = (padded 2 hour, ':' :: padded 2 minute) := by
    -- The hour has no colon of its own, so the first one is the one between.
    have plain : ∀ char ∈ padded 2 hour, decide (char ≠ ':') = true := by
      intro char member
      have digit := padded_digits 2 hour char member
      refine decide_eq_true ?_
      rintro rfl
      exact absurd digit (by decide)
    rw [List.span_eq_takeWhile_dropWhile, hhmm, List.takeWhile_append_of_pos plain,
      List.dropWhile_append_of_pos plain]
    simp
  have hours := readWhole_padded (hour.castLE (by decide))
  have minutes := readWhole_padded minute
  rw [Fin.val_castLE] at hours
  refine ⟨(hour * 60 + minute) * 60000000, ?_, ?_, ?_⟩
  · simp only [parseHhmm, split, hours, minutes, Option.bind_eq_bind, Option.bind_some, timeOf,
      hour.isLt, minute.isLt, and_self, ↓reduceIte]
  · omega
  · have := hour.isLt
    have := minute.isLt
    unfold DAY
    omega

/-- The next allowed instant is the least one that is not in quiet hours. -/
theorem next_allowed_least (startHour finishHour : Fin 24) (startMinute finishMinute : Fin 60)
    (zone moment : Int) :
    let start := hhmm startHour startMinute
    let finish := hhmm finishHour finishMinute
    ∃ allowed, nextAllowedAt start finish zone moment = some allowed ∧ moment ≤ allowed ∧
      inQuietHours start finish zone allowed = some false ∧
      ∀ instant, moment ≤ instant → instant < allowed →
        inQuietHours start finish zone instant = some true := by
  intro start finish
  obtain ⟨quietStart, startRead, -, -⟩ := parseHhmm_hhmm startHour startMinute
  obtain ⟨quietEnd, finishRead, nonneg, inside⟩ := parseHhmm_hhmm finishHour finishMinute
  have quiet : ∀ instant, inQuietHours start finish zone instant =
      some (inWindow quietStart quietEnd ((instant + zone) % DAY)) := by
    intro instant
    simp only [inQuietHours, start, finish, startRead, finishRead, Option.bind_eq_bind,
      Option.bind_some, Option.pure_def]
  cases now : inWindow quietStart quietEnd ((moment + zone) % DAY) with
  | false =>
      refine ⟨moment, ?_, le_refl moment, ?_, ?_⟩
      · simp [nextAllowedAt, quiet, now]
      · rw [quiet, now]
      · intro instant after before
        omega
  -- Inside quiet hours the next allowed instant is their end, today or tomorrow.
  | true =>
      refine ⟨windowEnd DAY quietEnd (moment + zone) - zone, ?_, ?_, ?_, ?_⟩
      · simp [nextAllowedAt, quiet, now, finish, finishRead]
      · have later : moment + zone < windowEnd DAY quietEnd (moment + zone) :=
          windowEnd_after (by decide : 0 < DAY) nonneg
        omega
      · rw [quiet, Int.sub_add_cancel, windowEnd_outside inside nonneg]
      · intro instant after before
        rw [quiet, inWindow_until (by decide) inside now (by omega) (by omega)]

/-- A window over midnight, with the zone half an hour ahead. -/
example : nextAllowedAt "21:00".toList "09:00".toList 1800000000 (22 * 3600000000) =
    some (24 * 3600000000 + 30600000000) := by decide +kernel

end CloudGuest.QuietHours
