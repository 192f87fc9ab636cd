import CloudGuest.Guest.Quotas
import CloudGuest.Guest.TimeoutSweep
import CloudGuest.Library.FirstSeen
import CloudGuest.Library.Grouping
import CloudGuest.Library.Sorting

/-!
Connected time under a fair usage policy (guest/service.py, `run_fup_time_accrual`).
A sweep charges each guest that is online with the whole minutes since it last did,
and ends the guest's sessions where a limit is reached. Where a period begins in the
venue's own time zone is an argument.
-/

namespace CloudGuest.Guest.TimeAccrual

open Texts TimeoutSweep FirstSeen Grouping Sorting

def MINUTE : Int := 60000000

structure Books where
  sessions : List VenueSession
  quotas : Quotas

def Books.activeSessions (books : Books) : List VenueSession :=
  books.sessions.filter VenueSession.isActive

def Books.latestSession (books : Books) : Option VenueSession :=
  (sortDescending (fun row : VenueSession => row.session.startedAt)
    (books.sessions.filter fun row => !row.isDeleted)).head?

def earliestStart (sessions : List VenueSession) : Option Int :=
  (sessions.map fun row => row.session.startedAt).min?

/-! ### Since when a guest is connected -/

/-- What `connected_since_lookup` says of a guest: nothing, a time, or `SKIP_TIME_ACCRUAL`. -/
inductive ConnectedSince where
  | unknown
  | since (startedAt : Int)
  | skip
  deriving DecidableEq

def nasOnlyConnectedSince (isNasOnly : Nat → Option Bool) (books : Books) : ConnectedSince :=
  -- The earliest start of the guest's ACTIVE sessions if all are on NAS-only routers; whether a
  -- router is one may not be known.
  match earliestStart books.activeSessions with
  | none =>
      if books.latestSession.any fun row => isNasOnly row.session.routerId = some true then .skip
      else .unknown
  | some started =>
      let answers := books.activeSessions.map fun row => isNasOnly row.session.routerId
      if some false ∈ answers ∨ some true ∉ answers then .unknown
      else if none ∈ answers then .skip
      else .since started

/-- What a sweep is told of one guest: the time limits of the policy at a location, as the guest's
access tier leaves them, and, if it is to look, which routers are NAS-only. -/
structure Answers where
  timeLimitMinutes : Nat → QuotaPeriodType → Option Nat
  isNasOnly : Option (Nat → Option Bool)

def connectedSince (answers : Answers) (books : Books) : ConnectedSince :=
  match answers.isNasOnly with
  | none => .unknown
  | some isNasOnly => nasOnlyConnectedSince isNasOnly books

/-! ### Accrual -/

def strictest (timeLimitMinutes : Nat → QuotaPeriodType → Option Nat) (locationIds : List Nat)
    (period : QuotaPeriodType) : Option Nat :=
  locationIds.foldl (fun current location =>
    match timeLimitMinutes location period, current with
    | none, current => current
    | some candidate, none => some candidate
    | some candidate, some current => some (min current candidate)) none

def hasTimeLimit (limits : QuotaPeriodType → Option Nat) : Bool :=
  QuotaPeriodType.all.any fun period => (limits period).any (· ≠ 0)

def lastLooked (usage : GuestQuotaUsage) : Int := usage.lastAccruedAt.getD usage.periodStart

def accrueFrom (usage : GuestQuotaUsage) : ConnectedSince → Int
  | .since started => max (lastLooked usage) started
  | _ => lastLooked usage

def elapsedMinutes (accrueFrom now : Int) : Nat := ((now - accrueFrom) / MINUTE).toNat

def accrue (connected : ConnectedSince) (now : Int) (usage : GuestQuotaUsage) : GuestQuotaUsage :=
  let elapsed := elapsedMinutes (accrueFrom usage connected) now
  if 0 < elapsed then
    { usage with minutesUsed := usage.minutesUsed + elapsed, lastAccruedAt := some now }
  else usage

def violatedPeriod (limits : QuotaPeriodType → Option Nat)
    (usages : QuotaPeriodType → GuestQuotaUsage) : Option QuotaPeriodType :=
  QuotaPeriodType.all.find? fun period =>
    (limits period).any fun limit => isFupUsageExceeded (usages period).minutesUsed limit

def timeQuotaExceeded (period : QuotaPeriodType) : Text :=
  "fup_time_quota_exceeded_".toList ++ period.value

def expireOverLimit (period : QuotaPeriodType) (now : Int) (row : VenueSession) : VenueSession :=
  let update := Update.ending {} .expired now (some (timeQuotaExceeded period))
  { row with session := updateSession row.session update }

section Sweep

variable (computePeriodStart : QuotaPeriodType → Int → Int)

def currentUsage (books : Books) (now : Int) (period : QuotaPeriodType) : GuestQuotaUsage :=
  getOrResetQuotaUsages computePeriodStart books.quotas now period

/-- What the sweep does when it comes to a guest that is online at some locations. -/
def accrueGuest (answers : Answers) (locationIds : List Nat) (now : Int) (books : Books) : Books :=
  let limits := strictest answers.timeLimitMinutes locationIds
  if !hasTimeLimit limits then books
  else
    let connected := connectedSince answers books
    if connected = .skip then books
    else
      let usages period := accrue connected now (currentUsage computePeriodStart books now period)
      let quotas : Quotas := fun period => some (usages period)
      match violatedPeriod limits usages with
      | none => { books with quotas }
      | some period =>
          { sessions := books.sessions.map fun row =>
              if row.isActive then expireOverLimit period now row else row
            quotas }

theorem accrueGuest_sessions (answers : Answers) (locationIds : List Nat) (now : Int)
    (books : Books)
    (limited : hasTimeLimit (strictest answers.timeLimitMinutes locationIds) = true)
    (looked : connectedSince answers books ≠ .skip) :
    (accrueGuest computePeriodStart answers locationIds now books).sessions =
      match violatedPeriod (strictest answers.timeLimitMinutes locationIds) (fun period =>
        accrue (connectedSince answers books) now
          (currentUsage computePeriodStart books now period)) with
      | none => books.sessions
      | some period => books.sessions.map fun row =>
          if row.isActive then expireOverLimit period now row else row := by
  unfold accrueGuest
  simp only [limited, Bool.not_true, Bool.false_eq_true, if_false, if_neg looked]
  split <;> rfl

end Sweep

theorem expired_inactive (period : QuotaPeriodType) (now : Int) (sessions : List VenueSession) :
    (sessions.map fun row => if row.isActive then expireOverLimit period now row else row).filter
      VenueSession.isActive = [] := by
  rw [List.filter_eq_nil_iff]
  intro row member
  obtain ⟨before, -, rfl⟩ := List.mem_map.mp member
  split
  · simp [VenueSession.isActive, GuestSession.isActive, expireOverLimit, updateSession,
      Update.ending]
  · assumption

theorem find_full (limits : QuotaPeriodType → Option Nat) (full : QuotaPeriodType → Nat → Bool) :
    (QuotaPeriodType.all.find? fun period => (limits period).any (full period)) = none ↔
      ¬∃ period limit, limits period = some limit ∧ full period limit = true := by
  rw [List.find?_eq_none]
  constructor
  · rintro none ⟨period, limit, given, reached⟩
    exact none period period.mem_all ((Option.any_eq_true _ _).mpr ⟨limit, given, reached⟩)
  · intro none period _ found
    obtain ⟨limit, given, reached⟩ := (Option.any_eq_true _ _).mp found
    exact none ⟨period, limit, given, reached⟩

/-! ### The sweep over all guests -/

structure ActiveGuestOrgPair where
  guestId : Nat
  organizationId : Nat
  locationId : Nat
  deriving DecidableEq

def activePairs (guest : Nat) (books : Books) : List ActiveGuestOrgPair :=
  firstSeen (books.activeSessions.map fun row => ⟨guest, row.organizationId, row.locationId⟩)

def listActiveGuestOrgPairs (guests : List Nat) (books : Nat → Books) : List ActiveGuestOrgPair :=
  -- One pair for each place where a guest is online, in an order that the query leaves open.
  guests.flatMap fun guest => activePairs guest (books guest)

def locationsByGuest (pairs : List ActiveGuestOrgPair) :
    List ((Nat × Nat) × List ActiveGuestOrgPair) :=
  groups (fun pair => (pair.guestId, pair.organizationId)) pairs

section Sweep

variable (computePeriodStart : Nat → QuotaPeriodType → Int → Int) (answers : Nat → Nat → Answers)
  (now : Int)

def accrueGroup (books : Nat → Books) (group : (Nat × Nat) × List ActiveGuestOrgPair) :
    Nat → Books :=
  -- The period starts are the organization's, the answers the guest's in it.
  Function.update books group.1.1
    (accrueGuest (computePeriodStart group.1.2) (answers group.1.1 group.1.2)
      (group.2.map ActiveGuestOrgPair.locationId) now (books group.1.1))

/-- The pairs are those listed at the start. -/
def runFupTimeAccrual (pairs : List ActiveGuestOrgPair) (books : Nat → Books) : Nat → Books :=
  (locationsByGuest pairs).foldl (accrueGroup computePeriodStart answers now) books

theorem sweep_others (guest : Nat) (groups : List ((Nat × Nat) × List ActiveGuestOrgPair))
    (books : Nat → Books) (others : ∀ group ∈ groups, group.1.1 ≠ guest) :
    groups.foldl (accrueGroup computePeriodStart answers now) books guest = books guest := by
  induction groups generalizing books with
  | nil => rfl
  | cons group rest ih =>
      have different : guest ≠ group.1.1 := (others group List.mem_cons_self).symm
      rw [List.foldl_cons, ih _ fun later member => others later (List.mem_cons_of_mem _ member),
        accrueGroup, Function.update_of_ne different]

theorem mem_locationsByGuest {pairs members : List ActiveGuestOrgPair} {guest organization : Nat} :
    ((guest, organization), members) ∈ locationsByGuest pairs ↔
      members = pairs.filter (fun pair => (pair.guestId, pair.organizationId) =
        (guest, organization)) ∧ members ≠ [] :=
  mem_groups _ pairs _ _

theorem group_listed {pairs members : List ActiveGuestOrgPair} {guest organization : Nat}
    (group : ((guest, organization), members) ∈ locationsByGuest pairs) :
    ∃ pair ∈ pairs, pair.guestId = guest ∧ pair.organizationId = organization := by
  obtain ⟨rfl, nonempty⟩ := mem_locationsByGuest.mp group
  obtain ⟨pair, found⟩ := List.exists_mem_of_ne_nil _ nonempty
  obtain ⟨member, key⟩ := List.mem_filter.mp found
  exact ⟨pair, member, Prod.mk.inj (of_decide_eq_true key)⟩

theorem sweep_grouped (pairs : List ActiveGuestOrgPair) (books : Nat → Books)
    (guest organization : Nat) (online : ∃ pair ∈ pairs, pair.guestId = guest)
    (own : ∀ pair ∈ pairs, pair.guestId = guest → pair.organizationId = organization) :
    runFupTimeAccrual computePeriodStart answers now pairs books guest =
      accrueGuest (computePeriodStart organization) (answers guest organization)
        ((pairs.filter fun pair => pair.guestId = guest).map ActiveGuestOrgPair.locationId) now
        (books guest) := by
  have members : (pairs.filter fun pair => pair.guestId = guest) =
      pairs.filter fun pair => (pair.guestId, pair.organizationId) = (guest, organization) := by
    refine List.filter_congr ?_
    intro pair member
    by_cases same : pair.guestId = guest
    · simp [same, own pair member same]
    · simp [same]
  have present : ((guest, organization), pairs.filter fun pair => pair.guestId = guest) ∈
      locationsByGuest pairs := by
    refine mem_locationsByGuest.mpr ⟨members, ?_⟩
    obtain ⟨pair, member, same⟩ := online
    exact List.ne_nil_of_mem (List.mem_filter.mpr ⟨member, decide_eq_true same⟩)
  obtain ⟨before, after, split⟩ := List.append_of_mem present
  -- Another group of the guest would be of its organization, and so the same.
  have others : ∀ group ∈ before ++ after, group.1.1 ≠ guest := by
    rintro ⟨⟨other, itsOrganization⟩, held⟩ member same
    have listed : ((other, itsOrganization), held) ∈ locationsByGuest pairs := by
      rw [split]
      rcases List.mem_append.mp member with early | late
      · exact List.mem_append_left _ early
      · exact List.mem_append_right _ (List.mem_cons_of_mem _ late)
    obtain ⟨pair, inPairs, rfl, rfl⟩ := group_listed listed
    exact keys_apart split member (Prod.ext same (own pair inPairs same))
  rw [runFupTimeAccrual, split, List.foldl_append, List.foldl_cons,
    sweep_others _ _ _ _ _ _ fun group member => others group (List.mem_append_right _ member),
    accrueGroup, Function.update_self,
    sweep_others _ _ _ _ _ _ fun group member => others group (List.mem_append_left _ member)]

theorem mem_listed {guests : List Nat} {books : Nat → Books} {pair : ActiveGuestOrgPair} :
    pair ∈ listActiveGuestOrgPairs guests books ↔ pair.guestId ∈ guests ∧
      ∃ row ∈ (books pair.guestId).activeSessions, row.organizationId = pair.organizationId ∧
        row.locationId = pair.locationId := by
  simp only [listActiveGuestOrgPairs, activePairs, List.mem_flatMap, mem_firstSeen, List.mem_map]
  constructor
  · rintro ⟨guest, listed, row, online, rfl⟩
    exact ⟨listed, row, online, rfl, rfl⟩
  · rintro ⟨listed, row, online, organization, location⟩
    exact ⟨pair.guestId, listed, row, online, by rw [organization, location]⟩

/-- A guest with sessions at several locations of its organization is charged once for all, in whatever
order they are listed. -/
theorem sweep_once {guests : List Nat} {books : Nat → Books} {pairs : List ActiveGuestOrgPair}
    (listing : pairs.Perm (listActiveGuestOrgPairs guests books))
    {guest organization : Nat} (listed : guest ∈ guests) (online : (books guest).activeSessions ≠ [])
    (own : ∀ row ∈ (books guest).activeSessions, row.organizationId = organization) :
    runFupTimeAccrual computePeriodStart answers now pairs books guest =
      accrueGuest (computePeriodStart organization) (answers guest organization)
        ((pairs.filter fun pair => pair.guestId = guest).map ActiveGuestOrgPair.locationId) now
        (books guest) := by
  apply sweep_grouped
  · obtain ⟨row, active⟩ := List.exists_mem_of_ne_nil _ online
    exact ⟨⟨guest, row.organizationId, row.locationId⟩,
      listing.mem_iff.mpr (mem_listed.mpr ⟨listed, row, active, rfl, rfl⟩), rfl⟩
  · intro pair member same
    obtain ⟨-, row, active, organization, -⟩ := mem_listed.mp (listing.mem_iff.mp member)
    exact organization.symm.trans (own row (same ▸ active))

theorem sweep_offline {guests : List Nat} {books : Nat → Books} {pairs : List ActiveGuestOrgPair}
    (listing : pairs.Perm (listActiveGuestOrgPairs guests books))
    {guest : Nat} (offline : (books guest).activeSessions = []) :
    runFupTimeAccrual computePeriodStart answers now pairs books guest = books guest := by
  apply sweep_others
  rintro ⟨⟨other, organization⟩, members⟩ group same
  obtain ⟨pair, member, rfl, -⟩ := group_listed group
  obtain ⟨-, row, active, -⟩ := mem_listed.mp (listing.mem_iff.mp member)
  dsimp only at same
  rw [same, offline] at active
  exact List.not_mem_nil active

end Sweep

end CloudGuest.Guest.TimeAccrual
