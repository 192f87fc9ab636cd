import CloudGuest.Guest.TimeAccrual
import CloudGuest.Library.Runs

/-!
What the usage rows of a guest count over a history of its sessions. The instants at
which it has an ACTIVE session are kept beside the books, and those a sweep could see;
a row is compared with both.
-/

namespace CloudGuest.Guest.TimeAccrual

open TimeoutSweep Runs

/-! ### Histories of a guest -/

/-- What a guest's history has shown: the instants with an ACTIVE session, and for each period
those a sweep saw in the current one and how many sweeps looked. -/
structure Watch where
  connected : Finset Int
  observed : QuotaPeriodType → Finset Int
  sweeps : QuotaPeriodType → Nat

structure World where
  books : Books
  clock : Int
  watch : Watch

/-- What happens to a guest: its sessions become others, whoever starts or ends them; a sweep
comes to it; a row of it is read, or all are reset by the other sweep. -/
inductive Action where
  | change (sessions : List VenueSession)
  | accrue (answers : Answers) (locationIds : List Nat)
  | read (periods : List QuotaPeriodType)
  | resetSweep

variable (computePeriodStart : QuotaPeriodType → Int → Int)

def readQuotas (quotas : Quotas) (periods : List QuotaPeriodType) (now : Int) : Quotas :=
  fun period =>
    if period ∈ periods then some (getOrResetQuotaUsages computePeriodStart quotas now period)
    else quotas period

def runQuotaReset (quotas : Quotas) (now : Int) : Quotas := fun period =>
  (quotas period).map fun usage =>
    getOrResetQuotaUsage (some usage) (computePeriodStart period now)

def Action.apply (now : Int) (books : Books) : Action → Books
  | .change sessions => { books with sessions }
  | .accrue answers locationIds =>
      accrueGuest computePeriodStart answers locationIds now books
  | .read periods => { books with quotas := readQuotas computePeriodStart books.quotas periods now }
  | .resetSweep => { books with quotas := runQuotaReset computePeriodStart books.quotas now }

noncomputable def connectedUntil (world : World) (now : Int) : Finset Int :=
  if world.books.activeSessions = [] then world.watch.connected
  else world.watch.connected ∪ Finset.Ico world.clock now

def isCharged (answers : Answers) (locationIds : List Nat) (books : Books) : Bool :=
  hasTimeLimit (strictest answers.timeLimitMinutes locationIds) &&
    connectedSince answers books ≠ .skip

/-- The instants a sweep can see to be connected: since the last look, and since the earliest
start of the sessions that are ACTIVE. -/
def seenBy (connected : Finset Int) (books : Books) (usage : GuestQuotaUsage) (now : Int) :
    Finset Int :=
  match earliestStart books.activeSessions with
  | none => ∅
  | some started =>
      connected.filter fun instant => max (lastLooked usage) started ≤ instant ∧ instant < now

def isRenewed (before after : Option GuestQuotaUsage) : Bool :=
  -- A row of a new period starts without anything observed.
  before.map GuestQuotaUsage.periodStart ≠ after.map GuestQuotaUsage.periodStart

def keptObservations (world : World) (after : Quotas) (period : QuotaPeriodType) :
    Finset Int × Nat :=
  if isRenewed (world.books.quotas period) (after period) then (∅, 0)
  else (world.watch.observed period, world.watch.sweeps period)

noncomputable def Action.watched (world : World) (now : Int) (action : Action) : Watch :=
  let connected := connectedUntil world now
  let kept := keptObservations world (action.apply computePeriodStart now world.books).quotas
  let quiet : Watch := ⟨connected, fun period => (kept period).1, fun period => (kept period).2⟩
  match action with
  | .accrue answers locationIds =>
      if isCharged answers locationIds world.books then
        { quiet with
          observed := fun period => (kept period).1 ∪ seenBy connected world.books
            (currentUsage computePeriodStart world.books now period) now
          sweeps := fun period => (kept period).2 + 1 }
      else quiet
  | _ => quiet

noncomputable def step (world : World) (happens : Int × Action) : Option World :=
  if world.clock ≤ happens.1 then
    some { books := happens.2.apply computePeriodStart happens.1 world.books
           clock := happens.1
           watch := happens.2.watched computePeriodStart world happens.1 }
  else none

structure World.Fresh (world : World) : Prop where
  noRows : ∀ period, world.books.quotas period = none
  unobserved : ∀ period, world.watch.observed period = ∅ ∧ world.watch.sweeps period = 0

/-- Where a sweep charges minutes, the time without a session since that from which they are
counted is no more than what is rounded away. -/
def Unbroken (world : World) (happens : Int × Action) : Prop :=
  ∀ answers locationIds, happens.2 = .accrue answers locationIds →
    isCharged answers locationIds world.books = true → ∀ period,
      let counted := accrueFrom (currentUsage computePeriodStart world.books happens.1 period)
        (connectedSince answers world.books)
      0 < elapsedMinutes counted happens.1 →
        ((Finset.Ico counted happens.1 \ connectedUntil world happens.1).card : Int) ≤
          (happens.1 - counted) % MINUTE

/-! ### What a row counts -/

section Rows

variable (period : QuotaPeriodType)

/-- The minutes of a row are minutes of connection in its period, up to the last look; and that
was in the period. -/
structure Charged (connected : Finset Int) (clock : Int) (usage : GuestQuotaUsage) : Prop where
  ordered : usage.periodStart ≤ lastLooked usage
  connected : usage.minutesUsed * MINUTE ≤ ((connected.filter fun instant =>
    usage.periodStart ≤ instant ∧ instant < lastLooked usage).card : Int)
  looked : ∀ last, usage.lastAccruedAt = some last →
    last ≤ clock ∧ computePeriodStart period last ≤ usage.periodStart

/-- What the sweeps saw connected is in the row but for less than a minute each. -/
structure Seen (connected observed : Finset Int) (sweeps : Nat) (usage : GuestQuotaUsage) :
    Prop where
  within : observed ⊆ connected.filter fun instant => usage.periodStart ≤ instant
  short : (observed.card : Int) ≤ usage.minutesUsed * MINUTE + sweeps * (MINUTE - 1)

variable {connected more : Finset Int} {clock now : Int} {usage : GuestQuotaUsage}

theorem Charged.later (charged : Charged computePeriodStart period connected clock usage)
    (subset : connected ⊆ more) (passed : clock ≤ now) :
    Charged computePeriodStart period more now usage := by
  refine ⟨charged.ordered, ?_, ?_⟩
  · have grown := Finset.card_le_card (Finset.filter_subset_filter (fun instant =>
      usage.periodStart ≤ instant ∧ instant < lastLooked usage) subset)
    have counted := charged.connected
    omega
  · intro last looked
    obtain ⟨before, inPeriod⟩ := charged.looked last looked
    exact ⟨before.trans passed, inPeriod⟩

theorem Seen.later {observed : Finset Int} {sweeps : Nat}
    (seen : Seen connected observed sweeps usage) (subset : connected ⊆ more) :
    Seen more observed sweeps usage :=
  ⟨seen.within.trans (Finset.filter_subset_filter _ subset), seen.short⟩

theorem seen_nothing : Seen connected ∅ 0 usage := by
  refine ⟨Finset.empty_subset _, ?_⟩
  simp only [Finset.card_empty, MINUTE]
  omega

theorem charged_fresh (start : Int) :
    Charged computePeriodStart period connected clock ⟨start, 0, 0, none⟩ := by
  refine ⟨le_refl start, by simp, ?_⟩
  intro last looked
  cases looked

theorem charged_current (row : Option GuestQuotaUsage) (start : Int)
    (charged : ∀ usage, row = some usage →
      Charged computePeriodStart period connected clock usage) :
    Charged computePeriodStart period connected clock (getOrResetQuotaUsage row start) := by
  cases row with
  | none => exact charged_fresh computePeriodStart period start
  | some usage =>
      unfold getOrResetQuotaUsage
      dsimp only
      split
      · exact charged_fresh computePeriodStart period start
      · exact charged usage rfl

theorem elapsed_before (accrueFrom now : Int) (charges : 0 < elapsedMinutes accrueFrom now) :
    accrueFrom ≤ now := by
  simp only [elapsedMinutes, MINUTE] at charges
  omega

theorem elapsed_rest (accrueFrom now : Int) :
    now - accrueFrom ≤ elapsedMinutes accrueFrom now * MINUTE + (MINUTE - 1) := by
  simp only [elapsedMinutes, MINUTE]
  omega

theorem lastLooked_le (usage : GuestQuotaUsage) (since : ConnectedSince) :
    lastLooked usage ≤ accrueFrom usage since := by
  cases since with
  | unknown => exact le_refl _
  | since startedAt => exact le_max_left _ _
  | skip => exact le_refl _

@[simp] theorem accrue_periodStart (since : ConnectedSince) (now : Int) (usage : GuestQuotaUsage) :
    (accrue since now usage).periodStart = usage.periodStart := by
  unfold accrue
  dsimp only
  split <;> rfl

theorem accrue_minutes (since : ConnectedSince) (now : Int) (usage : GuestQuotaUsage) :
    (accrue since now usage).minutesUsed =
      usage.minutesUsed + elapsedMinutes (accrueFrom usage since) now := by
  unfold accrue
  dsimp only
  split
  · rfl
  · omega

theorem connected_minutes (accrueFrom now : Int) (before : accrueFrom ≤ now)
    (gaps : ((Finset.Ico accrueFrom now \ connected).card : Int) ≤ (now - accrueFrom) % MINUTE) :
    elapsedMinutes accrueFrom now * MINUTE ≤
      ((Finset.Ico accrueFrom now ∩ connected).card : Int) := by
  have parts := Finset.card_sdiff_add_card_inter (Finset.Ico accrueFrom now) connected
  rw [Int.card_Ico] at parts
  simp only [elapsedMinutes, MINUTE] at *
  omega

theorem charged_accrue (since : ConnectedSince)
    (charged : Charged computePeriodStart period connected now usage)
    (current : computePeriodStart period now ≤ usage.periodStart)
    (unbroken : 0 < elapsedMinutes (accrueFrom usage since) now →
      ((Finset.Ico (accrueFrom usage since) now \ connected).card : Int) ≤
        (now - accrueFrom usage since) % MINUTE) :
    Charged computePeriodStart period connected now (accrue since now usage) := by
  by_cases charges : 0 < elapsedMinutes (accrueFrom usage since) now
  · have before := elapsed_before _ _ charges
    have after := lastLooked_le usage since
    have ordered := charged.ordered
    have looked : lastLooked (accrue since now usage) = now := by
      simp [accrue, charges, lastLooked]
    refine ⟨?_, ?_, ?_⟩
    · rw [looked, accrue_periodStart]
      omega
    · rw [looked, accrue_periodStart, accrue_minutes]
      -- What was charged lies before where this sweep counts from: nothing is counted twice.
      have disjoint : Disjoint
          (connected.filter fun instant => usage.periodStart ≤ instant ∧ instant < lastLooked usage)
          (Finset.Ico (accrueFrom usage since) now ∩ connected) := by
        rw [Finset.disjoint_left]
        intro instant early late
        have first := (Finset.mem_filter.mp early).2.2
        have second := (Finset.mem_Ico.mp (Finset.mem_inter.mp late).1).1
        omega
      have subset :
          (connected.filter fun instant =>
              usage.periodStart ≤ instant ∧ instant < lastLooked usage) ∪
            (Finset.Ico (accrueFrom usage since) now ∩ connected) ⊆
          connected.filter fun instant => usage.periodStart ≤ instant ∧ instant < now := by
        intro instant member
        rcases Finset.mem_union.mp member with early | late
        · obtain ⟨was, start, stop⟩ := Finset.mem_filter.mp early
          exact Finset.mem_filter.mpr ⟨was, start, by omega⟩
        · obtain ⟨inside, was⟩ := Finset.mem_inter.mp late
          obtain ⟨start, stop⟩ := Finset.mem_Ico.mp inside
          exact Finset.mem_filter.mpr ⟨was, by omega, stop⟩
      have counted := Finset.card_le_card subset
      rw [Finset.card_union_of_disjoint disjoint] at counted
      -- Only whole minutes are charged, and what was not connected fits into the rest.
      have whole := connected_minutes (accrueFrom usage since) now before (unbroken charges)
      have earlier := charged.connected
      have split : ((usage.minutesUsed + elapsedMinutes (accrueFrom usage since) now : Nat) : Int) *
          MINUTE = usage.minutesUsed * MINUTE +
            elapsedMinutes (accrueFrom usage since) now * MINUTE := by
        rw [Nat.cast_add, add_mul]
      rw [split]
      omega
    · intro last told
      have same : now = last := by simpa [accrue, charges] using told
      rw [← same, accrue_periodStart]
      exact ⟨le_refl now, current⟩
  · have unchanged : accrue since now usage = usage := by simp [accrue, charges]
    rw [unchanged]
    exact charged

theorem connectedSince_earliest (answers : Answers) (books : Books) (started : Int)
    (told : connectedSince answers books = .since started) :
    earliestStart books.activeSessions = some started := by
  unfold connectedSince nasOnlyConnectedSince at told
  split at told
  · cases told
  · split at told
    · split at told <;> cases told
    · rename_i first earliest
      dsimp only at told
      split at told
      · cases told
      · split at told
        · cases told
        · rw [earliest, ConnectedSince.since.inj told]

theorem seenBy_card (answers : Answers) (books : Books) :
    ((seenBy connected books usage now).card : Int) ≤
      elapsedMinutes (accrueFrom usage (connectedSince answers books)) now * MINUTE +
        (MINUTE - 1) := by
  unfold seenBy
  cases earliest : earliestStart books.activeSessions with
  | none =>
      simp only [Finset.card_empty, MINUTE]
      omega
  | some started =>
      -- Whatever the lookups answer, the earliest open session is not before the count.
      have counts : accrueFrom usage (connectedSince answers books) ≤
          max (lastLooked usage) started := by
        cases told : connectedSince answers books with
        | unknown => exact le_max_left _ _
        | skip => exact le_max_left _ _
        | since other =>
            have same := connectedSince_earliest answers books other told
            rw [earliest] at same
            rw [Option.some.inj same]
            exact le_refl _
      have subset : (connected.filter fun instant =>
          max (lastLooked usage) started ≤ instant ∧ instant < now) ⊆
            Finset.Ico (accrueFrom usage (connectedSince answers books)) now := by
        intro instant member
        obtain ⟨-, start, stop⟩ := Finset.mem_filter.mp member
        exact Finset.mem_Ico.mpr ⟨counts.trans start, stop⟩
      have counted := Finset.card_le_card subset
      rw [Int.card_Ico] at counted
      have rest := elapsed_rest (accrueFrom usage (connectedSince answers books)) now
      dsimp only
      simp only [MINUTE] at rest ⊢
      omega

theorem seen_accrue {observed : Finset Int} {sweeps : Nat} (answers : Answers) (books : Books)
    (ordered : usage.periodStart ≤ lastLooked usage)
    (seen : Seen connected observed sweeps usage) :
    Seen connected (observed ∪ seenBy connected books usage now) (sweeps + 1)
      (accrue (connectedSince answers books) now usage) := by
  constructor
  · rw [accrue_periodStart]
    refine Finset.union_subset seen.within ?_
    intro instant member
    unfold seenBy at member
    cases earliest : earliestStart books.activeSessions with
    | none => simp [earliest] at member
    | some started =>
        simp only [earliest, Finset.mem_filter] at member
        obtain ⟨was, start, -⟩ := member
        exact Finset.mem_filter.mpr ⟨was, ordered.trans ((le_max_left _ _).trans start)⟩
  · have looked : ((seenBy connected books usage now).card : Int) ≤
        elapsedMinutes (accrueFrom usage (connectedSince answers books)) now * MINUTE +
          (MINUTE - 1) := seenBy_card answers books
    have together := Finset.card_union_le observed (seenBy connected books usage now)
    have short := seen.short
    rw [accrue_minutes, Nat.cast_add, Nat.cast_add, add_mul, add_mul]
    simp only [MINUTE] at *
    omega

end Rows

/-! ### Runs -/

section Runs

/-- Every row counts connected time, and misses little of what was seen. -/
structure Accounted (world : World) : Prop where
  charged : ∀ period usage, world.books.quotas period = some usage →
    Charged computePeriodStart period world.watch.connected world.clock usage
  seen : ∀ period usage, world.books.quotas period = some usage →
    Seen world.watch.connected (world.watch.observed period) (world.watch.sweeps period) usage

/-- Whoever's minutes reach a limit in a sweep has no ACTIVE session after it; those there were are
written as ended by it. -/
def Cut (before : World) (happens : Int × Action) (after : World) : Prop :=
  ∀ answers locationIds, happens.2 = .accrue answers locationIds →
    ∀ period limit, strictest answers.timeLimitMinutes locationIds period = some limit →
      (currentUsage computePeriodStart before.books happens.1 period).minutesUsed < limit →
      limit ≤ (currentUsage computePeriodStart after.books happens.1 period).minutesUsed →
        after.books.activeSessions = [] ∧ ∃ reached, ∀ row ∈ before.books.activeSessions,
          expireOverLimit reached happens.1 row ∈ after.books.sessions

theorem connectedUntil_grows (world : World) (now : Int) :
    world.watch.connected ⊆ connectedUntil world now := by
  unfold connectedUntil
  split
  · exact Finset.Subset.refl _
  · exact Finset.subset_union_left

/-- The row of a period after an action that charges nothing: as it was, or read. -/
def Carried (before after : Quotas) (now : Int) (period : QuotaPeriodType) : Prop :=
  after period = before period ∨
    after period = some (getOrResetQuotaUsages computePeriodStart before now period)

theorem carried_read (quotas : Quotas) (periods : List QuotaPeriodType) (now : Int)
    (period : QuotaPeriodType) :
    Carried computePeriodStart quotas (readQuotas computePeriodStart quotas periods now) now
      period := by
  unfold readQuotas Carried
  dsimp only
  split
  · exact Or.inr rfl
  · exact Or.inl rfl

theorem carried_reset (quotas : Quotas) (now : Int) (period : QuotaPeriodType) :
    Carried computePeriodStart quotas (runQuotaReset computePeriodStart quotas now) now period := by
  unfold runQuotaReset Carried getOrResetQuotaUsages
  cases found : quotas period with
  | none => exact Or.inl (by simp [found])
  | some usage => exact Or.inr (by simp [found])

theorem current_kept (row : Option GuestQuotaUsage) (start : Int) (usage : GuestQuotaUsage)
    (same : usage.periodStart = (getOrResetQuotaUsage row start).periodStart)
    (kept : isRenewed row (some usage) = false) :
    row = some (getOrResetQuotaUsage row start) := by
  cases row with
  | none => simp [isRenewed] at kept
  | some found =>
      simp only [isRenewed, Option.map_some, ne_eq, Option.some.injEq, decide_not,
        Bool.not_eq_false', decide_eq_true_eq] at kept
      unfold getOrResetQuotaUsage at same ⊢
      dsimp only at same ⊢
      split
      · rename_i older
        rw [if_pos older] at same
        dsimp only at same
        omega
      · rfl

variable {computePeriodStart} {world : World} {now : Int}

theorem Accounted.carried (accounted : Accounted computePeriodStart world)
    (passed : world.clock ≤ now) {after : Quotas} {period : QuotaPeriodType}
    (carried : Carried computePeriodStart world.books.quotas after now period)
    {usage : GuestQuotaUsage} (found : after period = some usage) :
    Charged computePeriodStart period (connectedUntil world now) now usage ∧
      Seen (connectedUntil world now) (keptObservations world after period).1
        (keptObservations world after period).2 usage := by
  have grows := connectedUntil_grows world now
  have unchanged : world.books.quotas period = some usage →
      Seen (connectedUntil world now) (keptObservations world after period).1
        (keptObservations world after period).2 usage := by
    intro before
    have kept : isRenewed (world.books.quotas period) (after period) = false := by
      simp [isRenewed, before, found]
    simp only [keptObservations, kept, Bool.false_eq_true, ↓reduceIte]
    exact (accounted.seen period usage before).later grows
  -- A row stays or is read again, and only a new period lets go of what was seen.
  rcases carried with same | read
  · have before : world.books.quotas period = some usage := same ▸ found
    exact ⟨(accounted.charged period usage before).later _ _ grows passed, unchanged before⟩
  · obtain rfl := Option.some.inj (read.symm.trans found)
    constructor
    · refine charged_current _ _ _ _ ?_
      intro earlier before
      exact (accounted.charged period earlier before).later _ _ grows passed
    · cases renewed : isRenewed (world.books.quotas period) (after period) with
      | true =>
          simp only [keptObservations, renewed, ↓reduceIte]
          exact seen_nothing
      | false =>
          rw [found] at renewed
          exact unchanged (current_kept _ _ _ rfl renewed)

theorem accrueGuest_uncharged (answers : Answers) (locationIds : List Nat) (books : Books)
    (uncharged : isCharged answers locationIds books = false) :
    accrueGuest computePeriodStart answers locationIds now books = books := by
  unfold isCharged at uncharged
  unfold accrueGuest
  dsimp only
  cases limited : hasTimeLimit (strictest answers.timeLimitMinutes locationIds) with
  | false => rfl
  | true =>
      rw [limited, Bool.true_and, decide_eq_false_iff_not, not_not] at uncharged
      simp [uncharged]

theorem accrueGuest_quotas (answers : Answers) (locationIds : List Nat) (books : Books)
    (charged : isCharged answers locationIds books = true) (period : QuotaPeriodType) :
    (accrueGuest computePeriodStart answers locationIds now books).quotas period =
      some (accrue (connectedSince answers books) now
        (currentUsage computePeriodStart books now period)) := by
  obtain ⟨limited, looked⟩ := Bool.and_eq_true_iff.mp charged
  have unskipped : connectedSince answers books ≠ .skip := of_decide_eq_true looked
  unfold accrueGuest
  simp only [limited, Bool.not_true, Bool.false_eq_true, ↓reduceIte, unskipped]
  split <;> rfl

theorem current_start (books : Books) (period : QuotaPeriodType) :
    computePeriodStart period now ≤
      (currentUsage computePeriodStart books now period).periodStart :=
  not_lt.mp (getOrReset_idem (books.quotas period) (computePeriodStart period now))

theorem accounted_accrue (accounted : Accounted computePeriodStart world)
    (passed : world.clock ≤ now) (answers : Answers) (locationIds : List Nat)
    (charged : isCharged answers locationIds world.books = true)
    (unbroken : Unbroken computePeriodStart world (now, .accrue answers locationIds)) :
    Accounted computePeriodStart
      { books := accrueGuest computePeriodStart answers locationIds now world.books
        clock := now
        watch := (Action.accrue answers locationIds).watched computePeriodStart world now } := by
  -- The sweep reads a row and then charges it; both are known of any row.
  have each : ∀ period usage,
      (accrueGuest computePeriodStart answers locationIds now world.books).quotas period =
        some usage →
      Charged computePeriodStart period (connectedUntil world now) now usage ∧
        Seen (connectedUntil world now)
          ((keptObservations world (accrueGuest computePeriodStart answers locationIds now
            world.books).quotas period).1 ∪ seenBy (connectedUntil world now) world.books
              (currentUsage computePeriodStart world.books now period) now)
          ((keptObservations world (accrueGuest computePeriodStart answers locationIds now
            world.books).quotas period).2 + 1) usage := by
    intro period usage found
    have rows : (accrueGuest computePeriodStart answers locationIds now world.books).quotas period =
        some (accrue (connectedSince answers world.books) now
          (currentUsage computePeriodStart world.books now period)) :=
      accrueGuest_quotas answers locationIds world.books charged period
    obtain rfl := Option.some.inj (rows.symm.trans found)
    have read : Carried computePeriodStart world.books.quotas
        (fun _ => some (currentUsage computePeriodStart world.books now period)) now period :=
      Or.inr rfl
    obtain ⟨counted, seen⟩ := accounted.carried passed read rfl
    have same : keptObservations world (accrueGuest computePeriodStart answers locationIds now
        world.books).quotas period = keptObservations world
          (fun _ => some (currentUsage computePeriodStart world.books now period)) period := by
      simp [keptObservations, isRenewed, rows]
    rw [same]
    constructor
    · exact charged_accrue _ _ _ counted (current_start world.books period)
        (unbroken answers locationIds rfl charged period)
    · exact seen_accrue answers world.books counted.ordered seen
  constructor
  · intro period usage found
    simp only [Action.watched, charged, ↓reduceIte]
    exact (each period usage found).1
  · intro period usage found
    simp only [Action.watched, charged, ↓reduceIte]
    exact (each period usage found).2

theorem accounted_carried (accounted : Accounted computePeriodStart world)
    (passed : world.clock ≤ now) (action : Action)
    (carried : ∀ period, Carried computePeriodStart world.books.quotas
      (action.apply computePeriodStart now world.books).quotas now period)
    (quiet : action.watched computePeriodStart world now =
      ⟨connectedUntil world now,
        fun period => (keptObservations world
          (action.apply computePeriodStart now world.books).quotas period).1,
        fun period => (keptObservations world
          (action.apply computePeriodStart now world.books).quotas period).2⟩) :
    Accounted computePeriodStart
      { books := action.apply computePeriodStart now world.books
        clock := now
        watch := action.watched computePeriodStart world now } := by
  rw [quiet]
  constructor
  · intro period usage found
    exact (accounted.carried passed (carried period) found).1
  · intro period usage found
    exact (accounted.carried passed (carried period) found).2

theorem accounted_step (happens : Int × Action) (next : World)
    (accounted : Accounted computePeriodStart world)
    (unbroken : Unbroken computePeriodStart world happens)
    (stepped : step computePeriodStart world happens = some next) :
    Accounted computePeriodStart next := by
  obtain ⟨now, action⟩ := happens
  unfold step at stepped
  dsimp only at stepped
  split at stepped
  · rename_i passed
    obtain rfl := Option.some.inj stepped
    cases action with
    | change sessions =>
        exact accounted_carried accounted passed (.change sessions) (fun _ => Or.inl rfl) rfl
    | read periods =>
        exact accounted_carried accounted passed (.read periods) (carried_read _ _ _ _) rfl
    | resetSweep =>
        exact accounted_carried accounted passed .resetSweep (carried_reset _ _ _) rfl
    | accrue answers locationIds =>
        cases charged : isCharged answers locationIds world.books with
        | true => exact accounted_accrue accounted passed answers locationIds charged unbroken
        | false =>
            have same : (Action.accrue answers locationIds).apply computePeriodStart now
                world.books = world.books := accrueGuest_uncharged answers locationIds _ charged
            refine accounted_carried accounted passed _ (fun period => Or.inl ?_) ?_
            · rw [same]
            · simp [Action.watched, charged]
  · cases stepped

theorem accrue_cut (answers : Answers) (locationIds : List Nat) (books : Books)
    (period : QuotaPeriodType) (limit : Nat)
    (limited : strictest answers.timeLimitMinutes locationIds period = some limit)
    (below : (currentUsage computePeriodStart books now period).minutesUsed < limit)
    (reached : limit ≤ (currentUsage computePeriodStart
      (accrueGuest computePeriodStart answers locationIds now books) now period).minutesUsed) :
    (accrueGuest computePeriodStart answers locationIds now books).activeSessions = [] ∧
      ∃ violated, ∀ row ∈ books.activeSessions, expireOverLimit violated now row ∈
        (accrueGuest computePeriodStart answers locationIds now books).sessions := by
  cases charged : isCharged answers locationIds books with
  | false =>
      rw [accrueGuest_uncharged answers locationIds books charged] at reached
      omega
  | true =>
      obtain ⟨anyLimit, looked⟩ := Bool.and_eq_true_iff.mp charged
      have unskipped : connectedSince answers books ≠ .skip := of_decide_eq_true looked
      have rows : (accrueGuest computePeriodStart answers locationIds now books).quotas period =
          some (accrue (connectedSince answers books) now
            (currentUsage computePeriodStart books now period)) :=
        accrueGuest_quotas answers locationIds books charged period
      have same : currentUsage computePeriodStart
          (accrueGuest computePeriodStart answers locationIds now books) now period =
          accrue (connectedSince answers books) now
            (currentUsage computePeriodStart books now period) := by
        have started : computePeriodStart period now ≤
            (currentUsage computePeriodStart books now period).periodStart :=
          current_start books period
        rw [currentUsage, getOrResetQuotaUsages, rows, getOrResetQuotaUsage]
        refine if_neg ?_
        rw [accrue_periodStart]
        omega
      rw [same] at reached
      -- The period reached is one the search for a violated one finds.
      have found : violatedPeriod (strictest answers.timeLimitMinutes locationIds)
          (fun period => accrue (connectedSince answers books) now
            (currentUsage computePeriodStart books now period)) ≠ none := by
        rw [violatedPeriod, ne_eq, find_full, not_not]
        exact ⟨period, limit, limited, decide_eq_true reached⟩
      obtain ⟨violated, isViolated⟩ := Option.ne_none_iff_exists'.mp found
      have swept := accrueGuest_sessions computePeriodStart answers locationIds now books anyLimit
        unskipped
      rw [isViolated] at swept
      constructor
      · rw [Books.activeSessions, swept]
        exact expired_inactive violated now books.sessions
      · refine ⟨violated, ?_⟩
        intro row member
        obtain ⟨stored, active⟩ := List.mem_filter.mp member
        rw [swept]
        exact List.mem_map.mpr ⟨row, stored, if_pos active⟩

/-- Where no sweep charges a gap, minutes are counted of connected time only and all that was seen
is counted; and whatever the history, a limit that is reached ends the guest's sessions. -/
theorem time_accrual_counts (start final : World) (fresh : start.Fresh)
    (reached : Reached (step computePeriodStart) (Unbroken computePeriodStart) start final) :
    Accounted computePeriodStart final ∧
      ∀ happens next, step computePeriodStart final happens = some next →
        Cut computePeriodStart final happens next := by
  constructor
  · refine reached.invariant (Accounted computePeriodStart) ?_ ?_
    · constructor
      · intro period usage found
        rw [fresh.noRows period] at found
        cases found
      · intro period usage found
        rw [fresh.noRows period] at found
        cases found
    · intro state happens next accounted unbroken stepped
      exact accounted_step happens next accounted unbroken stepped
  · rintro ⟨now, action⟩ next stepped answers locationIds accrues period limit limited below reaches
    obtain rfl : action = .accrue answers locationIds := accrues
    unfold step at stepped
    dsimp only at stepped
    split at stepped
    · obtain rfl := Option.some.inj stepped
      exact accrue_cut answers locationIds final.books period limit limited below reaches
    · cases stepped

end Runs

/-! ### The first sweep of a day -/

def midnight : QuotaPeriodType → Int → Int := fun _ _ => 0

/-- An hour a day at location 1, where no router is asked for. -/
def anHour : Answers :=
  ⟨fun _ period => if period = .daily then some 60 else none, none⟩

def begunAt (count : Nat) : VenueSession :=
  ⟨⟨1, 1, none, 1, .otpSms, none, .active, minutes count, none, minutes count, none, 0, 0, none,
    none, none, none⟩, 1, 1, false⟩

def onlineSince (count : Nat) : World :=
  ⟨⟨[begunAt count], fun _ => none⟩, minutes count, ⟨∅, fun _ => ∅, fun _ => 0⟩⟩

noncomputable def sweptAfter (count : Nat) : World :=
  { books := accrueGuest midnight anHour [1] (minutes (count + 5)) (onlineSince count).books
    clock := minutes (count + 5)
    watch := (Action.accrue anHour [1]).watched midnight (onlineSince count) (minutes (count + 5)) }

theorem sweptAfter_step (count : Nat) :
    step midnight (onlineSince count) (minutes (count + 5), .accrue anHour [1]) =
      some (sweptAfter count) := if_pos (minutes_le (Nat.le_add_right count 5))

theorem onlineSince_fresh (count : Nat) : (onlineSince count).Fresh :=
  ⟨fun _ => rfl, fun _ => ⟨rfl, rfl⟩⟩

/-- Someone online since midnight has used five minutes. -/
theorem time_accrual_midnight :
    Accounted midnight (sweptAfter 0) ∧
      ∀ happens next, step midnight (sweptAfter 0) happens = some next →
        Cut midnight (sweptAfter 0) happens next := by
  refine time_accrual_counts (onlineSince 0) (sweptAfter 0) (onlineSince_fresh 0)
    (.next .start ?_ (sweptAfter_step 0))
  intro answers locationIds accrues charged period counted charges
  obtain ⟨rfl, rfl⟩ := Action.accrue.inj accrues
  have whole : Finset.Ico counted (minutes 5) \ connectedUntil (onlineSince 0) (minutes 5) = ∅ := by
    rw [Finset.sdiff_eq_empty_iff_subset]
    exact Finset.subset_union_right
  dsimp only
  rw [whole]
  exact Int.emod_nonneg _ (by decide)

/-- Someone who comes at ten is charged for the night before, and sent away. -/
theorem night_charged :
    (onlineSince 600).Fresh ∧
      Reached (step midnight) (fun _ _ => True) (onlineSince 600) (sweptAfter 600) ∧
      ¬Accounted midnight (sweptAfter 600) := by
  refine ⟨onlineSince_fresh 600, .next .start trivial (sweptAfter_step 600), ?_⟩
  intro accounted
  have row : (sweptAfter 600).books.quotas .daily = some ⟨0, 0, 605, some (minutes 605)⟩ := by
    decide +kernel
  have counted := (accounted.charged .daily _ row).connected
  have connected : (sweptAfter 600).watch.connected ⊆ Finset.Ico (minutes 600) (minutes 605) := by
    change connectedUntil (onlineSince 600) (minutes 605) ⊆ _
    unfold connectedUntil
    split
    · exact Finset.empty_subset _
    · exact Finset.union_subset (Finset.empty_subset _) (Finset.Subset.refl _)
  refine absurd counted (not_le.mpr ?_)
  refine lt_of_le_of_lt (Int.ofNat_le.mpr
    (Finset.card_le_card ((Finset.filter_subset _ _).trans connected))) ?_
  rw [Int.card_Ico]
  decide

end CloudGuest.Guest.TimeAccrual
