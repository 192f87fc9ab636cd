import CloudGuest.Guest.Quotas
import CloudGuest.Guest.SessionWrites
import CloudGuest.Library.Readings

/-!
RADIUS accounting of one guest session (guest/service.py, `accounting_interim_update`
and `accounting_stop`), packet after packet. An Interim-Update takes over the larger of
what is recorded and what it is told, and tells the guest's FUP rows what it added. A
Stop writes its totals as they are, unless the router is NAS-only, and tells the FUP
rows nothing. Which session a packet is about is settled elsewhere.
-/

namespace CloudGuest.Guest
open Readings Texts

structure Account where
  session : GuestSession
  quotas : Quotas

structure InterimUpdate where
  uploadedTotal : Option Nat
  downloadedTotal : Option Nat
  uploadedDelta : Nat
  downloadedDelta : Nat
  lookup : FupLookup
  isDispatched : Bool
  endedViaCloud : Bool
  now : Int

structure AccountingStop where
  uploadedTotal : Option Nat
  downloadedTotal : Option Nat
  disconnectReason : Option Text
  now : Int

inductive Packet where
  | interimUpdate (update : InterimUpdate)
  | stop (report : AccountingStop)

def Packet.now : Packet → Int
  | .interimUpdate update => update.now
  | .stop report => report.now

variable (computePeriodStart : QuotaPeriodType → Int → Int) (isNasOnly : Bool)

def recordUsage (account : Account) (update : InterimUpdate)
    (uploadedDelta downloadedDelta : Nat) : Account :=
  let session := account.session
  if !session.isActive then account
  else
    let tracked := trackFupDataUsage computePeriodStart update.lookup account.quotas
      (uploadedDelta + downloadedDelta) update.now
    let answers : UsageAnswers :=
      ⟨tracked.2.map QuotaPeriodType.value, isNasOnly, update.isDispatched, update.endedViaCloud⟩
    { session := updateSession session
        (recordUsageUpdate session session uploadedDelta downloadedDelta answers update.now)
      quotas := tracked.1 }

def deltaOf (total : Option Nat) (recorded delta : Nat) : Nat :=
  -- A total becomes the delta to what is recorded; without one the packet's own delta counts.
  match total with
  | some total => total - recorded
  | none => delta

def accountingInterimUpdate (account : Account) (update : InterimUpdate) : Account :=
  recordUsage computePeriodStart isNasOnly account update
    (deltaOf update.uploadedTotal account.session.bytesUploaded update.uploadedDelta)
    (deltaOf update.downloadedTotal account.session.bytesDownloaded update.downloadedDelta)

def accountingStop (account : Account) (stop : AccountingStop) : Account :=
  { account with
    session := updateSession account.session
      (accountingStopUpdate account.session account.session stop.uploadedTotal
        stop.downloadedTotal isNasOnly stop.disconnectReason stop.now) }

def receive (account : Account) : Packet → Account
  | .interimUpdate update => accountingInterimUpdate computePeriodStart isNasOnly account update
  | .stop report => accountingStop isNasOnly account report

def deliver (account : Account) (packets : List Packet) : Account :=
  packets.foldl (receive computePeriodStart isNasOnly) account

/-! ### What a packet records -/

@[simp] theorem recordUsageUpdate_bytes (found row : GuestSession) (uploadedDelta downloadedDelta : Int)
    (answers : UsageAnswers) (now : Int) :
    (recordUsageUpdate found row uploadedDelta downloadedDelta answers now).bytesUploaded =
        some (found.bytesUploaded + uploadedDelta.toNat) ∧
      (recordUsageUpdate found row uploadedDelta downloadedDelta answers now).bytesDownloaded =
        some (found.bytesDownloaded + downloadedDelta.toNat) := by
  unfold recordUsageUpdate
  dsimp only
  split
  · split
    · exact ⟨rfl, rfl⟩
    · split <;> exact ⟨rfl, rfl⟩
  · split <;> exact ⟨rfl, rfl⟩

theorem recordUsage_bytes (account : Account) (update : InterimUpdate)
    (uploadedDelta downloadedDelta : Nat) (active : account.session.isActive = true) :
    let after := recordUsage computePeriodStart isNasOnly account update uploadedDelta downloadedDelta
    after.session.bytesUploaded = account.session.bytesUploaded + uploadedDelta ∧
      after.session.bytesDownloaded = account.session.bytesDownloaded + downloadedDelta ∧
      after.quotas = (trackFupDataUsage computePeriodStart update.lookup account.quotas
        (uploadedDelta + downloadedDelta) update.now).1 := by
  simp [recordUsage, active, updateSession, recordUsageUpdate_bytes]

theorem recordUsage_inactive (account : Account) (update : InterimUpdate)
    (uploadedDelta downloadedDelta : Nat) (inactive : account.session.isActive = false) :
    recordUsage computePeriodStart isNasOnly account update uploadedDelta downloadedDelta =
      account := by
  simp [recordUsage, inactive]

theorem recordUsage_uncapped (account : Account) (update : InterimUpdate)
    (uploadedDelta downloadedDelta : Nat) (unlimited : account.session.dataLimitMb = none)
    (uncapped : ∀ limits, update.lookup = .answered limits →
      ∀ period, limits.dataLimitMb period = none) :
    let after := recordUsage computePeriodStart isNasOnly account update uploadedDelta downloadedDelta
    after.session.status = account.session.status ∧ after.session.dataLimitMb = none := by
  have unviolated := trackFupDataUsage_uncapped computePeriodStart update.lookup account.quotas
    (uploadedDelta + downloadedDelta) update.now uncapped
  by_cases active : account.session.isActive = true
  · simp [recordUsage, active, unviolated, recordUsageUpdate, isQuotaExceeded, updateSession,
      unlimited]
  · simp [recordUsage, active, unlimited]

def stopped (isNasOnly : Bool) (total : Option Nat) (recorded : Nat) : Nat :=
  match total with
  | none => recorded
  | some total => if isNasOnly then max total recorded else total

theorem accountingStop_bytes (account : Account) (stop : AccountingStop) :
    let after := accountingStop isNasOnly account stop
    after.session.bytesUploaded =
        stopped isNasOnly stop.uploadedTotal account.session.bytesUploaded ∧
      after.session.bytesDownloaded =
        stopped isNasOnly stop.downloadedTotal account.session.bytesDownloaded ∧
      after.quotas = account.quotas := by
  have totals := accountingStopUpdate_bytes account.session account.session stop.uploadedTotal
    stop.downloadedTotal isNasOnly stop.disconnectReason stop.now
  refine ⟨?_, ?_, rfl⟩
  · simp only [accountingStop, updateSession, totals.1, accountingStopTotals]
    cases stop.uploadedTotal <;> rfl
  · simp only [accountingStop, updateSession, totals.2, accountingStopTotals]
    cases stop.downloadedTotal <;> rfl

/-! ### Interim-Updates in any order -/

def InterimUpdate.Cumulative (update : InterimUpdate) : Prop :=
  update.uploadedDelta = 0 ∧ update.downloadedDelta = 0

def InterimUpdate.Uncapped (update : InterimUpdate) : Prop :=
  ∀ limits, update.lookup = .answered limits → ∀ period, limits.dataLimitMb period = none

theorem absorbed_delta (total : Option Nat) (recorded : Nat) (totals : List Nat) :
    absorbed (recorded + deltaOf total recorded 0) totals =
      absorbed recorded (total.toList ++ totals) := by
  cases total with
  | none => rfl
  | some total => simp [deltaOf, absorbed, add_growth]

theorem deliver_absorbs (account : Account) (updates : List InterimUpdate)
    (active : account.session.isActive = true) (unlimited : account.session.dataLimitMb = none)
    (cumulative : ∀ update ∈ updates, update.Cumulative)
    (uncapped : ∀ update ∈ updates, update.Uncapped) :
    let after := deliver computePeriodStart isNasOnly account (updates.map .interimUpdate)
    after.session.isActive = true ∧
      after.session.bytesUploaded = absorbed account.session.bytesUploaded
        (updates.flatMap fun update => update.uploadedTotal.toList) ∧
      after.session.bytesDownloaded = absorbed account.session.bytesDownloaded
        (updates.flatMap fun update => update.downloadedTotal.toList) := by
  induction updates generalizing account with
  | nil => exact ⟨active, rfl, rfl⟩
  | cons update rest ih =>
      obtain ⟨uploadedZero, downloadedZero⟩ := cumulative update List.mem_cons_self
      obtain ⟨uploaded, downloaded, -⟩ := recordUsage_bytes computePeriodStart isNasOnly account
        update (deltaOf update.uploadedTotal account.session.bytesUploaded update.uploadedDelta)
        (deltaOf update.downloadedTotal account.session.bytesDownloaded update.downloadedDelta)
        active
      obtain ⟨status, stillUnlimited⟩ := recordUsage_uncapped computePeriodStart isNasOnly account
        update (deltaOf update.uploadedTotal account.session.bytesUploaded update.uploadedDelta)
        (deltaOf update.downloadedTotal account.session.bytesDownloaded update.downloadedDelta)
        unlimited (uncapped update List.mem_cons_self)
      have stillActive : (receive computePeriodStart isNasOnly account
          (.interimUpdate update)).session.isActive = true := by
        unfold GuestSession.isActive at active ⊢
        rw [receive, accountingInterimUpdate, status]
        exact active
      have tail := ih (receive computePeriodStart isNasOnly account (.interimUpdate update))
        stillActive stillUnlimited
        (fun other member => cumulative other (List.mem_cons_of_mem _ member))
        (fun other member => uncapped other (List.mem_cons_of_mem _ member))
      refine ⟨tail.1, tail.2.1.trans ?_, tail.2.2.trans ?_⟩
      · rw [receive, accountingInterimUpdate, uploaded, uploadedZero, absorbed_delta,
          List.flatMap_cons]
      · rw [receive, accountingInterimUpdate, downloaded, downloadedZero, absorbed_delta,
          List.flatMap_cons]

/-! ### What a packet keeps -/

def FupLookup.isAnswered : FupLookup → Bool
  | .answered _ => true
  | _ => false

/-- No counter falls, and in every period the guest's usage grows by what is recorded more. -/
structure Kept (before after : Account) (now : Int) : Prop where
  uploaded : before.session.bytesUploaded ≤ after.session.bytesUploaded
  downloaded : before.session.bytesDownloaded ≤ after.session.bytesDownloaded
  tracked : ∀ period,
    bytesUsedIn after.quotas period (computePeriodStart period now) + before.session.totalBytes =
      bytesUsedIn before.quotas period (computePeriodStart period now) + after.session.totalBytes

/-- A Stop's total is what is recorded, or at a NAS-only router no more than that. -/
def settled (isNasOnly : Bool) (total : Option Nat) (recorded : Nat) : Bool :=
  total.all fun total => if isNasOnly then total ≤ recorded else total = recorded

/-- An Interim-Update records nothing new, or the policy lookup answers; a Stop records nothing
else than is recorded. -/
def keeps (account : Account) : Packet → Bool
  | .interimUpdate update =>
      let session := account.session
      !session.isActive || update.lookup.isAnswered ||
        deltaOf update.uploadedTotal session.bytesUploaded update.uploadedDelta +
          deltaOf update.downloadedTotal session.bytesDownloaded update.downloadedDelta = 0
  | .stop report =>
      settled isNasOnly report.uploadedTotal account.session.bytesUploaded &&
        settled isNasOnly report.downloadedTotal account.session.bytesDownloaded

theorem settled_iff (total : Option Nat) (recorded : Nat) :
    settled isNasOnly total recorded = true ↔ stopped isNasOnly total recorded = recorded := by
  cases total with
  | none => simp [settled, stopped]
  | some total => cases isNasOnly <;> simp [settled, stopped]

theorem stop_kept_iff (account : Account) (report : AccountingStop) :
    Kept computePeriodStart account (accountingStop isNasOnly account report) report.now ↔
      keeps isNasOnly account (.stop report) = true := by
  obtain ⟨uploaded, downloaded, quotas⟩ := accountingStop_bytes isNasOnly account report
  simp only [keeps, Bool.and_eq_true, settled_iff]
  constructor
  · intro kept
    have up := kept.uploaded
    have down := kept.downloaded
    have tracked := kept.tracked .daily
    rw [quotas] at tracked
    simp only [GuestSession.totalBytes] at tracked
    rw [uploaded] at up tracked
    rw [downloaded] at down tracked
    constructor <;> omega
  · rintro ⟨up, down⟩
    rw [up] at uploaded
    rw [down] at downloaded
    refine ⟨uploaded.ge, downloaded.ge, fun period => ?_⟩
    rw [quotas, GuestSession.totalBytes, GuestSession.totalBytes, uploaded, downloaded]

theorem interim_kept_iff (account : Account) (update : InterimUpdate) :
    Kept computePeriodStart account
        (accountingInterimUpdate computePeriodStart isNasOnly account update) update.now ↔
      keeps isNasOnly account (.interimUpdate update) = true := by
  simp only [keeps, Bool.or_eq_true, Bool.not_eq_true', decide_eq_true_eq, accountingInterimUpdate]
  generalize deltaOf update.uploadedTotal account.session.bytesUploaded update.uploadedDelta = up
  generalize deltaOf update.downloadedTotal account.session.bytesDownloaded
    update.downloadedDelta = down
  by_cases active : account.session.isActive = true
  · obtain ⟨uploaded, downloaded, quotas⟩ :=
      recordUsage_bytes computePeriodStart isNasOnly account update up down active
    simp only [active, Bool.true_eq_false, false_or]
    constructor
    · intro kept
      cases lookup : update.lookup with
      | answered limits => exact Or.inl rfl
      | unwired | failed =>
          right
          have tracked := kept.tracked .daily
          rw [quotas, lookup] at tracked
          simp only [trackFupDataUsage, GuestSession.totalBytes, uploaded, downloaded] at tracked
          omega
    · intro fine
      refine ⟨by omega, by omega, fun period => ?_⟩
      simp only [GuestSession.totalBytes, quotas, uploaded, downloaded]
      cases lookup : update.lookup with
      | answered limits =>
          rw [bytesUsedIn_tracked]
          omega
      | unwired | failed =>
          rw [lookup] at fine
          have nothing := fine.resolve_left (by decide)
          rw [trackFupDataUsage_kept computePeriodStart _ account.quotas (up + down) update.now
            (Or.inl nothing)]
          omega
  · have inactive : account.session.isActive = false := by simpa using active
    rw [recordUsage_inactive computePeriodStart isNasOnly account update up down inactive]
    simp only [inactive, true_or, iff_true]
    exact ⟨le_rfl, le_rfl, fun _ => rfl⟩

theorem kept_iff (account : Account) (packet : Packet) :
    Kept computePeriodStart account (receive computePeriodStart isNasOnly account packet) packet.now ↔
      keeps isNasOnly account packet = true := by
  cases packet with
  | interimUpdate update => exact interim_kept_iff computePeriodStart isNasOnly account update
  | stop report => exact stop_kept_iff computePeriodStart isNasOnly account report

/-- Every packet of a run meets the condition where it arrives. -/
def allKeep (account : Account) : List Packet → Bool
  | [] => true
  | packet :: rest =>
      keeps isNasOnly account packet &&
        allKeep (receive computePeriodStart isNasOnly account packet) rest

theorem deliver_kept (account : Account) (packets : List Packet)
    (kept : allKeep computePeriodStart isNasOnly account packets = true) (period : QuotaPeriodType)
    (start : Int) (within : ∀ packet ∈ packets, computePeriodStart period packet.now = start) :
    let after := deliver computePeriodStart isNasOnly account packets
    account.session.bytesUploaded ≤ after.session.bytesUploaded ∧
      account.session.bytesDownloaded ≤ after.session.bytesDownloaded ∧
      KeepsUp account.session.totalBytes after.session.totalBytes
        (bytesUsedIn account.quotas period start) (bytesUsedIn after.quotas period start) := by
  induction packets generalizing account with
  | nil => exact ⟨le_rfl, le_rfl, keepsUp_refl _ _⟩
  | cons packet rest ih =>
      simp only [allKeep, Bool.and_eq_true] at kept
      have one := (kept_iff computePeriodStart isNasOnly account packet).mpr kept.1
      have tail := ih (receive computePeriodStart isNasOnly account packet) kept.2
        fun other member => within other (List.mem_cons_of_mem _ member)
      have grown := one.tracked period
      rw [within packet List.mem_cons_self] at grown
      have total : account.session.totalBytes ≤
          (receive computePeriodStart isNasOnly account packet).session.totalBytes :=
        Nat.add_le_add one.uploaded one.downloaded
      exact ⟨le_trans one.uploaded tail.1, le_trans one.downloaded tail.2.1,
        keepsUp_trans ⟨total, grown⟩ tail.2.2⟩

/-- Interim-Updates with cumulative totals leave the largest of each direction, in whatever order
and however often they come, on an uncapped ACTIVE session. A packet lets no counter fall and lets
the guest's usage keep up with it exactly if it records nothing that the FUP rows are not told: an
Interim-Update whose lookup answers or that adds nothing, a Stop that leaves both counters. Within
a period, runs of such packets do. -/
theorem accounting_keeps_up :
    (∀ (account : Account) (updates : List InterimUpdate),
      account.session.isActive = true → account.session.dataLimitMb = none →
      (∀ update ∈ updates, update.Cumulative) → (∀ update ∈ updates, update.Uncapped) →
      let after := deliver computePeriodStart isNasOnly account (updates.map .interimUpdate)
      after.session.bytesUploaded = absorbed account.session.bytesUploaded
          (updates.flatMap fun update => update.uploadedTotal.toList) ∧
        after.session.bytesDownloaded = absorbed account.session.bytesDownloaded
          (updates.flatMap fun update => update.downloadedTotal.toList) ∧
        ∀ others : List InterimUpdate, (∀ update, update ∈ updates ↔ update ∈ others) →
          let other := deliver computePeriodStart isNasOnly account (others.map .interimUpdate)
          other.session.bytesUploaded = after.session.bytesUploaded ∧
            other.session.bytesDownloaded = after.session.bytesDownloaded) ∧
    (∀ account packet,
      Kept computePeriodStart account (receive computePeriodStart isNasOnly account packet)
        packet.now ↔ keeps isNasOnly account packet = true) ∧
    ∀ account packets, allKeep computePeriodStart isNasOnly account packets = true →
      ∀ period start, (∀ packet ∈ packets, computePeriodStart period packet.now = start) →
        let after := deliver computePeriodStart isNasOnly account packets
        account.session.bytesUploaded ≤ after.session.bytesUploaded ∧
          account.session.bytesDownloaded ≤ after.session.bytesDownloaded ∧
          bytesUsedIn after.quotas period start + account.session.totalBytes =
            bytesUsedIn account.quotas period start + after.session.totalBytes := by
  refine ⟨?_, kept_iff computePeriodStart isNasOnly, ?_⟩
  · intro account updates active unlimited cumulative uncapped
    obtain ⟨-, uploaded, downloaded⟩ := deliver_absorbs computePeriodStart isNasOnly account updates
      active unlimited cumulative uncapped
    refine ⟨uploaded, downloaded, fun others same => ?_⟩
    obtain ⟨-, otherUploaded, otherDownloaded⟩ := deliver_absorbs computePeriodStart isNasOnly
      account others active unlimited (fun update member => cumulative update ((same update).mpr member))
      (fun update member => uncapped update ((same update).mpr member))
    have flat : ∀ (total : InterimUpdate → Option Nat) reading,
        reading ∈ others.flatMap (fun update => (total update).toList) ↔
          reading ∈ updates.flatMap (fun update => (total update).toList) := by
      intro total reading
      simp only [List.mem_flatMap, same]
    dsimp only
    rw [otherUploaded, otherDownloaded, uploaded, downloaded]
    exact ⟨absorbed_congr _ (flat InterimUpdate.uploadedTotal),
      absorbed_congr _ (flat InterimUpdate.downloadedTotal)⟩
  · intro account packets kept period start within
    obtain ⟨uploaded, downloaded, grown⟩ :=
      deliver_kept computePeriodStart isNasOnly account packets kept period start within
    exact ⟨uploaded, downloaded, grown.2⟩

section Executed

def account : Account :=
  { session := ⟨1, 1, some 1, 1, .otpSms, none, .active, 0, none, 0, none, 0, 0, none, none, none, none⟩
    quotas := fun _ => none }

def reading (uploadedTotal downloadedTotal : Nat) : InterimUpdate :=
  ⟨some uploadedTotal, some downloadedTotal, 0, 0, .answered ⟨fun _ => none, fun _ => none⟩, false,
    false, 7⟩

def stopAt (uploadedTotal downloadedTotal : Nat) : Packet :=
  .stop ⟨some uploadedTotal, some downloadedTotal, none, 9⟩

/-- Two readings, the later one first and again at the end, then a Stop that confirms them. -/
theorem accounting_keeps_up_reordered :
    (let after := deliver (fun _ _ => 0) false account
        ([reading 500 90, reading 200 40, reading 500 90].map .interimUpdate)
      let other := deliver (fun _ _ => 0) false account
        ([reading 200 40, reading 500 90].map .interimUpdate)
      after.session.bytesUploaded = 500 ∧ other.session.bytesUploaded = 500) ∧
    Kept (fun _ _ => 0) account (receive (fun _ _ => 0) false account (stopAt 0 0)) 9 ∧
    let after := deliver (fun _ _ => 0) false account
      [.interimUpdate (reading 500 90), .interimUpdate (reading 200 40), stopAt 500 90]
    after.session.status = .disconnected ∧ bytesUsedIn after.quotas .weekly 0 = 590 := by
  refine ⟨?_, ?_, by decide, ?_⟩
  · obtain ⟨largest, -, same⟩ := (accounting_keeps_up (fun _ _ => 0) false).1 account
      [reading 500 90, reading 200 40, reading 500 90] rfl rfl
      (by simp [InterimUpdate.Cumulative, reading]) (by simp [InterimUpdate.Uncapped, reading])
    have again := (same [reading 200 40, reading 500 90] (by simp [or_comm])).1
    exact ⟨largest, again.trans largest⟩
  · exact ((accounting_keeps_up (fun _ _ => 0) false).2.1 account (stopAt 0 0)).mpr (by decide)
  · have grown := ((accounting_keeps_up (fun _ _ => 0) false).2.2 account
      [.interimUpdate (reading 500 90), .interimUpdate (reading 200 40), stopAt 500 90] (by decide)
      .weekly 0 (fun _ _ => rfl)).2.2
    exact grown

/-- A Stop with smaller totals lowers both counters, and one with larger totals is not counted
against the guest's quotas. -/
theorem accounting_falls_behind :
    let recorded := receive (fun _ _ => 0) false account (.interimUpdate (reading 500 90))
    let lowered := receive (fun _ _ => 0) false recorded (stopAt 100 20)
    let uncounted := receive (fun _ _ => 0) false recorded (stopAt 700 90)
    recorded.session.bytesUploaded = 500 ∧ lowered.session.bytesUploaded = 100 ∧
      lowered.session.bytesDownloaded = 20 ∧ uncounted.session.bytesUploaded = 700 ∧
      (∀ period, bytesUsedIn recorded.quotas period 0 = 590 ∧
        bytesUsedIn uncounted.quotas period 0 = 590) ∧
      ¬ Kept (fun _ _ => 0) recorded lowered 9 ∧ ¬ Kept (fun _ _ => 0) recorded uncounted 9 := by
  refine ⟨by decide, by decide, by decide, by decide, ?_, ?_, ?_⟩
  · intro period
    cases period <;> decide
  · intro kept
    exact absurd kept.uploaded (by decide)
  · intro kept
    exact absurd (kept.tracked .daily) (by decide)

end Executed

end CloudGuest.Guest
