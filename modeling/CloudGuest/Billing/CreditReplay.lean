import CloudGuest.Library.Idempotence
import CloudGuest.Billing.CreditSoundness
import CloudGuest.Billing.MasterCredits

/-!
Retried requests. A stored entry keeps its key for good, so the key lookup
that comes before every balance check answers a repeat of the same movement
with the original entry, and refuses a different movement under that key. A
request that was refused left no entry: its next delivery is judged afresh.
-/

namespace CloudGuest.CreditLedger
open Texts RunningTotals

theorem getEntryByKey_posted (before later : Ledger) (entry stored : CreditLedgerEntry) (key : Text)
    (posted : Posted before entry later) (found : getEntryByKey before key = some stored) :
    getEntryByKey later key = some stored := by
  unfold getEntryByKey at found ⊢
  rw [posted.entries, List.find?_append, found]
  rfl

theorem getEntryByKey_posted_self (before later : Ledger) (entry : CreditLedgerEntry)
    (posted : Posted before entry later) :
    getEntryByKey later entry.idempotencyKey = some entry := by
  have fresh := posted.fresh
  unfold getEntryByKey at fresh ⊢
  rw [posted.entries, List.find?_append, fresh]
  simp

/-- What a later delivery is compared with. A request whose amount fails its
check has no identity: it is refused before the key is looked up. -/
def Request.identity (request : Request) : Option (Text × Movement) :=
  match request.checked with
  | .ok minor => some (request.key, request.movement minor)
  | .error _ => none

theorem identity_some (request : Request) (key : Text) (wanted : Movement)
    (identified : request.identity = some (key, wanted)) :
    ∃ minor, request.checked = .ok minor ∧ request.key = key ∧ request.movement minor = wanted := by
  unfold Request.identity at identified
  split at identified
  · rename_i minor checked
    cases identified
    exact ⟨minor, checked, rfl, rfl⟩
  · cases identified

theorem post_keyless (session : Session) (ledger : Ledger) (request : Request)
    (keyless : request.key = []) : ∃ refusal, post session ledger request = (.error refusal, ledger) := by
  cases checked : request.checked with
  | error refusal => exact ⟨refusal, post_unchecked session ledger request refusal checked⟩
  | ok minor =>
      refine ⟨.valueError "idempotency_key is required", ?_⟩
      simp [post, checked, apply, keyless]

theorem post_stored (session : Session) (ledger : Ledger) (request : Request) (key : Text)
    (wanted : Movement) (existing : CreditLedgerEntry) (keyed : key ≠ [])
    (identified : request.identity = some (key, wanted))
    (stored : getEntryByKey ledger key = some existing) :
    post session ledger request =
      if existing.movement = wanted then (.ok ⟨existing, ledger.wallet, false⟩, ledger)
      else (.error (.idempotencyKeyReused key), ledger) := by
  -- The key decides before the balance does.
  obtain ⟨minor, checked, rfl, rfl⟩ := identity_some request key wanted identified
  simp only [post, checked, apply, if_neg keyed, stored]
  by_cases same : existing.movement = request.movement minor
  · rw [if_pos same, if_neg]
    simpa [CreditLedgerEntry.movement, Request.movement] using same
  · rw [if_neg same, if_pos]
    by_contra agrees
    apply same
    simpa [CreditLedgerEntry.movement, Request.movement] using agrees

theorem post_ok_stored (session : Session) (ledger later : Ledger) (request : Request)
    (write : LedgerWrite) (answered : post session ledger request = (.ok write, later)) :
    request.key ≠ [] ∧ request.identity = some (request.key, write.entry.movement) ∧
      getEntryByKey later request.key = some write.entry := by
  have keyed : request.key ≠ [] := by
    intro keyless
    obtain ⟨refusal, refused⟩ := post_keyless session ledger request keyless
    rw [refused] at answered
    cases answered
  cases checked : request.checked with
  | error refusal =>
      rw [post_unchecked session ledger request refusal checked] at answered
      cases answered
  | ok minor =>
      have applied := post_applied session ledger request minor checked
      rw [answered] at applied
      refine ⟨keyed, ?_⟩
      cases applied with
      | replayed existing stored same => exact ⟨by simp [Request.identity, checked, same], stored⟩
      | posted entry later used moved posted =>
          have found := getEntryByKey_posted_self ledger later entry posted
          rw [used] at found
          exact ⟨by simp [Request.identity, checked, moved], found⟩

end CloudGuest.CreditLedger

namespace CloudGuest.MasterCredits
open Texts CreditLedger Idempotence

def Delivery.keyedRequest : Delivery → Option Request
  -- The wallet request a delivery makes under a caller's key. The campaign helpers number their
  -- own keys and are no repeat of anything.
  | .wallet ⟨_, .keyed operation⟩ => some operation.request
  | .wallet _ => none
  | .master _ office request actorUserId => some (walletRequest office request actorUserId)

def Delivery.identity (delivery : Delivery) : Option (Text × Movement) :=
  delivery.keyedRequest.bind Request.identity

def Delivery.admitted : Delivery → Prop
  | .wallet _ => True
  | .master _ office request _ =>
      office.organizationFound = true ∧ requireCampaign office request = none

def Delivery.session : Delivery → Session
  | .wallet call => call.session
  | .master session _ _ _ => session

theorem recordCreated_cases (office : Office) (books : Books) (request : AdjustmentRequest)
    (actorUserId : Uuid) (write : LedgerWrite) (ledger : Ledger) :
    (∃ refusal,
        recordCreated office books request actorUserId write ledger = (.error refusal, books)) ∨
      ∃ later, recordCreated office books request actorUserId write ledger = (.ok write, later) ∧
        later.ledger = ledger := by
  unfold recordCreated
  split
  · exact .inl ⟨_, rfl⟩
  · exact .inl ⟨_, rfl⟩
  · exact .inr ⟨_, rfl, rfl⟩

theorem postAdjustment_admitted (session : Session) (office : Office) (books : Books)
    (request : AdjustmentRequest) (actorUserId : Uuid)
    (found : office.organizationFound = true) (belongs : requireCampaign office request = none) :
    postAdjustment session office books request actorUserId =
      match post session books.ledger (walletRequest office request actorUserId) with
      | (.error refusal, _) => (.error (.wallet refusal), books)
      | (.ok write, ledger) =>
          if write.created then recordCreated office books request actorUserId write ledger
          else (.ok write, books) := by
  unfold postAdjustment
  simp only [found, belongs]
  rfl

theorem postAdjustment_turned_away (session : Session) (office : Office) (books : Books)
    (request : AdjustmentRequest) (actorUserId : Uuid)
    (away : ¬ (office.organizationFound = true ∧ requireCampaign office request = none)) :
    ∃ refusal, postAdjustment session office books request actorUserId = (.error refusal, books) := by
  unfold postAdjustment
  split
  · exact ⟨_, rfl⟩
  · rename_i found
    split
    · exact ⟨_, rfl⟩
    · rename_i belongs
      exact absurd ⟨by simpa using found, belongs⟩ away

/-- An unanswered delivery changes nothing; an answered one leaves the wallet's
ledger as it was or with one entry more. -/
theorem deliver_cases (books : Books) (delivery : Delivery) :
    (∃ refusal, deliver books delivery = (.error refusal, books)) ∨
      ∃ reply later, deliver books delivery = (.ok reply, later) ∧
        (later = books ∨ ∃ entry, Posted books.ledger entry later.ledger) := by
  cases delivery with
  | wallet call =>
      have settled := perform_settled books.ledger call
      simp only [deliver]
      generalize perform books.ledger call = result at settled
      cases settled with
      | refused refusal => exact .inl ⟨_, rfl⟩
      | unchanged answer => exact .inr ⟨answer, _, rfl, .inl rfl⟩
      | posted answer entry later posted => exact .inr ⟨answer, _, rfl, .inr ⟨entry, posted⟩⟩
  | master session office request actorUserId =>
      simp only [deliver]
      by_cases reaches : office.organizationFound = true ∧ requireCampaign office request = none
      · rw [postAdjustment_admitted session office books request actorUserId reaches.1 reaches.2]
        rcases post_cases session books.ledger (walletRequest office request actorUserId) with
          ⟨refusal, answer⟩ | ⟨existing, answer⟩ | ⟨entry, later, answer, posted⟩
        · rw [answer]
          exact .inl ⟨_, rfl⟩
        · rw [answer]
          exact .inr ⟨_, _, rfl, .inl rfl⟩
        · rw [answer]
          dsimp only
          rw [if_pos rfl]
          rcases recordCreated_cases office books request actorUserId
              ⟨entry, later.wallet, true⟩ later with ⟨refusal, failed⟩ | ⟨kept, recorded, same⟩
          · rw [failed]
            exact .inl ⟨_, rfl⟩
          · rw [recorded]
            exact .inr ⟨_, _, rfl, .inr ⟨entry, same ▸ posted⟩⟩
      · obtain ⟨refusal, refused⟩ :=
          postAdjustment_turned_away session office books request actorUserId reaches
        rw [refused]
        exact .inl ⟨_, rfl⟩

theorem delivered_keeps_entry (books : Books) (delivery : Delivery) (key : Text)
    (stored : CreditLedgerEntry) (found : getEntryByKey books.ledger key = some stored) :
    getEntryByKey (delivered books delivery).ledger key = some stored := by
  unfold delivered
  rcases deliver_cases books delivery with
    ⟨refusal, answer⟩ | ⟨reply, later, answer, rfl | ⟨entry, posted⟩⟩
  · rw [answer]
    exact found
  · rw [answer]
    exact found
  · rw [answer]
    exact getEntryByKey_posted _ _ entry stored key posted found

theorem afterDeliveries_keeps_entry (books : Books) (deliveries : List Delivery) (key : Text)
    (stored : CreditLedgerEntry) (found : getEntryByKey books.ledger key = some stored) :
    getEntryByKey (afterDeliveries books deliveries).ledger key = some stored := by
  induction deliveries generalizing books with
  | nil => exact found
  | cons delivery rest ih =>
      exact ih (delivered books delivery) (delivered_keeps_entry books delivery key stored found)

theorem deliver_stored (books : Books) (delivery : Delivery) (key : Text) (wanted : Movement)
    (existing : CreditLedgerEntry) (keyed : key ≠ []) (admitted : delivery.admitted)
    (identified : delivery.identity = some (key, wanted))
    (stored : getEntryByKey books.ledger key = some existing) :
    deliver books delivery =
      if existing.movement = wanted then
        (.ok (.write ⟨existing, books.ledger.wallet, false⟩), books)
      else (.error (.wallet (.idempotencyKeyReused key)), books) := by
  cases delivery with
  | wallet call =>
      obtain ⟨session, operation⟩ := call
      cases operation with
      | keyed operation =>
          have answer := post_stored session books.ledger operation.request key wanted existing keyed
            identified stored
          simp only [deliver, perform, answer]
          by_cases same : existing.movement = wanted
          · rw [if_pos same, if_pos same]
            rfl
          · rw [if_neg same, if_neg same]
            rfl
      | reserveForCampaign campaignId amount unitMinor => cases identified
      | releaseCampaignRemainder campaignId keyBase holdMinor => cases identified
  | master session office request actorUserId =>
      have answer := post_stored session books.ledger (walletRequest office request actorUserId) key
        wanted existing keyed identified stored
      simp only [deliver,
        postAdjustment_admitted session office books request actorUserId admitted.1 admitted.2, answer]
      by_cases same : existing.movement = wanted
      · rw [if_pos same, if_pos same]
        rfl
      · rw [if_neg same, if_neg same]
        rfl

theorem delivered_again (books : Books) (delivery : Delivery) (key : Text) (wanted : Movement)
    (existing : CreditLedgerEntry) (keyed : key ≠ [])
    (identified : delivery.identity = some (key, wanted))
    (stored : getEntryByKey books.ledger key = some existing) :
    delivered books delivery = books := by
  by_cases admitted : delivery.admitted
  · rw [delivered, deliver_stored books delivery key wanted existing keyed admitted identified stored]
    split <;> rfl
  · cases delivery with
    | wallet call => exact absurd trivial admitted
    | master session office request actorUserId =>
        obtain ⟨refusal, refused⟩ :=
          postAdjustment_turned_away session office books request actorUserId admitted
        simp only [delivered, deliver, refused]

def succeeded (books : Books) (delivery : Delivery) : Bool := (deliver books delivery).1.isOk

def Done (books : Books) (identity : Text × Movement) : Prop :=
  identity.1 ≠ [] ∧ ∃ entry, getEntryByKey books.ledger identity.1 = some entry ∧
    entry.movement = identity.2

theorem postAdjustment_ok (session : Session) (office : Office) (books later : Books)
    (request : AdjustmentRequest) (actorUserId : Uuid) (write : LedgerWrite)
    (answered : postAdjustment session office books request actorUserId = (.ok write, later)) :
    ∃ ledger, post session books.ledger (walletRequest office request actorUserId) =
        (.ok write, ledger) ∧ later.ledger = ledger := by
  by_cases reaches : office.organizationFound = true ∧ requireCampaign office request = none
  · rw [postAdjustment_admitted session office books request actorUserId reaches.1 reaches.2]
      at answered
    rcases post_cases session books.ledger (walletRequest office request actorUserId) with
      ⟨refusal, answer⟩ | ⟨existing, answer⟩ | ⟨entry, posted, answer, _⟩
    · rw [answer] at answered
      cases answered
    · rw [answer] at answered
      cases answered
      exact ⟨_, answer, rfl⟩
    · rw [answer] at answered
      dsimp only at answered
      rw [if_pos rfl] at answered
      rcases recordCreated_cases office books request actorUserId
          ⟨entry, posted.wallet, true⟩ posted with ⟨refusal, failed⟩ | ⟨kept, recorded, same⟩
      · rw [failed] at answered
        cases answered
      · rw [recorded] at answered
        cases answered
        exact ⟨_, answer, same⟩
  · obtain ⟨refusal, refused⟩ :=
      postAdjustment_turned_away session office books request actorUserId reaches
    rw [refused] at answered
    cases answered

theorem deliver_ok_stored (books later : Books) (delivery : Delivery) (reply : Reply) (key : Text)
    (wanted : Movement) (identified : delivery.identity = some (key, wanted))
    (answered : deliver books delivery = (.ok reply, later)) :
    ∃ write, reply = .write write ∧ key ≠ [] ∧ write.entry.movement = wanted ∧
      getEntryByKey later.ledger key = some write.entry := by
  cases delivery with
  | wallet call =>
      obtain ⟨session, operation⟩ := call
      cases operation with
      | keyed operation =>
          rcases outcome : post session books.ledger operation.request with ⟨result, ledger⟩
          simp only [deliver, perform, outcome] at answered
          cases result with
          | error refusal => cases answered
          | ok write =>
              obtain ⟨keyed, named, stored⟩ := post_ok_stored _ _ _ _ _ outcome
              cases answered
              obtain ⟨rfl, rfl⟩ : operation.request.key = key ∧ write.entry.movement = wanted := by
                simpa [Delivery.identity, Delivery.keyedRequest, named] using identified
              exact ⟨write, rfl, keyed, rfl, stored⟩
      | reserveForCampaign campaignId amount unitMinor => cases identified
      | releaseCampaignRemainder campaignId keyBase holdMinor => cases identified
  | master session office request actorUserId =>
      rcases outcome : postAdjustment session office books request actorUserId with ⟨result, kept⟩
      simp only [deliver, outcome] at answered
      cases result with
      | error refusal => cases answered
      | ok write =>
          cases answered
          obtain ⟨ledger, posted, rfl⟩ := postAdjustment_ok _ _ _ _ _ _ _ outcome
          obtain ⟨keyed, named, stored⟩ := post_ok_stored _ _ _ _ _ posted
          obtain ⟨rfl, rfl⟩ : (walletRequest office request actorUserId).key = key ∧
              write.entry.movement = wanted := by
            simpa [Delivery.identity, Delivery.keyedRequest, named] using identified
          exact ⟨write, rfl, keyed, rfl, stored⟩

theorem succeeded_done (books : Books) (delivery : Delivery) (identity : Text × Movement)
    (won : succeeded books delivery = true) (identified : delivery.identity = some identity) :
    Done (delivered books delivery) identity := by
  rcases outcome : deliver books delivery with ⟨result, later⟩
  cases result with
  | error refusal => simp [succeeded, outcome, Except.isOk, Except.toBool] at won
  | ok reply =>
      obtain ⟨write, _, keyed, moved, stored⟩ :=
        deliver_ok_stored books later delivery reply identity.1 identity.2 identified outcome
      exact ⟨keyed, write.entry, by rw [delivered, outcome]; exact stored, moved⟩

theorem done_stable (books : Books) (delivery : Delivery) (identity : Text × Movement)
    (done : Done books identity) : Done (delivered books delivery) identity := by
  obtain ⟨keyed, entry, stored, moved⟩ := done
  exact ⟨keyed, entry, delivered_keeps_entry books delivery _ entry stored, moved⟩

def withoutRepeats (deliveries : List Delivery) : List Delivery :=
  deliveredOnce delivered Delivery.identity succeeded [] .empty deliveries

def firstDeliveries (deliveries : List Delivery) : List Delivery :=
  deliveredOnce delivered Delivery.identity (fun _ _ => true) [] .empty deliveries

/-- Once a request created its entry, every later delivery under its key either
asks for the same movement and gets that entry back, or is refused with the
422; both leave wallet, ledger, invoices and audit log alone, whatever ran in
between. Leaving out the repeats of answered requests keeps the final state. -/
theorem keyed_requests_replay :
    (∀ (earlier later : List Delivery) (first again : Delivery) (key : Text)
        (wanted other : Movement) (entry : CreditLedgerEntry) (wallet : CreditWallet),
      let before := afterDeliveries .empty earlier
      let books := afterDeliveries (delivered before first) later
      first.identity = some (key, wanted) →
      (deliver before first).1 = .ok (.write ⟨entry, wallet, true⟩) →
      again.identity = some (key, other) → again.admitted →
      deliver books again =
        if other = wanted then (.ok (.write ⟨entry, books.ledger.wallet, false⟩), books)
        else (.error (.wallet (.idempotencyKeyReused key)), books)) ∧
    (∀ (deliveries : List Delivery) (again : Delivery) (refusal : MasterRefusal),
      let books := afterDeliveries .empty deliveries
      (deliver books again).1 = .error refusal → (deliver books again).2 = books) ∧
    ∀ deliveries, afterDeliveries .empty (withoutRepeats deliveries) =
      afterDeliveries .empty deliveries := by
  refine ⟨?_, ?_, ?_⟩
  · intro earlier later first again key wanted other entry wallet before books identified created
      repeated admitted
    obtain ⟨write, same, keyed, moved, stored⟩ :=
      deliver_ok_stored before (deliver before first).2 first _ key wanted identified
        (Prod.ext created rfl)
    cases same
    have kept := afterDeliveries_keeps_entry (delivered before first) later key entry stored
    rw [deliver_stored books again key other entry keyed admitted repeated kept]
    simp only [moved, eq_comm]
  · intro deliveries again refusal books refused
    rcases deliver_cases books again with ⟨_, answer⟩ | ⟨reply, later, answer, _⟩
    · rw [answer]
    · rw [answer] at refused
      cases refused
  · intro deliveries
    refine deliveredOnce_run delivered Delivery.identity succeeded Done succeeded_done done_stable
      ?_ [] .empty (by simp) deliveries
    rintro books delivery ⟨key, wanted⟩ ⟨keyed, entry, stored, _⟩ identified
    exact delivered_again books delivery key wanted entry keyed identified stored

/-- A topup retried after the credits were taken back is answered all the same. -/
theorem keyed_requests_replay_retried_topup :
    let topup : Delivery := .wallet ⟨{}, .keyed (.topup (.int 5) "t".toList none none none none)⟩
    let deduct : Delivery := .wallet ⟨{}, .keyed (.adjust (.int (-5)) "a".toList none none none)⟩
    let books := afterDeliveries .empty [topup, deduct]
    ∃ entry, deliver books topup = (.ok (.write ⟨entry, books.ledger.wallet, false⟩), books) := by
  intro topup deduct books
  refine ⟨⟨.topup, 5, 0, 5, 0, "t".toList, {}, none⟩, ?_⟩
  exact keyed_requests_replay.1 [] [deduct] topup topup "t".toList ⟨.topup, 5, 0, none, none⟩
    ⟨.topup, 5, 0, none, none⟩ ⟨.topup, 5, 0, 5, 0, "t".toList, {}, none⟩
    ⟨5, 0, defaultLowBalanceThresholdMinor, none⟩ rfl (by decide) rfl trivial

/-- A reserve refused for want of credits succeeds when it is delivered again
after a top-up: the run without its second delivery ends with other balances. -/
theorem refused_request_is_judged_afresh :
    let campaign : Uuid := ⟨List.replicate 36 '0', rfl⟩
    let reserve : Delivery := .wallet ⟨{}, .keyed (.reserve (.int 5) "r".toList campaign)⟩
    let topup : Delivery := .wallet ⟨{}, .keyed (.topup (.int 5) "t".toList none none none none)⟩
    (afterDeliveries .empty (firstDeliveries [reserve, topup, reserve])).ledger.wallet.reservedMinor
      ≠ (afterDeliveries .empty [reserve, topup, reserve]).ledger.wallet.reservedMinor := by
  decide

end CloudGuest.MasterCredits
