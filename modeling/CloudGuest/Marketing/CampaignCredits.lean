import CloudGuest.Billing.CreditLedger

/-!
`CampaignCredits` (marketing/credits.py): the charge flow of one campaign over
its organization's wallet. Only what the flow reads of a campaign is passed:
its status, its price snapshot and whether the venue's own provider sends it.
Prices and unit counts are non-negative.
-/

namespace CloudGuest.Marketing
open Texts CreditLedger

inductive CampaignStatus where
  | draft | scheduled | sending | sent | failed | cancelled
  deriving DecidableEq

def CampaignStatus.active : CampaignStatus → Bool
  | .scheduled | .sending => true
  | _ => false

def CampaignStatus.terminal : CampaignStatus → Bool
  | .sent | .failed | .cancelled => true
  | _ => false

structure PriceSnapshot where
  unitPriceMinor : Nat
  unitsPerRecipientMax : Nat
  deriving DecidableEq

def perRecipientMinor : Option PriceSnapshot → Nat
  | none => 0
  | some price => price.unitsPerRecipientMax * price.unitPriceMinor

structure Billed where
  priceSnapshot : Option PriceSnapshot
  providerOwn : Bool
  deriving DecidableEq

def Billed.per (billed : Billed) : Nat :=
  -- What one recipient may cost; nothing when the venue's own provider sends.
  if billed.providerOwn then 0 else perRecipientMinor billed.priceSnapshot

def dispatchKey (campaignId : Uuid) : Text :=
  "release:".toList ++ campaignId.text ++ ":dispatch".toList
def finalKey (campaignId : Uuid) : Text := "release:".toList ++ campaignId.text ++ ":final".toList
def unscheduleKey (campaignId : Uuid) : Text :=
  "release:".toList ++ campaignId.text ++ ":unschedule".toList
def debitKey (recipientId : Uuid) : Text := "debit:".toList ++ recipientId.text
def chargeTestKey (campaignId : Uuid) (requestId digest : Text) : Text :=
  "test:".toList ++ campaignId.text ++ ":".toList ++ requestId ++ ":".toList ++ digest

def reserveAtSchedule (session : Session) (ledger : Ledger) (campaignId : Uuid)
    (price : PriceSnapshot) (reachable : Nat) : Except Refusal Int × Ledger :=
  let needed : Int := reachable * perRecipientMinor (some price)
  if needed ≤ 0 then (.ok 0, ledger)
  else reserveForCampaign session ledger campaignId (.int needed) none

/-- How many of the audience are covered, and how many the wallet left out. -/
structure Fitted where
  allowed : Int
  cappedByCredits : Int
  deriving DecidableEq

def adjustAtDispatch (session : Session) (ledger : Ledger) (campaignId : Uuid) (billed : Billed)
    (reachable : Nat) : Except Refusal Fitted × Ledger :=
  let per := perRecipientMinor billed.priceSnapshot
  if per ≤ 0 ∨ billed.providerOwn then (.ok ⟨reachable, 0⟩, ledger)
  else
    let outstanding := campaignReservedOutstanding ledger campaignId
    let covered := outstanding / per
    if reachable ≤ covered then
      if outstanding - reachable * per > 0 then
        match releaseCampaignRemainder session ledger campaignId (dispatchKey campaignId)
            (reachable * per) with
        | (.error refusal, after) => (.error refusal, after)
        | (.ok _, after) => (.ok ⟨reachable, 0⟩, after)
      else (.ok ⟨reachable, 0⟩, ledger)
    else
      match reserveForCampaign session ledger campaignId (.int ((reachable - covered) * per))
          (some (per : Int)) with
      | (.error refusal, after) => (.error refusal, after)
      | (.ok extra, after) =>
          let allowed := covered + extra / per
          (.ok ⟨allowed, reachable - allowed⟩, after)

def recipientDebit (campaignId recipientId : Uuid) (price : PriceSnapshot) (units : Nat) : Request :=
  -- The accepted units, at most the snapshot's own bound, out of reserved.
  let capped := min units price.unitsPerRecipientMax
  debit (.int (capped * price.unitPriceMinor)) (debitKey recipientId) (some campaignId)
    (some recipientId) (some price.unitPriceMinor) (some capped) false

def debitRecipient (session : Session) (ledger : Ledger) (campaignId recipientId : Uuid)
    (billed : Billed) (units : Nat) : Except Refusal Int × Ledger :=
  -- A debit the wallet cannot cover is logged and the message goes uncharged; any other refusal is
  -- raised to the worker.
  match billed.priceSnapshot with
  | none => (.ok 0, ledger)
  | some price =>
      if perRecipientMinor (some price) ≤ 0 ∨ billed.providerOwn then (.ok 0, ledger)
      else
        match post session ledger (recipientDebit campaignId recipientId price units) with
        | (.error (.creditReservationExceeded _ _), after) => (.ok 0, after)
        | (.error (.insufficientCredits _ _), after) => (.ok 0, after)
        | (.error refusal, after) => (.error refusal, after)
        | (.ok _, after) =>
            (.ok (min units price.unitsPerRecipientMax * price.unitPriceMinor), after)

def settle (session : Session) (ledger : Ledger) (campaignId : Uuid) (status : CampaignStatus)
    (billed : Billed) (inFlight : Nat) : Except Refusal Int × Ledger :=
  if status.active then (.ok 0, ledger)
  else
    let per := perRecipientMinor billed.priceSnapshot
    if per ≤ 0 ∨ billed.providerOwn then (.ok 0, ledger)
    else releaseCampaignRemainder session ledger campaignId (finalKey campaignId) (inFlight * per)

def releaseAll (session : Session) (ledger : Ledger) (campaignId : Uuid) (keyBase : Text) :
    Except Refusal Int × Ledger :=
  releaseCampaignRemainder session ledger campaignId keyBase 0

def chargeTestSend (session : Session) (ledger : Ledger) (campaignId : Uuid)
    (requestId digest : Text) (unitPriceMinor units : Nat) : Except Refusal Int × Ledger :=
  let amount : Int := unitPriceMinor * units
  if amount ≤ 0 then (.ok 0, ledger)
  else
    match post session ledger (debit (.int amount) (chargeTestKey campaignId requestId digest)
        (some campaignId) none (some unitPriceMinor) (some units) true) with
    | (.error refusal, after) => (.error refusal, after)
    | (.ok _, after) => (.ok amount, after)

end CloudGuest.Marketing
