import CloudGuest.Billing.SubscriptionEffects
import CloudGuest.Library.Runs

/-!
The accounts of all organizations and the operations on them. Requests and
webhooks touch one account and are committed as a whole; the three phases of
the renewal sweep each work through what their query lists, in the database's
order. A run is any sequence of these with a clock that never goes back.
-/

namespace CloudGuest.Subscriptions
open Calendar Sessions Tables Runs

universe u
variable {Org : Type u} [DecidableEq Org]

abbrev Accounts (Org : Type u) := Table (Prod.fst : Org × Account → Org)

def accountChange (change : Account → Account) : Change (Prod.fst : Org × Account → Org) where
  apply row := (row.1, change row.2)
  keeps _ := rfl

structure Settings where
  trialPeriodDays : Nat
  gracePeriodDays : Nat
  trialPositive : 1 ≤ trialPeriodDays

def accountOf (accounts : Accounts Org) (org : Org) : Option Account :=
  (accounts.find org).map Prod.snd

/-- The defaults of `Settings` (core/config.py). -/
def defaultSettings : Settings := ⟨14, 7, by decide⟩

structure Billing (Org : Type u) where
  clock : Moment
  accounts : Accounts Org

def Billing.account (billing : Billing Org) (org : Org) : Option Account :=
  accountOf billing.accounts org

def Billing.started (clock : Moment) : Billing Org := ⟨clock, Table.empty⟩

/-- `listed` is the order in which the database answered the phase's query. -/
inductive Action (Org : Type u) where
  | createSubscription (org : Org) (plan : Option Plan)
  | request (org : Org) (requesting : Option Org) (request : Request)
  | processDueRenewals (listed : List Org) (renewals : Org → Renewal)
  | lapseNonRenewingSubscriptions (listed : List Org) (weather : Org → Weather)
  | expireLapsedSubscriptions (listed : List Org) (weather : Org → Weather)

structure Event (Org : Type u) where
  now : Moment
  action : Action Org

/-! ### The phases -/

def listRows (query : Account → Bool) (accounts : Accounts Org) : List Org :=
  (accounts.rows.filter fun row => query row.2).map Prod.fst

def statusPastDue (account : Account) : Bool := account.subscription.status = .pastDue

def processDueRenewals (now : Moment) (renewals : Org → Renewal) :
    List Org → Accounts Org → Accounts Org :=
  sweep (fun org => accountChange (left (processRenewal now (renewals org)))) fun _ _ => false

def lapseStops (now : Moment) (weather : Weather) (account : Account) : Bool :=
  -- The audit row is written after the item's `try`, so its exception ends the phase.
  weather.late && !raised (lapseItem now weather) account

def lapseNonRenewingSubscriptions (now : Moment) (weather : Org → Weather) :
    List Org → Accounts Org → Accounts Org :=
  sweep (fun org => accountChange (left (lapseItem now (weather org))))
    fun org row => lapseStops now (weather org) row.2

def expireStops (now : Moment) (gracePeriodDays : Nat) (weather : Weather) (account : Account) :
    Bool :=
  -- As for a lapse; a grace deadline past year 9999 raises outside the `try` too.
  account.subscription.pastDueAt.any (fun since => (addDays since gracePeriodDays).isNone) ||
    (graceOver now gracePeriodDays account.subscription && weather.late &&
      !raised (expireItem now gracePeriodDays weather) account)

def expireLapsedSubscriptions (now : Moment) (gracePeriodDays : Nat) (weather : Org → Weather) :
    List Org → Accounts Org → Accounts Org :=
  sweep (fun org => accountChange (left (expireItem now gracePeriodDays (weather org))))
    fun org row => expireStops now gracePeriodDays (weather org) row.2

/-! ### Runs -/

def stepAction (settings : Settings) (now : Moment) (accounts : Accounts Org) :
    Action Org → Option (Accounts Org)
  | .createSubscription org plan =>
      match accounts.find org, createSubscription now settings.trialPeriodDays plan with
      | none, .ok account => some (accounts.insertNew (org, account))
      | _, _ => some accounts
  | .request org requesting request =>
      -- Another organization's subscription is not found.
      if requesting.any (· ≠ org) then some accounts
      else some (touch accounts org (accountChange (committed (request.call now))))
  | .processDueRenewals listed renewals =>
      if listed.Perm (listRows (dueForRenewal now) accounts) then
        some (processDueRenewals now renewals listed accounts)
      else none
  | .lapseNonRenewingSubscriptions listed weather =>
      if listed.Perm (listRows (lapsedNonRenewing now) accounts) then
        some (lapseNonRenewingSubscriptions now weather listed accounts)
      else none
  | .expireLapsedSubscriptions listed weather =>
      if listed.Perm (listRows statusPastDue accounts) then
        some (expireLapsedSubscriptions now settings.gracePeriodDays weather listed accounts)
      else none

def step (settings : Settings) (billing : Billing Org) (event : Event Org) :
    Option (Billing Org) :=
  if billing.clock ≤ event.now then
    (stepAction settings event.now billing.accounts event.action).map (⟨event.now, ·⟩)
  else none

def Action.deedOn (action : Action Org) (org : Org) : Option Deed :=
  match action with
  | .createSubscription _ _ => none
  | .request owner _ asked => if org = owner then some (.request asked) else none
  | .processDueRenewals listed renewals =>
      if org ∈ listed then some (.item (.renew (renewals org))) else none
  | .lapseNonRenewingSubscriptions listed weather =>
      if org ∈ listed then some (.item (.lapse (weather org))) else none
  | .expireLapsedSubscriptions listed weather =>
      if org ∈ listed then some (.item (.expire (weather org))) else none

def Deed.due (now : Moment) (account : Account) (deed : Deed) : Bool :=
  match deed with
  | .request _ => true
  | .item (.renew _) => dueForRenewal now account
  | .item (.lapse _) => lapsedNonRenewing now account
  | .item (.expire _) => statusPastDue account

/-! ### What a step does to one account -/

theorem accountOf_touch (accounts : Accounts Org) (org other : Org)
    (change : Account → Account) :
    accountOf (touch accounts org (accountChange change)) other =
      if other = org then (accountOf accounts other).map change else accountOf accounts other := by
  simp only [accountOf, find_touch]
  split
  · cases accounts.find other <;> rfl
  · rfl

theorem mem_listRows (query : Account → Bool) (accounts : Accounts Org) (org : Org) :
    org ∈ listRows query accounts ↔
      ∃ account, accountOf accounts org = some account ∧ query account = true := by
  simp only [listRows, List.mem_map, List.mem_filter, accountOf]
  constructor
  · rintro ⟨row, ⟨member, selected⟩, rfl⟩
    exact ⟨row.2, by simp [find_of_mem accounts row member], selected⟩
  · rintro ⟨account, found, selected⟩
    obtain ⟨row, stored, rfl⟩ := Option.map_eq_some_iff.mp found
    obtain ⟨member, named⟩ := find_mem accounts org row stored
    exact ⟨row, ⟨member, selected⟩, named⟩

omit [DecidableEq Org] in
theorem listRows_nodup (query : Account → Bool) (accounts : Accounts Org) :
    (listRows query accounts).Nodup :=
  accounts.unique.sublist (List.filter_sublist.map Prod.fst)

theorem accountOf_sweep (accounts : Accounts Org) (query : Account → Bool)
    (listed : List Org) (work : Org → Account → Account) (stops : Org → Org × Account → Bool)
    (answered : listed.Perm (listRows query accounts)) :
    ∃ visited, (∀ org ∈ visited, org ∈ listed) ∧
      (∀ org, accountOf (sweep (fun org => accountChange (work org)) stops listed accounts) org =
        if org ∈ visited then (accountOf accounts org).map (work org) else accountOf accounts org) ∧
      ((∀ org ∈ listed, ∀ account, accountOf accounts org = some account →
        stops org (org, account) = false) → visited = listed) := by
  have distinct : listed.Nodup := answered.nodup_iff.mpr (listRows_nodup query accounts)
  obtain ⟨visited, front, effect, whole⟩ :=
    sweep_find (fun org => accountChange (work org)) stops listed accounts distinct
  refine ⟨visited, fun _ member => front.subset member, ?_, ?_⟩
  · intro org
    simp only [accountOf]
    rw [effect org]
    split
    · cases accounts.find org <;> rfl
    · rfl
  · intro never
    refine whole fun org member row found => ?_
    obtain rfl : row.1 = org := (find_mem accounts org row found).2
    exact never row.1 member row.2 (by simp [accountOf, found])

theorem accountOf_insertNew (accounts : Accounts Org) (org other : Org)
    (account : Account) (fresh : accounts.find org = none) :
    accountOf (accounts.insertNew (org, account)) other =
      if other = org then some account else accountOf accounts other := by
  have absent : org ∉ accounts.rows.map Prod.fst := by
    intro stored
    obtain ⟨row, member, rfl⟩ := List.mem_map.mp stored
    rw [find_of_mem accounts row member] at fresh
    cases fresh
  simp only [accountOf, Table.insertNew, absent, ↓reduceDIte]
  simp only [Table.find, List.find?_append] at fresh ⊢
  by_cases same : other = org
  · subst other
    simp [fresh]
  · have different : org ≠ other := fun equal => same equal.symm
    simp [same, different]

def Worked (settings : Settings) (event : Event Org) (before after : Accounts Org) (org : Org) :
    Prop :=
  ∃ account deed, accountOf before org = some account ∧ event.action.deedOn org = some deed ∧
    deed.due event.now account = true ∧
    accountOf after org = some (perform event.now settings.gracePeriodDays deed account)

theorem phase_account (settings : Settings) (event : Event Org) (accounts : Accounts Org)
    (query : Account → Bool) (listed : List Org) (items : Org → Item)
    (stops : Org → Org × Account → Bool)
    (answered : listed.Perm (listRows query accounts))
    (performs : ∀ org ∈ listed, event.action.deedOn org = some (.item (items org)))
    (queried : ∀ org account, Deed.due event.now account (.item (items org)) = query account)
    (org : Org) :
    accountOf (sweep (fun org => accountChange
        (left ((items org).call event.now settings.gracePeriodDays))) stops listed accounts) org =
      accountOf accounts org ∨
    Worked settings event accounts (sweep (fun org => accountChange
        (left ((items org).call event.now settings.gracePeriodDays))) stops listed accounts) org := by
  obtain ⟨visited, inside, effect, -⟩ := accountOf_sweep accounts query listed
    (fun org => left ((items org).call event.now settings.gracePeriodDays)) stops answered
  by_cases member : org ∈ visited
  · right
    obtain ⟨account, found, selected⟩ :=
      (mem_listRows query accounts org).mp (answered.mem_iff.mp (inside org member))
    refine ⟨account, .item (items org), found, performs org (inside org member), ?_, ?_⟩
    · rw [queried]
      exact selected
    · rw [effect org, if_pos member, found]
      rfl
  · left
    rw [effect org, if_neg member]

/-- An organization's account after an action: as it was, worked by the one operation the
action performs on it, or made by `create_subscription`. -/
theorem stepAction_account (settings : Settings) (accounts after : Accounts Org)
    (event : Event Org)
    (acted : stepAction settings event.now accounts event.action = some after) (org : Org) :
    accountOf after org = accountOf accounts org ∨ Worked settings event accounts after org ∨
      ∃ plan account, event.action = .createSubscription org plan ∧ accountOf accounts org = none ∧
        createSubscription event.now settings.trialPeriodDays plan = .ok account ∧
        accountOf after org = some account := by
  obtain ⟨now, action⟩ := event
  cases action with
  | createSubscription created plan =>
      simp only [stepAction] at acted
      split at acted
      · rename_i account fresh made
        cases acted
        have effect := accountOf_insertNew accounts created org account fresh
        by_cases same : org = created
        · subst org
          right; right
          refine ⟨plan, account, rfl, ?_, made, by simpa using effect⟩
          simp [accountOf, fresh]
        · left
          simpa [same] using effect
      · cases acted
        exact .inl rfl
  | request asked requesting request =>
      simp only [stepAction] at acted
      split at acted
      · cases acted
        exact .inl rfl
      · cases acted
        have effect := accountOf_touch accounts asked org (committed (request.call now))
        by_cases same : org = asked
        · rw [if_pos same] at effect
          cases found : accountOf accounts org with
          | none =>
              left
              rw [effect, found]
              rfl
          | some account =>
              right; left
              refine ⟨account, .request request, found, if_pos same, rfl, ?_⟩
              rw [effect, found]
              rfl
        · left
          rw [effect, if_neg same]
  | processDueRenewals listed renewals =>
      simp only [stepAction] at acted
      split at acted
      · rename_i answered
        cases acted
        exact (phase_account settings ⟨now, .processDueRenewals listed renewals⟩ accounts _ listed
          (fun org => .renew (renewals org)) _ answered (fun _ member => if_pos member)
          (fun _ _ => rfl) org).imp id .inl
      · cases acted
  | lapseNonRenewingSubscriptions listed weather =>
      simp only [stepAction] at acted
      split at acted
      · rename_i answered
        cases acted
        exact (phase_account settings ⟨now, .lapseNonRenewingSubscriptions listed weather⟩ accounts _
          listed (fun org => .lapse (weather org)) _ answered (fun _ member => if_pos member)
          (fun _ _ => rfl) org).imp id .inl
      · cases acted
  | expireLapsedSubscriptions listed weather =>
      simp only [stepAction] at acted
      split at acted
      · rename_i answered
        cases acted
        exact (phase_account settings ⟨now, .expireLapsedSubscriptions listed weather⟩ accounts _
          listed (fun org => .expire (weather org)) _ answered (fun _ member => if_pos member)
          (fun _ _ => rfl) org).imp id .inl
      · cases acted

theorem step_spec (settings : Settings) (billing next : Billing Org) (event : Event Org)
    (stepped : step settings billing event = some next) :
    billing.clock ≤ event.now ∧ next.clock = event.now ∧
      stepAction settings event.now billing.accounts event.action = some next.accounts := by
  unfold step at stepped
  split at stepped
  · rename_i later
    obtain ⟨accounts, acted, rfl⟩ := Option.map_eq_some_iff.mp stepped
    exact ⟨later, rfl, acted⟩
  · cases stepped

theorem step_account (settings : Settings) (billing next : Billing Org) (event : Event Org)
    (stepped : step settings billing event = some next) (org : Org) :
    next.account org = billing.account org ∨
      (∃ account deed after, billing.account org = some account ∧
        event.action.deedOn org = some deed ∧ deed.due event.now account = true ∧
        Effect event.now settings.gracePeriodDays account deed after ∧
        next.account org = some after) ∨
      (∃ plan account, billing.account org = none ∧
        createSubscription event.now settings.trialPeriodDays plan = .ok account ∧
        next.account org = some account) := by
  obtain ⟨-, -, acted⟩ := step_spec settings billing next event stepped
  rcases stepAction_account settings billing.accounts next.accounts event acted org with
    same | worked | created
  · exact .inl same
  · obtain ⟨account, deed, found, performs, due, left⟩ := worked
    rcases perform_effect event.now settings.gracePeriodDays account deed with unchanged | effect
    · left
      rw [unchanged] at left
      exact left.trans found.symm
    · right; left
      exact ⟨account, deed, _, found, performs, due, effect, left⟩
  · obtain ⟨plan, account, -, absent, made, left⟩ := created
    right; right
    exact ⟨plan, account, absent, made, left⟩

/-! ### Invariants of every account -/

def Event.Meets (allowed : Moment → Account → Deed → Prop) (billing : Billing Org)
    (event : Event Org) : Prop :=
  ∀ org account deed, billing.account org = some account → event.action.deedOn org = some deed →
    deed.due event.now account = true → allowed event.now account deed

abbrev Run (settings : Settings) (allowed : Moment → Account → Deed → Prop) (clock : Moment)
    (billing : Billing Org) : Prop :=
  Reached (step settings) (Event.Meets allowed) (Billing.started clock) billing

abbrev History (settings : Settings) (allowed : Moment → Account → Deed → Prop) (clock : Moment)
    (trace : List (Taken (Billing Org) (Event Org))) (billing : Billing Org) : Prop :=
  Traced (step settings) (Event.Meets allowed) (Billing.started clock) trace billing

theorem accounts_invariant (settings : Settings) (allowed : Moment → Account → Deed → Prop)
    (Holds : Account → Prop)
    (created : ∀ now plan account,
      createSubscription now settings.trialPeriodDays plan = .ok account → Holds account)
    (kept : ∀ now account deed after, Holds account → deed.due now account = true →
      allowed now account deed → Effect now settings.gracePeriodDays account deed after →
      Holds after)
    (clock : Moment) (billing : Billing Org) (run : Run settings allowed clock billing)
    (org : Org) (account : Account) (found : billing.account org = some account) :
    Holds account := by
  refine Reached.invariant (fun billing : Billing Org =>
    ∀ org account, billing.account org = some account → Holds account) ?_ ?_ run org account found
  · intro org account found
    cases found
  · intro billing event next holds meets stepped org account found
    rcases step_account settings billing next event stepped org with same | worked | made
    · exact holds org account (same.symm.trans found)
    · obtain ⟨before, deed, after, stored, performs, due, effect, left⟩ := worked
      obtain rfl : account = after := Option.some.inj (found.symm.trans left)
      exact kept event.now before deed account (holds org before stored) due
        (meets org before deed stored performs due) effect
    · obtain ⟨plan, fresh, -, made, left⟩ := made
      obtain rfl : account = fresh := Option.some.inj (found.symm.trans left)
      exact created event.now plan account made

section Executed

variable (settings : Settings) (allowed : Moment → Account → Deed → Prop)
  [∀ now account deed, Decidable (allowed now account deed)]

def meetsAlone (billing : Billing Unit) (event : Event Unit) : Bool :=
  match billing.account (), event.action.deedOn () with
  | some account, some deed => decide (allowed event.now account deed)
  | _, _ => true

theorem meetsAlone_sound (billing : Billing Unit) (event : Event Unit)
    (checked : meetsAlone allowed billing event = true) : event.Meets allowed billing := by
  intro org account deed found performs due
  unfold meetsAlone at checked
  rw [found, performs] at checked
  exact of_decide_eq_true checked

theorem executed_step (clock : Moment) (events : List (Event Unit)) (event : Event Unit)
    (observed : Billing Unit → Billing Unit → Bool)
    (executed : (run (step settings) (meetsAlone allowed) (Billing.started clock) events).any
      (fun billing => meetsAlone allowed billing event &&
        (step settings billing event).any (observed billing)) = true) :
    ∃ trace billing next, History settings allowed clock (trace ++ [⟨billing, event, next⟩]) next ∧
      observed billing next = true := by
  obtain ⟨billing, reached, seen⟩ := run_observed (step settings) (Billing.started clock)
    (meetsAlone allowed) _ (meetsAlone_sound allowed) events executed
  obtain ⟨trace, traced⟩ := reached.traced
  rw [Bool.and_eq_true] at seen
  cases stepped : step settings billing event with
  | none => simp [stepped] at seen
  | some next =>
      refine ⟨trace, billing, next, .next traced ?_ stepped, by simpa [stepped] using seen.2⟩
      exact meetsAlone_sound allowed billing event seen.1

/-! A monthly plan and instants some days apart, for runs that are executed. -/

def starterPlan : Plan := ⟨.starter, .monthly, 4900, true⟩

def day (number : Fin 100) : Moment :=
  ⟨number.val * 86400000000, by unfold firstMicros lastMicros; omega⟩

end Executed

theorem createSubscription_ok (now : Moment) (trialPeriodDays : Nat) (plan : Option Plan)
    (account : Account) (made : createSubscription now trialPeriodDays plan = .ok account) :
    ∃ found periodEnd, plan = some found ∧
      ((addDays now trialPeriodDays = some periodEnd ∧
          account = newAccount now found .trialing periodEnd (some periodEnd)) ∨
        (addBillingCycle now found.billingCycle = some periodEnd ∧
          account = newAccount now found .active periodEnd none)) := by
  unfold createSubscription at made
  split at made
  · cases made
  · rename_i found
    split at made
    · cases made
    · split at made
      · split at made
        · cases made
        · rename_i trialEnd added
          cases made
          exact ⟨found, trialEnd, rfl, .inl ⟨added, rfl⟩⟩
      · split at made
        · cases made
        · rename_i periodEnd added
          cases made
          exact ⟨found, periodEnd, rfl, .inr ⟨added, rfl⟩⟩

end CloudGuest.Subscriptions
