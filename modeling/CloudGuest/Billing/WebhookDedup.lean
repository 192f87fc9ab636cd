import CloudGuest.Billing.PaymentEvents

/-!
What the dedup marks do to failed deliveries. The mark is set before the work
it guards and survives the rollback of that work, so the redelivery of a failed
event is answered as a duplicate and the event is lost; and Razorpay events that
come without an id share one key.

The runs below are those of events that come with an id of their own, are not
delivered again while the mark of a delivery that was rolled back stands, and meet
no exception once a redelivery of them has been answered as a duplicate. That every
acknowledged event is applied is then what the marks say.
-/

namespace CloudGuest.WebhookDedup
open Calendar Payments Webhooks Runs
open Subscriptions (Account Plan)

variable {Id : Type}

def underWay (system : System Id) : List (Event Id) := system.deliveries.map Handling.event

def Applied (system : System Id) (event : Event Id) : Prop :=
  ⟨event, .applied⟩ ∈ system.answers

/-- Some delivery of the event was answered with a 200, after which the provider redelivers it no
more. -/
def Acknowledged (system : System Id) (event : Event Id) : Prop :=
  ∃ answered ∈ system.answers, answered.event = event ∧ answered.answer ≠ .error

/-- Nothing is lost: what was acknowledged is applied, or still under way. No delivery was taken
for a redelivery of another event. -/
structure NothingLost (system : System Id) : Prop where
  own : ∀ answered ∈ system.answers, ∀ original, answered.answer = .duplicate original →
    original = answered.event
  heard : ∀ event, Acknowledged system event → event ∈ underWay system ∨ Applied system event

theorem underWay_ended (deliveries : List (Handling Id)) (delivery : Nat) (handling : Handling Id)
    (event : Event Id) (under : deliveries[delivery]? = some handling)
    (other : event ≠ handling.event) (member : event ∈ deliveries.map Handling.event) :
    event ∈ (deliveries.eraseIdx delivery).map Handling.event := by
  obtain ⟨kept, stored, rfl⟩ := List.mem_map.mp member
  obtain ⟨place, found⟩ := List.getElem?_of_mem stored
  refine List.mem_map_of_mem (List.mem_eraseIdx_iff_getElem?.mpr ⟨place, ?_, found⟩)
  rintro rfl
  rw [under] at found
  exact other (congrArg Handling.event (Option.some.inj found)).symm

/-! ### The condition -/

variable [DecidableEq Id]

instance (system : System Id) (event : Event Id) : Decidable (Applied system event) :=
  inferInstanceAs (Decidable (_ ∈ _))

instance (system : System Id) (event : Event Id) : Decidable (Acknowledged system event) :=
  inferInstanceAs (Decidable (∃ answered ∈ system.answers, _))

/-- The provider's own numbering: the event that it sends under an id. -/
abbrev Catalogue (Id : Type) := Provider → Id → Event Id

def isNumbered (sent : Catalogue Id) (event : Event Id) : Bool :=
  event.eventId.any fun id => sent event.provider id = event

def isRepeated (system : System Id) (event : Event Id) : Bool :=
  system.answers.any fun answered => answered.event = event && answered.answer ≠ .applied &&
    answered.answer ≠ .error

theorem numbered_once {sent : Catalogue Id} {left right : Event Id} (first : isNumbered sent left = true)
    (second : isNumbered sent right = true) (same : left.key = right.key) : left = right := by
  obtain ⟨provider, id⟩ := Prod.mk.inj same
  simp only [isNumbered, Option.any_eq_true, decide_eq_true_eq] at first second
  obtain ⟨number, named, sentFirst⟩ := first
  obtain ⟨other, alsoNamed, sentSecond⟩ := second
  obtain rfl := Option.some.inj (named.symm.trans (id.trans alsoNamed))
  rw [← sentFirst, ← sentSecond, provider]

def careful (sent : Catalogue Id) (system : System Id) : Action Id → Bool
  | .deliver event =>
      isNumbered sent event && (marked system.marks event).all fun mark => !mark.rolledBack
  | .finish delivery now plan =>
      (system.deliveries[delivery]?).all fun handling =>
        (handling.apply now plan system.books).isSome || !isRepeated system handling.event
  | .fail delivery =>
      (system.deliveries[delivery]?).all fun handling => !isRepeated system handling.event
  | _ => true

/-! ### The invariant -/

variable {sent : Catalogue Id}

/-- Every mark is of a numbered event, and what was not rolled back is under way or applied. -/
structure Sound (sent : Catalogue Id) (system : System Id) : Prop extends NothingLost system where
  numbered : ∀ mark ∈ system.marks, isNumbered sent mark.setBy = true
  marks : ∀ mark ∈ system.marks, mark.rolledBack = false →
    mark.setBy ∈ underWay system ∨ Applied system mark.setBy

theorem sound_started (accounts : List Account) : Sound sent (System.started accounts : System Id) := by
  constructor
  · constructor
    · simp [System.started]
    · rintro event ⟨answered, member, -⟩
      simp [System.started] at member
  · simp [System.started]
  · simp [System.started]

theorem sound_aside (before after : System Id) (sound : Sound sent before)
    (marks : after.marks = before.marks) (events : underWay after = underWay before)
    (answers : after.answers = before.answers) : Sound sent after := by
  constructor
  · constructor
    · rw [answers]
      exact sound.own
    · unfold Acknowledged Applied
      rw [answers, events]
      exact sound.heard
  · rw [marks]
    exact sound.numbered
  · unfold Applied
    rw [marks, answers, events]
    exact sound.marks

/-! ### Steps -/

theorem sound_deliver (system : System Id) (event : Event Id) (sound : Sound sent system)
    (numbered : isNumbered sent event = true)
    (standing : ((marked system.marks event).all fun mark => !mark.rolledBack) = true) :
    Sound sent (deliver system event) := by
  unfold deliver
  split
  · rename_i mark found
    rw [found, Option.all_some, Bool.not_eq_true'] at standing
    have stored := List.mem_of_find?_eq_some found
    have key : mark.setBy.key = event.key := by simpa using List.find?_some found
    have same : mark.setBy = event := numbered_once (sound.numbered mark stored) numbered key
    have covered : event ∈ underWay system ∨ Applied system event := same ▸ sound.marks mark stored standing
    constructor
    · constructor
      · intro answered member original duplicate
        rcases List.mem_append.mp member with earlier | last
        · exact sound.own answered earlier original duplicate
        · obtain rfl := List.mem_singleton.mp last
          cases duplicate
          exact same
      · rintro event ⟨answered, member, rfl, unfailed⟩
        rcases List.mem_append.mp member with earlier | last
        · exact (sound.heard _ ⟨answered, earlier, rfl, unfailed⟩).imp_right (List.mem_append_left _)
        · obtain rfl := List.mem_singleton.mp last
          exact covered.imp_right (List.mem_append_left _)
    · exact sound.numbered
    · intro mark member kept
      exact (sound.marks mark member kept).imp_right (List.mem_append_left _)
  · have grown : ∀ other, other ∈ underWay system → other ∈ (system.deliveries ++
        [(⟨event, lookUp system.books.payments event, none⟩ : Handling Id)]).map
          Handling.event := by
      intro other member
      rw [List.map_append]
      exact List.mem_append_left _ member
    constructor
    · exact ⟨sound.own, fun other heard => (sound.heard other heard).imp_left (grown other)⟩
    · intro mark member
      rcases List.mem_append.mp member with earlier | last
      · exact sound.numbered mark earlier
      · obtain rfl := List.mem_singleton.mp last
        exact numbered
    · intro mark member kept
      rcases List.mem_append.mp member with earlier | last
      · exact (sound.marks mark earlier kept).imp_left (grown mark.setBy)
      · obtain rfl := List.mem_singleton.mp last
        exact .inl (by simp [underWay])

theorem sound_applied (system : System Id) (delivery : Nat) (handling : Handling Id)
    (books : Books Id) (sound : Sound sent system)
    (under : system.deliveries[delivery]? = some handling) :
    Sound sent { system with
      books
      deliveries := system.deliveries.eraseIdx delivery
      answers := system.answers ++ [⟨handling.event, .applied⟩] } := by
  have covered : ∀ event, event ∈ underWay system ∨ Applied system event →
      event ∈ (system.deliveries.eraseIdx delivery).map Handling.event ∨
        (⟨event, .applied⟩ : Answered Id) ∈ system.answers ++ [⟨handling.event, .applied⟩] := by
    intro event standing
    by_cases same : event = handling.event
    · rw [same]
      exact .inr (List.mem_append_right _ (List.mem_singleton_self _))
    · exact standing.imp (underWay_ended _ _ _ _ under same) (List.mem_append_left _)
  constructor
  · constructor
    · intro answered member original same
      rcases List.mem_append.mp member with earlier | last
      · exact sound.own answered earlier original same
      · obtain rfl := List.mem_singleton.mp last
        cases same
    · rintro event ⟨answered, member, rfl, unfailed⟩
      rcases List.mem_append.mp member with earlier | last
      · exact covered _ (sound.heard _ ⟨answered, earlier, rfl, unfailed⟩)
      · obtain rfl := List.mem_singleton.mp last
        exact .inr (List.mem_append_right _ (List.mem_singleton_self _))
  · exact sound.numbered
  · intro mark member kept
    exact covered _ (sound.marks mark member kept)

theorem applied_of_first (system : System Id) (event : Event Id) (first : isRepeated system event = false)
    (acknowledged : Acknowledged system event) : Applied system event := by
  -- An acknowledged event that no redelivery was taken for a duplicate of has been applied.
  obtain ⟨answered, member, rfl, unfailed⟩ := acknowledged
  have answer : answered.answer = .applied := by
    by_contra unapplied
    have original := List.any_eq_false.mp first answered member
    simp [unapplied, unfailed] at original
  unfold Applied
  rw [← answer]
  exact member

theorem sound_rollBack (system : System Id) (delivery : Nat) (handling : Handling Id)
    (sound : Sound sent system) (under : system.deliveries[delivery]? = some handling)
    (first : isRepeated system handling.event = false) : Sound sent (rollBack system delivery handling) := by
  -- A delivery is rolled back: its own mark, if it still stands, now says so.
  have covered : ∀ event, event ≠ handling.event →
      event ∈ underWay system ∨ Applied system event →
      event ∈ (system.deliveries.eraseIdx delivery).map Handling.event ∨
        (⟨event, .applied⟩ : Answered Id) ∈ system.answers ++ [⟨handling.event, .error⟩] :=
    fun event other standing =>
      standing.imp (underWay_ended _ _ _ _ under other) (List.mem_append_left _)
  constructor
  · constructor
    · intro answered member original same
      rcases List.mem_append.mp member with earlier | last
      · exact sound.own answered earlier original same
      · obtain rfl := List.mem_singleton.mp last
        cases same
    · rintro event ⟨answered, member, rfl, unfailed⟩
      rcases List.mem_append.mp member with earlier | last
      · have acknowledged : Acknowledged system answered.event := ⟨answered, earlier, rfl, unfailed⟩
        by_cases same : answered.event = handling.event
        · rw [same] at acknowledged ⊢
          exact .inr (List.mem_append_left _ (applied_of_first system _ first acknowledged))
        · exact covered _ same (sound.heard _ acknowledged)
      · obtain rfl := List.mem_singleton.mp last
        exact absurd rfl unfailed
  · intro mark member
    obtain ⟨old, stored, rfl⟩ := List.mem_map.mp member
    split <;> exact sound.numbered old stored
  · intro mark member kept
    obtain ⟨old, stored, rfl⟩ := List.mem_map.mp member
    by_cases keyed : old.setBy.key = handling.event.key
    · simp [keyed] at kept
    · simp only [keyed, ↓reduceIte] at kept ⊢
      refine covered _ (fun same => keyed (congrArg Event.key same)) (sound.marks old stored kept)

theorem sound_step (system next : System Id) (action : Action Id) (sound : Sound sent system)
    (cared : careful sent system action = true) (stepped : step system action = some next) :
    Sound sent next := by
  cases action with
  | deliver event =>
      cases stepped
      obtain ⟨numbered, standing⟩ := (Bool.and_eq_true _ _).mp cared
      exact sound_deliver system event sound numbered standing
  | expireMark place =>
      cases stepped
      constructor
      · exact ⟨sound.own, sound.heard⟩
      · exact fun mark member => sound.numbered mark (List.mem_of_mem_eraseIdx member)
      · intro mark member kept
        exact sound.marks mark (List.mem_of_mem_eraseIdx member) kept
  | listUnpaid delivery =>
      obtain ⟨handling, under, stepped⟩ := Option.bind_eq_some_iff.mp stepped
      split at stepped
      · cases stepped
        refine sound_aside system _ sound rfl ?_ rfl
        simp only [underWay, List.map_set, chooseInvoice]
        apply List.ext_getElem?
        intro place
        by_cases here : delivery = place
        · subst here
          obtain ⟨inside, same⟩ := List.getElem?_eq_some_iff.mp under
          simp [inside, same]
        · simp [here]
      · cases stepped
  | finish delivery now plan =>
      obtain ⟨handling, under, stepped⟩ := Option.bind_eq_some_iff.mp stepped
      simp only [careful, under, Option.all_some, Bool.or_eq_true] at cared
      split at stepped
      · cases stepped
      · cases stepped
        unfold finish
        split
        · exact sound_applied system delivery handling _ sound under
        · rename_i failed
          rw [failed] at cared
          exact sound_rollBack system delivery handling sound under (by simpa using cared)
  | fail delivery =>
      obtain ⟨handling, under, rfl⟩ := Option.map_eq_some_iff.mp stepped
      simp only [careful, under, Option.all_some, Bool.not_eq_true'] at cared
      exact sound_rollBack system delivery handling sound under cared
  | startRefund row =>
      obtain ⟨found, -, stepped⟩ := Option.bind_eq_some_iff.mp stepped
      split at stepped
      · cases stepped
        exact sound_aside system _ sound rfl rfl rfl
      · cases stepped
  | commitRefund refund amount =>
      obtain ⟨snapshot, -, stepped⟩ := Option.bind_eq_some_iff.mp stepped
      obtain ⟨assigned, -, rfl⟩ := Option.map_eq_some_iff.mp stepped
      exact sound_aside system _ sound rfl rfl rfl
  | startRetry row =>
      obtain ⟨found, -, stepped⟩ := Option.bind_eq_some_iff.mp stepped
      split at stepped
      · cases stepped
        exact sound_aside system _ sound rfl rfl rfl
      · cases stepped
  | commitRetry retry answer paymentId =>
      obtain ⟨snapshot, -, stepped⟩ := Option.bind_eq_some_iff.mp stepped
      obtain ⟨assigned, -, rfl⟩ := Option.map_eq_some_iff.mp stepped
      exact sound_aside system _ sound rfl rfl rfl
  | initiatePayment organization subscription amount answer paymentId =>
      simp only [step] at stepped
      split at stepped
      · cases stepped
      · cases stepped
        exact sound_aside system _ sound rfl rfl rfl
  | renew now organization attempt paymentId =>
      obtain ⟨account, -, stepped⟩ := Option.bind_eq_some_iff.mp stepped
      split at stepped
      · cases stepped
        exact sound_aside system _ sound rfl rfl rfl
      · cases stepped
  | _ =>
      cases stepped
      exact sound_aside system _ sound rfl rfl rfl

/-- Where the events of a provider are numbered, and the run is careful, every acknowledged event is
applied or still under way, and none was taken for another. -/
theorem acknowledged_events_applied (sent : Catalogue Id) (accounts : List Account) (system : System Id)
    (reached : Reached step (fun system action => careful sent system action = true)
      (System.started accounts) system) : NothingLost system := by
  have sound : Sound sent system := by
    apply Reached.invariant (Sound sent) (sound_started accounts) _ reached
    intro state action next held cared stepped
    exact sound_step state next action held cared stepped
  exact sound.toNothingLost

section Executed

open RenewalCharges (monthly)
open Subscriptions (day starterPlan)
open PaymentEvents (renewFirst stripeEvent)

def onePayment : Catalogue Nat := fun provider id => ⟨provider, some id, .captured, some 7, none⟩

/-- A delivery raises; its mark runs out, the event is delivered again and applied, and a further
delivery is a duplicate. -/
theorem acknowledged_events_applied_redelivered :
    ∃ system : System Nat,
      Reached step (fun system action => careful onePayment system action = true)
        (System.started [monthly])
        system ∧
      system.answers.map Answered.answer =
        [.error, .applied, .duplicate (stripeEvent 1 .captured)] ∧
      NothingLost system := by
  obtain ⟨system, reached, seen⟩ := run_observed step (System.started [monthly])
    (fun system action => careful onePayment system action)
    (fun system => system.answers.map Answered.answer =
      [.error, .applied, .duplicate (stripeEvent 1 .captured)])
    (fun _ _ checked => checked)
    [renewFirst .pending, .deliver (stripeEvent 1 .captured), .fail 0, .expireMark 0,
      .deliver (stripeEvent 1 .captured), .listUnpaid 0, .finish 0 (day 32) (some starterPlan),
      .deliver (stripeEvent 1 .captured)] (by decide +kernel)
  exact ⟨system, reached, by simpa using seen, acknowledged_events_applied onePayment [monthly] system reached⟩

def namelessEvent (paymentId : Nat) : Event Nat := ⟨.razorpay, none, .captured, some paymentId, none⟩

/-- A delivery raises and its redelivery, answered as a duplicate, is the last: the event is lost.
Of two Razorpay events without an id, the second is taken for the first. -/
theorem rolled_back_event_lost :
    (∃ system : System Nat,
      Reached step (fun _ _ => True) (System.started [monthly]) system ∧
      Acknowledged system (stripeEvent 1 .captured) ∧ underWay system = [] ∧
      ¬ Applied system (stripeEvent 1 .captured)) ∧
    (∃ system : System Nat,
      Reached step (fun _ _ => True) (System.started [monthly]) system ∧
      ⟨namelessEvent 8, .duplicate (namelessEvent 7)⟩ ∈ system.answers) := by
  constructor
  · obtain ⟨system, reached, seen⟩ := run_observed step (System.started [monthly])
      (fun _ _ => true)
      (fun system => Acknowledged system (stripeEvent 1 .captured) && underWay system = [] &&
        !decide (Applied system (stripeEvent 1 .captured)))
      (fun _ _ _ => trivial)
      [renewFirst .pending, .deliver (stripeEvent 1 .captured), .fail 0,
        .deliver (stripeEvent 1 .captured)] (by decide +kernel)
    simp only [Bool.and_eq_true, Bool.not_eq_true', decide_eq_true_eq,
      decide_eq_false_iff_not] at seen
    exact ⟨system, reached, seen.1.1, seen.1.2, seen.2⟩
  · obtain ⟨system, reached, seen⟩ := run_observed step (System.started [monthly])
      (fun _ _ => true)
      (fun system => ⟨namelessEvent 8, .duplicate (namelessEvent 7)⟩ ∈ system.answers)
      (fun _ _ _ => trivial)
      [renewFirst .pending, .deliver (namelessEvent 7), .listUnpaid 0,
        .finish 0 (day 32) (some starterPlan), .deliver (namelessEvent 8)] (by decide +kernel)
    exact ⟨system, reached, by simpa using seen⟩

end Executed

end CloudGuest.WebhookDedup
