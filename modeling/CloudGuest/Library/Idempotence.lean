import Mathlib.Data.List.Basic

/-!
Requests delivered more than once. `Done state key` says that the request
`key` took effect before `state`. When a done request stays done and a further
delivery of it changes nothing, a run may leave out every delivery that comes
after a successful one of the same request.
-/

namespace CloudGuest.Idempotence

universe u v w
variable {State : Type u} {Action : Type v} {Key : Type w} [DecidableEq Key]
variable (step : State → Action → State) (request : Action → Option Key)
variable (succeeded : State → Action → Bool)

/-- The run without the deliveries whose request is among those `seen`. A
request is seen from its first delivery that `succeeded` on. -/
def deliveredOnce (seen : List Key) (state : State) : List Action → List Action
  | [] => []
  | action :: rest =>
      match request action with
      | none => action :: deliveredOnce seen (step state action) rest
      | some key =>
          if key ∈ seen then deliveredOnce seen (step state action) rest
          else
            let known := if succeeded state action then key :: seen else seen
            action :: deliveredOnce known (step state action) rest

theorem deliveredOnce_run (Done : State → Key → Prop)
    (success : ∀ state action key, succeeded state action = true →
      request action = some key → Done (step state action) key)
    (stable : ∀ state action key, Done state key → Done (step state action) key)
    (absorbed : ∀ state action key, Done state key → request action = some key →
      step state action = state)
    (seen : List Key) (state : State) (known : ∀ key ∈ seen, Done state key)
    (actions : List Action) :
    (deliveredOnce step request succeeded seen state actions).foldl step state =
      actions.foldl step state := by
  induction actions generalizing seen state with
  | nil => rfl
  | cons action rest ih =>
      have stays : ∀ key ∈ seen, Done (step state action) key := fun key member =>
        stable state action key (known key member)
      simp only [deliveredOnce]
      cases requested : request action with
      | none => exact ih seen (step state action) stays
      | some key =>
          dsimp only
          by_cases member : key ∈ seen
          · have same := absorbed state action key (known key member) requested
            rw [if_pos member, List.foldl_cons, same]
            exact ih seen state known
          · rw [if_neg member]
            refine ih _ (step state action) ?_
            by_cases won : succeeded state action = true
            · intro other added
              rw [if_pos won] at added
              rcases List.mem_cons.mp added with rfl | old
              · exact success state action other won requested
              · exact stays other old
            · rw [if_neg won]
              exact stays

end CloudGuest.Idempotence
