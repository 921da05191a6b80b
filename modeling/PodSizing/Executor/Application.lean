import PodSizing.Event
import PodSizing.Outcome
import PodSizing.Plan.Patch
import PodSizing.RuntimeError

/-!
# Applying one plan

A plan is applied by one call of the runtime with all its changes.  When the runtime rejects
dimensions that the plan lowers, these are skipped and the others are tried once more alone; no
other failure is tried again.  `Plan.begin` and `Plan.proceed` are the steps of this protocol:
which call comes first, and what follows from a reply.  `Plan.applyAlone` runs it to the end
against a runtime that replies to a request always in the same way.
-/

namespace PodSizing

/-- The reply to a call: success, or why it failed. -/
abbrev Reply := Except RuntimeError Unit

instance : DecidableEq Reply
  | .ok (), .ok () => .isTrue rfl
  | .ok (), .error _ => .isFalse (by simp)
  | .error _, .ok () => .isFalse (by simp)
  | .error first, .error second => decidable_of_iff (first = second) (by simp)

/-- A call of the runtime for a plan. -/
inductive Attempt where
  /-- The first call, with all changes of the plan. -/
  | whole
  /-- The second call, without the dimensions that the first reply refused. -/
  | reduced (refused : List Dimension)
  deriving DecidableEq

/-- How far a plan has come: it is done, or a call has to be made. -/
inductive Progress where
  | finished (statuses : Statuses)
  | calling (attempt : Attempt)
  deriving DecidableEq

namespace Plan

/-- The dimensions that a call is about. -/
def attempted (plan : Plan) : Attempt → List Dimension
  | .whole => plan.changing
  | .reduced refused => plan.changing.filter fun dimension => !refused.contains dimension

/-- What the runtime is asked for in a call. -/
def requestOf (plan : Plan) (attempt : Attempt) : ResizeRequest :=
  plan.request (plan.attempted attempt)

/-- The rejected dimensions that the plan lowers: only these can be meant. -/
def refused (plan : Plan) (rejected : List Dimension) : List Dimension :=
  plan.changing.filter fun dimension =>
    rejected.contains dimension && (plan.decisions.get dimension).isDecrease

/-- The statuses when all changing dimensions share one. -/
def allChanging (plan : Plan) (status : Status) : Statuses :=
  Statuses.unchanged.setAll plan.changing status

/-- The statuses when some dimensions were refused and the others share one status. -/
def apartFrom (plan : Plan) (refused : List Dimension) (status : Status) : Statuses :=
  (Statuses.unchanged.setAll refused (.skipped .decreaseNotPermitted)).setAll
    (plan.attempted (.reduced refused)) status

/-- The first step: nothing is sent for a plan without changes or in a dry run. -/
def begin (plan : Plan) (dryRun : Bool) : Progress :=
  if plan.changing.isEmpty then .finished .unchanged
  else if dryRun then .finished (plan.allChanging (.skipped .dryRun))
  else .calling .whole

/-- What follows from the reply to a call. -/
def proceed (plan : Plan) : Attempt → Reply → Progress
  | .whole, .ok () => .finished (plan.allChanging .applied)
  | .whole, .error (.rejected dimensions reason) =>
      let refused := plan.refused dimensions
      if refused.isEmpty then .finished (plan.allChanging (.failed reason))
      else if (plan.attempted (.reduced refused)).isEmpty then
        .finished (Statuses.unchanged.setAll refused (.skipped .decreaseNotPermitted))
      else .calling (.reduced refused)
  | .whole, .error error => .finished (plan.allChanging (.failed error.message))
  | .reduced refused, .ok () => .finished (plan.apartFrom refused .applied)
  | .reduced refused, .error error => .finished (plan.apartFrom refused (.failed error.message))

/-- The events of a step: a rejection that cannot be understood, and a second call. -/
def proceedEvents (plan : Plan) (attempt : Attempt) (reply : Reply) : List Event :=
  match attempt, reply with
  | .whole, .error (.rejected dimensions reason) =>
      let refused := plan.refused dimensions
      if refused.isEmpty then
        [{ severity := .warn
           message := "Rejection names no decreasing dimension, treating as failure"
           fields :=
             [("container", .text plan.container.toText),
              ("rejected", .text (Dimension.listText dimensions)), ("reason", .text reason)] }]
      else
        let permitted := plan.attempted (.reduced refused)
        if permitted.isEmpty then []
        else
          [{ severity := .debug
             message := "Retrying resize with permitted dimensions"
             fields :=
               [("container", .text plan.container.toText),
                ("refused", .text (Dimension.listText refused)),
                ("retrying", .text (Dimension.listText permitted))] }]
  | _, _ => []

/-- The statuses and the requests of a plan that is applied alone, when the runtime replies to
each request as the function says. -/
def applyAlone (plan : Plan) (dryRun : Bool) (reply : ResizeRequest → Reply) :
    Statuses × List ResizeRequest :=
  match plan.begin dryRun with
  | .finished statuses => (statuses, [])
  | .calling first =>
      let firstRequest := plan.requestOf first
      match plan.proceed first (reply firstRequest) with
      | .finished statuses => (statuses, [firstRequest])
      | .calling second =>
          let secondRequest := plan.requestOf second
          match plan.proceed second (reply secondRequest) with
          | .finished statuses => (statuses, [firstRequest, secondRequest])
          | .calling _ => (.unchanged, [firstRequest, secondRequest])

/-- After the second call the plan is done. -/
theorem proceed_reduced (plan : Plan) (refused : List Dimension) (reply : Reply) :
    ∃ statuses, plan.proceed (.reduced refused) reply = .finished statuses := by
  cases reply with
  | ok => exact ⟨_, rfl⟩
  | error error => exact ⟨_, rfl⟩

/-- The first call is about all changes of the plan. -/
theorem begin_eq_calling {plan : Plan} {dryRun : Bool} {attempt : Attempt}
    (h : plan.begin dryRun = .calling attempt) : attempt = .whole ∧ dryRun = false := by
  simp only [begin] at h
  split at h
  · simp at h
  · split at h <;> simp_all

/-- The statuses of a plan whose worker was lost. -/
def lostStatuses (plan : Plan) : Statuses :=
  plan.allChanging (.failed "resize worker aborted")

end Plan

end PodSizing
