import PodSizing.Cluster.Refusal
import PodSizing.Executor.Application

/-!
# Scripted replies

A script says how a runtime replies, and after which time: the first rule whose conditions all
hold is used, and a call that no rule speaks of succeeds at once.
-/

namespace PodSizing.Simulation

/-- What a rule makes of a call. -/
inductive Answer where
  | given (reply : Reply)
  /-- Rejects the dimensions that the request lowers; succeeds when there are none. -/
  | rejectDecreases (reason : String)
  /-- The error answer of an API server. -/
  | apiError (code : Nat) (message : String)
  /-- The worker breaks down. -/
  | breakDown

/-- A rule for the calls that meet all its conditions. -/
structure Rule where
  namespaceName : Option String
  pod : Option String
  container : Option String
  /-- The number of earlier calls for the container. -/
  attempt : Option Nat
  /-- The dimensions of the request, in order. -/
  dimensions : Option (List Dimension)
  delay : Duration
  answer : Answer

/-- A condition holds when it is not given or gives this value. -/
def allows {α : Type} [DecidableEq α] (condition : Option α) (value : α) : Bool :=
  condition.all (· == value)

namespace Rule

/-- The rule is about this call. -/
def applies (rule : Rule) (attempt : Nat) (request : ResizeRequest) : Bool :=
  allows rule.namespaceName request.container.pod.namespaceName &&
    allows rule.pod request.container.pod.name &&
    allows rule.container request.container.container &&
    allows rule.attempt attempt &&
    allows rule.dimensions request.dimensions

end Rule

/-- The reply that an answer gives to a request; there is none when the worker breaks down. -/
def Answer.replyTo? (request : ResizeRequest) : Answer → Option Reply
  | .given reply => some reply
  | .rejectDecreases reason =>
      if request.decreasing.isEmpty then some (.ok ())
      else some (.error (.rejected request.decreasing reason))
  | .apiError code message => some (.error (.ofAnswer code message request))
  | .breakDown => none

/-- Rules, of which the first that applies counts. -/
abbrev Script := List Rule

/-- The time that a call takes and the reply to it. -/
def Script.reply (script : Script) (attempt : Nat) (request : ResizeRequest) :
    Duration × Option Reply :=
  match script.find? fun rule => rule.applies attempt request with
  | some rule => (rule.delay, rule.answer.replyTo? request)
  | none => (.zero, some (.ok ()))

end PodSizing.Simulation
