import PodSizing.Plan.Patch
import PodSizing.RuntimeError
import PodSizing.Text.Phrase

/-!
# Refusals of the API server

The API server refuses to lower the resources of a running container with a message that names
the dimension or none.  Such a refusal is told from all other errors by its code and its words.
-/

namespace PodSizing

namespace Refusal

/-- The words that say that a value cannot be lowered in place. -/
def decreasePhrases : List String := ["cannot be decreased", "decrease not permitted"]

/-- The answer says that a value cannot be lowered in place. -/
def isOfDecrease (code : Nat) (message : String) : Bool :=
  (code == 403 || code == 422) && decreasePhrases.any (Text.mentions message)

/-- The dimensions lowered by a request that a refusal names, or all that the request lowers when
it names none of them. -/
def refusedDimensions (message : String) (request : ResizeRequest) : List Dimension :=
  let named := request.decreasing.filter fun dimension => Text.mentions message dimension.name
  if named.isEmpty then request.decreasing else named

end Refusal

/-- What an error answer of the API server means for a request: a rejection of dimensions that
cannot be lowered, or a failure of the whole call. -/
def RuntimeError.ofAnswer (code : Nat) (message : String) (request : ResizeRequest) :
    RuntimeError :=
  if Refusal.isOfDecrease code message && !request.decreasing.isEmpty then
    .rejected (Refusal.refusedDimensions message request) message
  else
    .failed (message ++ " (" ++ toString code ++ ")")

end PodSizing
