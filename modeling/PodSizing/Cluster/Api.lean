import PodSizing.Json.Reader
import PodSizing.Json.Record
import PodSizing.Text.Quoted

/-!
# The API of the cluster

Requests to the API server and what its replies mean.  A reply with an error status is an error
that the body describes, or failing that the status itself; any other reply has to carry the
JSON that was asked for.  A request whose target is not the text of a URI is not sent.
-/

namespace PodSizing

/-- A request to the API server. -/
structure ApiRequest where
  method : String
  /-- The path and the query. -/
  target : String
  /-- The type of the body and the body itself. -/
  content : Option (String × Json)

/-- What comes back. -/
inductive ApiReply where
  | answer (status : Nat) (body : String)
  /-- The exchange itself failed. -/
  | broken (message : String)
  deriving DecidableEq

/-- An error as the API server describes it. -/
structure ApiStatus where
  status : String
  message : String
  reason : String
  code : Nat
  deriving DecidableEq

/-- Why a request brought no result. -/
inductive ApiError where
  | refused (status : ApiStatus)
  | broken (message : String)
  /-- The body is not what was asked for. -/
  | unreadable (fault : Json.Fault)
  /-- The target is not the text of a URI, so that the request was not sent. -/
  | invalidTarget (reason : String)
  deriving DecidableEq

namespace ApiStatus

/-- The error that a body describes. -/
def ofJson? (json : Json) : Option ApiStatus := do
  match ← Json.entries? ["status", "message", "reason", "code"] json with
  | [status, message, reason, code] =>
      some
        { status := ← Json.required Json.asText? status
          message := ← Json.withDefault "" Json.asText? message
          reason := ← Json.withDefault "" Json.asText? reason
          code := ← Json.required (Json.asNatBelow? (Nat.pow 2 16)) code }
  | _ => none

/-- The form of an error as the API server describes it. -/
def form : Json.Form ApiStatus where
  shape :=
    .record "ErrorResponse"
      [("status", false, .text), ("message", true, .text), ("reason", true, .text),
       ("code", false, .natural16)]
  ofJson? := ofJson?

/-- The words that go with a code of an error status. -/
def phrase : Nat → String
  | 400 => "Bad Request"
  | 401 => "Unauthorized"
  | 402 => "Payment Required"
  | 403 => "Forbidden"
  | 404 => "Not Found"
  | 405 => "Method Not Allowed"
  | 406 => "Not Acceptable"
  | 407 => "Proxy Authentication Required"
  | 408 => "Request Timeout"
  | 409 => "Conflict"
  | 410 => "Gone"
  | 411 => "Length Required"
  | 412 => "Precondition Failed"
  | 413 => "Payload Too Large"
  | 414 => "URI Too Long"
  | 415 => "Unsupported Media Type"
  | 416 => "Range Not Satisfiable"
  | 417 => "Expectation Failed"
  | 418 => "I'm a teapot"
  | 421 => "Misdirected Request"
  | 422 => "Unprocessable Entity"
  | 423 => "Locked"
  | 424 => "Failed Dependency"
  | 426 => "Upgrade Required"
  | 428 => "Precondition Required"
  | 429 => "Too Many Requests"
  | 431 => "Request Header Fields Too Large"
  | 451 => "Unavailable For Legal Reasons"
  | 500 => "Internal Server Error"
  | 501 => "Not Implemented"
  | 502 => "Bad Gateway"
  | 503 => "Service Unavailable"
  | 504 => "Gateway Timeout"
  | 505 => "HTTP Version Not Supported"
  | 506 => "Variant Also Negotiates"
  | 507 => "Insufficient Storage"
  | 508 => "Loop Detected"
  | 510 => "Not Extended"
  | 511 => "Network Authentication Required"
  | _ => "<unknown status code>"

/-- The error that stands for a body that describes none. -/
def ofText (code : Nat) (body : String) : ApiStatus where
  status := toString code ++ " " ++ phrase code
  message := Text.quoted body
  reason := "Failed to parse error data"
  code := code

/-- The error of an answer with an error status. -/
def ofAnswer (code : Nat) (body : String) : ApiStatus :=
  (form.read body).toOption.getD (ofText code body)

/-- Message and reason. -/
def brief (status : ApiStatus) : String := status.message ++ ": " ++ status.reason

/-- All parts, by name. -/
def fullText (status : ApiStatus) : String :=
  "ErrorResponse \x7b status: " ++ Text.quoted status.status ++ ", message: " ++
    Text.quoted status.message ++ ", reason: " ++ Text.quoted status.reason ++ ", code: " ++
    toString status.code ++ " \x7d"

end ApiStatus

namespace ApiError

/-- The text of an error. -/
def message : ApiError → String
  | .refused status => "ApiError: " ++ status.brief ++ " (" ++ status.fullText ++ ")"
  | .broken message => "ServiceError: " ++ message
  | .unreadable _ => "Error deserializing response"
  | .invalidTarget reason => "Failed to build request: failed to build request: " ++ reason

/-- The text of an error followed by its causes, where it has some of its own. -/
def chain (error : ApiError) : String :=
  match error with
  | .refused status => error.message ++ ": " ++ status.brief
  | .broken message => error.message ++ ": " ++ message
  | .unreadable fault => error.message ++ ": " ++ fault.message
  | .invalidTarget reason =>
      error.message ++ ": failed to build request: " ++ reason ++ ": " ++ reason

end ApiError

namespace ApiRequest

/-- The character may stand in the path of a URI. -/
def isPathChar (c : Char) : Bool :=
  c == '!' || c == '"' || ('$' ≤ c && c ≤ ';') || c == '=' || ('@' ≤ c && c ≤ '_') ||
    ('a' ≤ c && c ≤ '~')

/-- The character may stand in the query of a URI. -/
def isQueryChar (c : Char) : Bool :=
  c == '!' || ('$' ≤ c && c ≤ ';') || c == '=' || ('?' ≤ c && c ≤ '~')

/-- The target up to the fragment. -/
def sentTarget (request : ApiRequest) : List Char :=
  request.target.toList.takeWhile (· != '#')

/-- The path alone. -/
def path (request : ApiRequest) : String :=
  String.ofList (request.sentTarget.takeWhile (· != '?'))

/-- The most bytes that a URI may have. -/
def maxTargetBytes : Nat := 65534

/-- What keeps the target from being the text of a URI. -/
def targetFault? (request : ApiRequest) : Option String :=
  if maxTargetBytes < request.target.utf8ByteSize then some "uri too long"
  else if (request.sentTarget.takeWhile (· != '?')).all isPathChar &&
      (request.sentTarget.dropWhile (· != '?')).all isQueryChar then none
  else some "invalid uri character"

end ApiRequest

/-- The statuses of errors. -/
def ApiReply.isErrorStatus (status : Nat) : Bool := 400 ≤ status && status < 600

/-- The result that a reply carries. -/
def ApiReply.read {α : Type} (form : Json.Form α) : ApiReply → Except ApiError α
  | .answer status body =>
      if isErrorStatus status then .error (.refused (.ofAnswer status body))
      else (form.read body).mapError .unreadable
  | .broken message => .error (.broken message)

/-- What a request brings, when requests are answered by the given exchange. -/
def ApiRequest.send {σ α : Type} (request : ApiRequest) (form : Json.Form α)
    (exchange : ApiRequest → StateM σ ApiReply) : StateM σ (Except ApiError α) := do
  match request.targetFault? with
  | none => return (← exchange request).read form
  | some reason => return .error (.invalidTarget reason)

end PodSizing
