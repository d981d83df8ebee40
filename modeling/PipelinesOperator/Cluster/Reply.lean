import PipelinesOperator.Cluster.Request
import PipelinesOperator.JsonText.Read

/-!
# Reading replies

A response with a code from 400 to 599 is an error.  Its text should be the record of the
error; a text that is none becomes the message of a record made up for it.  Any other
response has to read as the object that was asked for.

## Main definitions

* `ApiError.shape`: the record of an error
* `Reply.read`: the object that a reply holds
-/

namespace PipelinesOperator

/-- The phrase that goes with the code of an error. -/
def phrase? : Nat → Option String
  | 400 => some "Bad Request"
  | 401 => some "Unauthorized"
  | 402 => some "Payment Required"
  | 403 => some "Forbidden"
  | 404 => some "Not Found"
  | 405 => some "Method Not Allowed"
  | 406 => some "Not Acceptable"
  | 407 => some "Proxy Authentication Required"
  | 408 => some "Request Timeout"
  | 409 => some "Conflict"
  | 410 => some "Gone"
  | 411 => some "Length Required"
  | 412 => some "Precondition Failed"
  | 413 => some "Payload Too Large"
  | 414 => some "URI Too Long"
  | 415 => some "Unsupported Media Type"
  | 416 => some "Range Not Satisfiable"
  | 417 => some "Expectation Failed"
  | 418 => some "I'm a teapot"
  | 421 => some "Misdirected Request"
  | 422 => some "Unprocessable Entity"
  | 423 => some "Locked"
  | 424 => some "Failed Dependency"
  | 425 => some "Too Early"
  | 426 => some "Upgrade Required"
  | 428 => some "Precondition Required"
  | 429 => some "Too Many Requests"
  | 431 => some "Request Header Fields Too Large"
  | 451 => some "Unavailable For Legal Reasons"
  | 500 => some "Internal Server Error"
  | 501 => some "Not Implemented"
  | 502 => some "Bad Gateway"
  | 503 => some "Service Unavailable"
  | 504 => some "Gateway Timeout"
  | 505 => some "HTTP Version Not Supported"
  | 506 => some "Variant Also Negotiates"
  | 507 => some "Insufficient Storage"
  | 508 => some "Loop Detected"
  | 510 => some "Not Extended"
  | 511 => some "Network Authentication Required"
  | _ => none

namespace ApiError

/-- The shape of the record of an error. -/
def shape : Shape ApiError :=
  .struct "ErrorResponse"
    (.cons (.required "status" none) .text <|
     .cons (.defaulted "message" "" none) .text <|
     .cons (.defaulted "reason" "" none) .text <|
     .cons (.required "code" none) .nat16 .nil)
    (fun (a, b, c, d, _) => ⟨a, b, c, d⟩)
    (fun e => (e.status, e.message, e.reason, e.code, ()))

/-- The record made up for an error whose text is none. -/
def unparsed (code : UInt16) (text : String) : ApiError where
  status := toString code ++ " " ++ (phrase? code.toNat).getD "<unknown status code>"
  message := Text.quoted text
  reason := "Failed to parse error data"
  code := code

/-- The error of a response. -/
def ofResponse (code : UInt16) (text : String) : ApiError :=
  match JsonText.read shape text.toList with
  | .ok e => e
  | .error _ => unparsed code text

/-- Whether the error says that the object does not exist. -/
def isNotFound (e : ApiError) : Bool := e.reason = "NotFound"

/-- Whether the error says that the object exists already. -/
def isConflict (e : ApiError) : Bool := e.code = 409

end ApiError

/-- The object that a reply holds. -/
def Reply.read {α : Type} (shape : Shape α) : Reply → Except ClusterFault α
  | .unreachable message => .error (.service message)
  | .response code text =>
    -- Any other code is taken for success, and its text for the object.
    if 400 ≤ code ∧ code ≤ 599 then .error (.api (.ofResponse code text))
    else (JsonText.read shape text.toList).mapError fun f =>
      .undecodable (JsonText.describe text.toList f)

end PipelinesOperator
