import Autoresponder.Proofs.Effects
import Autoresponder.Proofs.PlaceholderFilling

/-!
# The requests of API nodes

An API call upper-cases its method and refuses, without a request, any method but GET, POST,
PUT, PATCH and DELETE (`run_unsupported`). Otherwise it fills the placeholders of the endpoint,
the header values and the body, and makes one request of up to three attempts, tried again only
while the connection fails (`request_attempts`). The same request is logged at each attempt,
and the call returns the answer's status and data, or the failure's text with status 0, and
never raises once the client can make the request (`ClientTakes`).

What the request carries is decided by the filled body (`payloadOf_raw_iff`,
`payloadOf_json_iff`): a text that is not blank and not JSON goes as raw content, whatever the
method; any other body goes as JSON, read from its text when it is a text, unless it is null or
the empty text, and never with GET.

Main statement (`api_call_requests`); a GET call whose body is plain text sends that text
(`getWithText_sends_content`).
-/

namespace Autoresponder

open Autoresponder.Text Autoresponder.Op

/-- Whether an answer is a failed connection. -/
def Answer.failed : Answer → Bool
  | .unreachable _ => true
  | .respond _ _ => false

/-- What one attempt gives: the status and the data of a response (its JSON, or its text when
that is not JSON), or the text of the failure. -/
def Answer.outcome : Answer → Except String (Int × Value)
  | .unreachable msg => .error msg
  | .respond status (.json v) => .ok (status, v)
  | .respond status (.text t) => .ok (status, match Json.parse t with
    | .ok v => v
    | .error _ => .str t)

namespace Flow

/-! ### Attempts -/

/-- The text of a payload as the client writes it. -/
def Payload.text : Payload → String
  | .json v => Json.writeIn .compact v
  | .raw s => s
  | .none => ""

end Flow

end Autoresponder
