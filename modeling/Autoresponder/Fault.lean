import Autoresponder.Schema.Check
import Autoresponder.Yaml.Mark

/-!
# Faults

The ways an operation can fail, each with the text it reports. A failed record check keeps
its list of issues; every other fault carries a message.
-/

namespace Autoresponder

/-- A refusal or failure of the messaging provider: its message, whether trying again may help,
and the status of the answer that refused, when an answer came. -/
structure Refusal where
  msg : String
  retryable : Bool
  status : Option Int := none
  deriving Inhabited

/-- Why an operation failed. -/
inductive Fault where
  /-- A record failed its checks. -/
  | invalid (issues : List Issue)
  /-- A value was not acceptable. -/
  | badValue (msg : String)
  /-- A value had the wrong kind for what was done with it. -/
  | badKind (msg : String)
  /-- A value lacked an attribute that was asked of it. -/
  | noAttribute (msg : String)
  /-- A chatbot graph could not be read. -/
  | badGraph (msg : String)
  /-- A workspace lacks what sending needs. -/
  | notConfigured (msg : String)
  /-- The messaging provider refused or could not be reached. -/
  | provider (r : Refusal)
  /-- Text generation failed. -/
  | generation (msg : String)
  /-- A time zone name is unknown. -/
  | unknownZone (key : String)
  /-- A record with the same key already exists. -/
  | duplicate (msg : String)
  /-- A date left the supported range. -/
  | overflow (msg : String)
  /-- A key was missing from a mapping. -/
  | missingKey (msg : String)
  /-- The operating system refused a request. -/
  | system (msg : String)
  /-- A stage of loading refused a document's text. -/
  | unreadable (stage : Yaml.Stage) (msg : String)
  /-- A position past the end of a sequence was looked at. -/
  | outOfRange (msg : String)
  /-- A request address could not be read. -/
  | badAddress (msg : String)
  /-- A text could not be written in the encoding asked for. -/
  | encoding (msg : String)
  /-- A document nested deeper than its reader goes. -/
  | recursion (msg : String)
  deriving Inhabited

/-- The message of a fault. -/
def Fault.message : Fault → String
  | .invalid es => toString es.length ++ " validation errors"
  | .badValue m | .badKind m | .noAttribute m | .badGraph m | .notConfigured m
  | .generation m | .duplicate m | .overflow m | .missingKey m | .system m
  | .unreadable _ m | .outOfRange m | .badAddress m | .encoding m | .recursion m => m
  | .provider r => r.msg
  | .unknownZone key => "'No time zone found with key " ++ key ++ "'"

open Autoresponder.Time in
/-- The fault a time error raises: mixing naive and aware stamps is a kind error, a bad
year a bad value, a count too large for the system's calendar a system error, and leaving
the range of dates an overflow. -/
def Fault.ofTime (e : TimeError) : Fault :=
  match e with
  | .mixedCompare | .mixedSubtract => .badKind e.message
  | .yearOutOfRange _ => .badValue e.message
  | .calendarTooLarge => .system e.message
  | .outOfRange | .timestampTooLarge => .overflow e.message

end Autoresponder
