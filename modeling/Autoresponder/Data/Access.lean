import Autoresponder.Data.Show
import Autoresponder.Fault
import Autoresponder.Number.Binary
import Autoresponder.Number.Text

/-!
# Reading loosely shaped documents

Documents that arrive from outside (webhook bodies, provider answers) are read without a
schema: a member is looked up with a default, a missing or empty part stands for an empty one,
and a part that should be a collection is walked item by item. Reading a member of something
that is not an object, or walking something that is not a collection, fails with the fault
that names the kind of value met.
-/

namespace Autoresponder.Value

/-- The member under `key` of an object, or `d` when absent; other values have no members. -/
def field (v : Value) (key : String) (d : Value := .null) : Except Fault Value :=
  match v with
  | .dict kvs => .ok ((kvs.lookup key).getD d)
  | other => .error (.noAttribute ("'" ++ other.kindName ++ "' object has no attribute 'get'"))

/-- The value itself when it is true, else the stand-in. -/
def orElse (v d : Value) : Value := if v.truthy then v else d

/-- The items met when walking a value: a list's items, a text's characters, an object's
keys. -/
def walkItems : Value → Except Fault (List Value)
  | .list xs => .ok xs
  | .str s => .ok (s.toList.map fun c => .str (String.singleton c))
  | .dict kvs => .ok (kvs.map fun kv => .str kv.1)
  | other => .error (.badKind ("'" ++ other.kindName ++ "' object is not iterable"))

/-- The items of a part that may be missing or empty. -/
def itemsOf (v : Value) : Except Fault (List Value) := (v.orElse (.list [])).walkItems

/-- Whether a value can serve as a key of a mapping. -/
def hashable : Value → Bool
  | .list _ | .dict _ => false
  | _ => true

/-- The fault for using a value that cannot be a key as one. -/
def unhashable (v : Value) : Fault := .badKind ("unhashable type: '" ++ v.kindName ++ "'")

/-- A whole number from a text, as `readWholeText` reads it. -/
def readWhole? (s : String) : Option Int :=
  match Number.readWholeText s with
  | .value n => some n
  | _ => none

/-- The fault of a number text with more digits than `Number.maxWholeDigits`. -/
def tooManyDigits (digits : Nat) : Fault :=
  .badValue ("Exceeds the limit (" ++ toString Number.maxWholeDigits ++
    " digits) for integer string conversion: value has " ++ toString digits ++
    " digits; use sys.set_int_max_str_digits() to increase the limit")

/-- A value converted to a whole number: integers as they are, booleans as 0 or 1, floats cut
toward zero, and number texts read; anything else is refused. The refusal of a text quotes
at most 200 characters of it. -/
def toWhole : Value → Except Fault Int
  | .int n => .ok n
  | .bool b => .ok (if b then 1 else 0)
  | .float x =>
    match Number.decode x with
    | some d => .ok d.truncate
    | none =>
      if x.isNaN then .error (.badValue "cannot convert float NaN to integer")
      else .error (.overflow "cannot convert float infinity to integer")
  | .str s =>
    match Number.readWholeText s with
    | .value n => .ok n
    | .tooLong d => .error (tooManyDigits d)
    | .invalid => .error (.badValue ("invalid literal for int() with base 10: " ++
        String.ofList ((quoteText s).toList.take 200)))
  | other => .error (.badKind ("int() argument must be a string, a bytes-like object or a " ++
      "real number, not '" ++ other.kindName ++ "'"))

end Autoresponder.Value
