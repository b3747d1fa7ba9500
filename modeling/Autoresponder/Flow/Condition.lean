import Autoresponder.Data.Compare
import Autoresponder.Data.Show
import Autoresponder.Number.Text
import Autoresponder.Pattern.Search
import Autoresponder.Schema.Check
import Autoresponder.Fault

/-!
# Branch conditions

A condition compares the value found at a dotted path of the evaluation context (the
inbound message, the phone and the flow's variables) with a given value. When the given
value is a number and the found value is text, the text is first read as a number; a text
that is no number makes the condition false. Comparisons that have no answer for the kinds
involved, and malformed patterns, make it false too. An unknown operator never holds. A
pattern whose repetition count is too large for the matcher is an overflow, and fails the
evaluation itself.
-/

namespace Autoresponder.Flow

open Autoresponder.Number Autoresponder.Text

/-- The comparisons a condition can make. -/
inductive Operator where
  | eq | neq | gt | gte | lt | lte
  | member
  | contains | icontains | iequals | startsWith
  | regex
  | exists | notExists
  deriving DecidableEq

/-- The operator spelled by a name, if any. -/
def Operator.ofName? : String → Option Operator
  | "eq" => some .eq
  | "neq" => some .neq
  | "gt" => some .gt
  | "gte" => some .gte
  | "lt" => some .lt
  | "lte" => some .lte
  | "in" => some .member
  | "contains" => some .contains
  | "icontains" => some .icontains
  | "iequals" => some .iequals
  | "starts_with" => some .startsWith
  | "regex" => some .regex
  | "exists" => some .exists
  | "not_exists" => some .notExists
  | _ => none

/-- A condition: a dotted path, an operator name and a value. -/
structure Condition where
  field : String
  operator : String
  value : Value := .null
  deriving Inhabited

/-- Checks a condition record. Its keys have no camelCase forms. -/
def Condition.check (fs : Fields) : Checked Condition :=
  let field := fs.need "field" "field" Check.text
  let operator := fs.need "operator" "operator" Check.text
  let value := fs.withDefault "value" "value" Value.null .ok
  let es := field.issues ++ operator.issues ++ value.issues
  if es.isEmpty then .ok ⟨field.getD "", operator.getD "", value.getD .null⟩ else .error es

/-- The condition as a record. -/
def Condition.toValue (c : Condition) : Value :=
  .dict [("field", .str c.field), ("operator", .str c.operator), ("value", c.value)]

/-- The value at a dotted path: each part looks up a key of an object, and anything that is
not an object ends the walk with null. -/
def lookupPath (data : Value) (field : String) : Value :=
  (pieces '.' field).foldl (fun cur part => match cur with
    | .dict kvs => (kvs.lookup part).getD .null
    | _ => .null) data

/-- Applies an operator other than a pattern search; `none` when the comparison has no
answer. -/
def Operator.compare (op : Operator) (a b : Value) : Option Bool :=
  match op with
  | .eq => some (a.equals b)
  | .neq => some (!a.equals b)
  | .gt => Value.less? b a
  | .gte => Value.lessEq? b a
  | .lt => Value.less? a b
  | .lte => Value.lessEq? a b
  | .member => Value.memberOf? a b
  | .contains => some (containsText a.displayOrEmpty b.displayOrEmpty)
  | .icontains => some (containsText (lower a.displayOrEmpty) (lower b.displayOrEmpty))
  | .iequals => some (lower (trim a.displayOrEmpty) == lower (trim b.displayOrEmpty))
  | .startsWith => some ((lower b.displayOrEmpty).toList.isPrefixOf (lower a.displayOrEmpty).toList)
  | .regex => none
  | .exists => some (!a.isNull && !(a.equals (.str "")))
  | .notExists => some (a.isNull || a.equals (.str ""))

/-- Searches a text for a pattern: `none` when the pattern is malformed. -/
def patternFound (pattern text : String) : Except Fault (Option Bool) :=
  match Pattern.searchIgnoringCase pattern text with
  | .ok b => .ok (some b)
  | .error (.malformed _) => .ok none
  | .error e => .error (.overflow e.message)

/-- Applies an operator to the found value `a` and the given value `b`; `none` when the
comparison has no answer. Only a pattern the matcher cannot hold fails. -/
def Operator.apply (op : Operator) (a b : Value) : Except Fault (Option Bool) :=
  match op with
  | .regex => patternFound b.displayOrEmpty a.displayOrEmpty
  | op => .ok (op.compare a b)

/-- Whether a condition holds in a context. -/
def Condition.holds (c : Condition) (data : Value) : Except Fault Bool :=
  match Operator.ofName? c.operator with
  | none => .ok false
  | some op =>
    let found := lookupPath data c.field
    let numeric := match c.value with
      | .int _ | .float _ => true
      | _ => false
    let found? : Option Value := match numeric, found with
      | true, .str s => (readFloat? s).map Value.float
      | _, v => some v
    match found? with
    | none => .ok false
    | some v => (op.apply v c.value).map (·.getD false)

/-- Whether all conditions hold, in order, stopping at the first that does not; an empty
list holds. -/
def allHold (cs : List Condition) (data : Value) : Except Fault Bool :=
  match cs with
  | [] => .ok true
  | c :: rest => do if ← c.holds data then allHold rest data else return false

end Autoresponder.Flow
