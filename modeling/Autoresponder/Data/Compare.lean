import Autoresponder.Data.Value
import Autoresponder.Number.Binary
import Autoresponder.Text.Basic

/-!
# Comparing values

Equality is loose across numbers: a boolean counts as 0 or 1, and an integer equals a float
exactly when their values are equal; NaN equals nothing. Lists are equal item by item,
objects when they have the same keys with equal values. Values of different kinds are
unequal.

Ordering is defined between numbers, between texts (by code point) and between lists
(by the same comparison at the first unequal items, else by length); any other pair has no
order, which `none` reports. Membership asks for an equal item of a list, a piece of a text, or a key of an
object.
-/

namespace Autoresponder

open Autoresponder.Number

/-- A number as an integer or a float, if the value is a number (booleans count). -/
inductive Num where
  | int (n : Int)
  | float (x : Float)

namespace Value

/-- The value as a number, if it is one. -/
def num? : Value → Option Num
  | .bool b => some (.int (if b then 1 else 0))
  | .int n => some (.int n)
  | .float x => some (.float x)
  | _ => none

end Value

namespace Num

/-- Compares two numbers exactly; `none` when one of them is NaN. -/
def cmp? : Num → Num → Option Ordering
  | .int a, .int b => some (compare a b)
  | .float x, .int b => cmpFloatInt x b
  | .int a, .float y => (cmpFloatInt y a).map Ordering.swap
  | .float x, .float y =>
    if isNaN x || isNaN y then none
    else if x < y then some .lt else if y < x then some .gt else some .eq

end Num

namespace Value

mutual

/-- Loose equality of values, as described in the module header. -/
def equals : Value → Value → Bool
  | .null, .null => true
  | .str a, .str b => a == b
  | .list xs, .list ys => listEquals xs ys
  | .dict xs, .dict ys => xs.length == ys.length && dictCovers xs ys
  | a, b => match a.num?, b.num? with
    | some x, some y => x.cmp? y == some .eq
    | _, _ => false

/-- Item-by-item equality of lists. -/
def listEquals : List Value → List Value → Bool
  | [], [] => true
  | x :: xs, y :: ys => equals x y && listEquals xs ys
  | _, _ => false

/-- Whether every member of the first object has an equal value under its key in `ys`. -/
def dictCovers : List (String × Value) → List (String × Value) → Bool
  | [], _ => true
  | (k, v) :: rest, ys =>
    (match ys.lookup k with
      | some w => equals v w
      | none => false) && dictCovers rest ys

end

mutual

/-- Order `a < b` (with `strict`) or `a ≤ b`; `none` when the two values have no order.
Lists are ordered at their first unequal items, by the same comparison, else by length. -/
def ordered (strict : Bool) : Value → Value → Option Bool
  | .str s, .str t => some (if strict then decide (s < t) else decide (s ≤ t))
  | .list xs, .list ys => orderedItems strict xs ys
  | a, b => match a.num?, b.num? with
    | some p, some q => some (match p.cmp? q with
      | some .lt => true
      | some .eq => !strict
      | _ => false)
    | _, _ => none

/-- The order of two lists of items, as `ordered` gives it. -/
def orderedItems (strict : Bool) : List Value → List Value → Option Bool
  | x :: xs, y :: ys => if equals x y then orderedItems strict xs ys else ordered strict x y
  | xs, ys => some (if strict then decide (xs.length < ys.length)
      else decide (xs.length ≤ ys.length))

end

/-- Strict order `a < b`; `none` when the two values have no order. -/
def less? (a b : Value) : Option Bool := ordered true a b

/-- Order `a ≤ b`; `none` when the two values have no order. -/
def lessEq? (a b : Value) : Option Bool := ordered false a b

/-- Whether `a` is in `container`: an equal item of a list, a piece of a text, a key of an
object; `none` when the question has no answer for these kinds. -/
def memberOf? (a container : Value) : Option Bool :=
  match container with
  | .list xs => some (xs.any (equals a))
  | .str t => match a with
    | .str s => some (Text.containsText t s)
    | _ => none
  | .dict kvs => match a with
    | .str s => some (kvs.any (·.1 == s))
    | .list _ | .dict _ => none
    | _ => some false
  | _ => none

end Value

end Autoresponder
