import Autoresponder.Number.Binary

/-!
# Doubles by value

The value of a double is not a number, an infinity, or a finite binary fraction, and every
finite double is a whole number of steps of the smallest subnormal, `2^-1074`. Holding the
finite ones as that whole number makes comparison integer comparison, and subtraction an exact
integer difference followed by one rounding: to fifty-three significant bits, to the nearest,
a tie going to the even significand, and beyond the largest finite double to an infinity.
-/

namespace Autoresponder.Number

/-- A double by its value: both zeros are the one value zero, and NaN keeps no payload. -/
inductive Double where
  | nan
  | inf (neg : Bool)
  | finite (steps : Int)
  deriving Repr, DecidableEq, Inhabited

namespace Double

/-- The largest finite double, `(2^53 - 1) · 2^971`, in steps of `2^-1074`. -/
def maxSteps : Nat := (Nat.pow 2 53 - 1) * Nat.pow 2 2045

/-- `n / unit` rounded to the nearest whole number, a tie to the even one. -/
def roundDiv (n unit : Nat) : Nat :=
  if unit < 2 * (n % unit) || (2 * (n % unit) == unit && n / unit % 2 == 1) then n / unit + 1
  else n / unit

/-- A number of steps rounded to fifty-three significant bits. Below `2^53` steps every whole
number is a double; above, the binade of `n` spaces its doubles `2^(log2 n - 52)` apart. -/
def roundSteps (n : Nat) : Nat :=
  if n < Nat.pow 2 53 then n
  else
    let unit := Nat.pow 2 (n.log2 - 52)
    roundDiv n unit * unit

/-- The double nearest an exact number of steps. -/
def ofSteps (x : Int) : Double :=
  let r := roundSteps x.natAbs
  if maxSteps < r then .inf (x < 0)
  else .finite (if x < 0 then -(r : Int) else r)

/-- The value of a float. -/
def ofFloat (x : Float) : Double :=
  match decode x with
  | some d =>
    let steps : Int := d.m * Nat.pow 2 (d.q + 1074).toNat
    .finite (if d.neg then -steps else steps)
  | none => if isNaN x then .nan else .inf (signBit x)

/-- A whole number as a double. -/
def ofInt (n : Int) : Double := ofSteps (n * Nat.pow 2 1074)

/-- Subtraction: an infinity minus itself is NaN. -/
def sub : Double → Double → Double
  | .nan, _ => .nan
  | _, .nan => .nan
  | .inf a, .inf b => if a == b then .nan else .inf a
  | .inf a, .finite _ => .inf a
  | .finite _, .inf b => .inf (!b)
  | .finite a, .finite b => ofSteps (a - b)

/-- The strict order of doubles; every comparison with NaN is false. -/
def lt : Double → Double → Bool
  | .finite a, .finite b => decide (a < b)
  | .inf true, .finite _ => true
  | .finite _, .inf false => true
  | .inf a, .inf b => a && !b
  | _, _ => false

/-- The order of doubles; every comparison with NaN is false. -/
def le : Double → Double → Bool
  | .finite a, .finite b => decide (a ≤ b)
  | .inf true, .finite _ => true
  | .finite _, .inf false => true
  | .inf a, .inf b => a || !b
  | _, _ => false

instance : Sub Double := ⟨sub⟩

instance : LT Double := ⟨fun a b => a.lt b = true⟩

instance : LE Double := ⟨fun a b => a.le b = true⟩

instance (a b : Double) : Decidable (a < b) := inferInstanceAs (Decidable (a.lt b = true))

instance (a b : Double) : Decidable (a ≤ b) := inferInstanceAs (Decidable (a.le b = true))

end Double

end Autoresponder.Number
