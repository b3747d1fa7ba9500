/-!
# Doubles as exact binary fractions

A finite double is `(-1)^neg · m · 2^q` for a natural significand `m` and an integer exponent
`q`. Decoding the bits gives that form, so that comparisons with integers and digit
generation can be done exactly in integer arithmetic.
-/

namespace Autoresponder.Number

/-- A finite double as sign, significand and binary exponent. -/
structure Dyadic where
  neg : Bool
  m : Nat
  q : Int
  deriving Repr, DecidableEq

/-- The eleven exponent bits of a double. -/
def exponentBits (x : Float) : Nat := (x.toBits.toNat / Nat.pow 2 52) % 2048

/-- The fifty-two fraction bits of a double. -/
def fractionBits (x : Float) : Nat := x.toBits.toNat % Nat.pow 2 52

/-- The sign bit of a double. -/
def signBit (x : Float) : Bool := x.toBits.toNat ≥ Nat.pow 2 63

/-- Whether a double is infinite or not a number. -/
def nonFinite (x : Float) : Bool := exponentBits x == 2047

/-- Whether a double is not a number. -/
def isNaN (x : Float) : Bool := nonFinite x && fractionBits x != 0

/-- Whether a double is an infinity. -/
def isInf (x : Float) : Bool := nonFinite x && fractionBits x == 0

/-- The exact value of a finite double; `none` for infinities and NaN. -/
def decode (x : Float) : Option Dyadic :=
  let e := exponentBits x
  let f := fractionBits x
  if e == 2047 then none
  else if e == 0 then some ⟨signBit x, f, -1074⟩
  else some ⟨signBit x, f + Nat.pow 2 52, (e : Int) - 1075⟩

namespace Dyadic

/-- The magnitude as a fraction `num / 2^den`. -/
def magnitude (d : Dyadic) : Nat × Nat :=
  if d.q ≥ 0 then (d.m * Nat.pow 2 d.q.toNat, 0) else (d.m, (-d.q).toNat)

/-- Compares the value with an integer, exactly. -/
def cmpInt (d : Dyadic) (n : Int) : Ordering :=
  let (num, den) := d.magnitude
  let lhs : Int := if d.neg then -(num : Int) else num
  compare lhs (n * (Nat.pow 2 den : Nat))

/-- The integer part, rounded toward zero. -/
def truncate (d : Dyadic) : Int :=
  let (num, den) := d.magnitude
  let t : Int := (num / Nat.pow 2 den : Nat)
  if d.neg then -t else t

/-- Whether the value is a whole number. -/
def isWhole (d : Dyadic) : Bool :=
  let (num, den) := d.magnitude
  num % Nat.pow 2 den == 0

/-- The double nearest to `num / den` with the sign `neg`, ties to even: 53 significant bits
and none below `2^-1074`. The denominator is not zero and the quotient is below the largest
double; as in the floating-point division of two integers, the quotient is rounded once. -/
def ofQuotient (neg : Bool) (num den : Nat) : Dyadic :=
  -- numerator and denominator of `num / (den · 2^e)`
  let scaled (e : Int) : Nat × Nat :=
    if e ≥ 0 then (num, den * Nat.pow 2 e.toNat) else (num * Nat.pow 2 (-e).toNat, den)
  -- the quotient lies in [2^(a-b-1), 2^(a-b+1)); scaling by 2^-(a-b-53) puts it in
  -- (2^52, 2^54), and one more halving where needed in [2^52, 2^53)
  let e₀ : Int := (Nat.log2 num : Int) - Nat.log2 den - 53
  let e₁ := if (scaled e₀).1 / (scaled e₀).2 ≥ Nat.pow 2 53 then e₀ + 1 else e₀
  let e := max e₁ (-1074)
  let (n, d) := scaled e
  let q := n / d
  let up := 2 * (n % d) > d || (2 * (n % d) == d && q % 2 == 1)
  ⟨neg, if up then q + 1 else q, e⟩

/-- The double nearest to the value divided by a whole number. -/
def divNat (x : Dyadic) (k : Nat) : Dyadic :=
  let (num, den) := x.magnitude
  ofQuotient x.neg num (k * Nat.pow 2 den)

end Dyadic

/-- Compares a double with an integer exactly; `none` when the double is NaN. -/
def cmpFloatInt (x : Float) (n : Int) : Option Ordering :=
  match decode x with
  | some d => some (d.cmpInt n)
  | none => if isNaN x then none else if signBit x then some .lt else some .gt

end Autoresponder.Number
