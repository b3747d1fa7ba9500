import Autoresponder.Number.Binary

/-!
# Shortest decimal digits of a double

For a positive finite double the digits are the fewest that read back as the same double:
for one, two, … seventeen significant digits the two grid points next to the value are
tried, the first grid with a point inside the value's rounding interval wins, and of two
such points the nearer one is taken (an exact tie goes to the even one). Seventeen digits
always suffice. All arithmetic is on natural numbers.
-/

namespace Autoresponder.Number

/-- Number of decimal digits of a natural number (one for zero). -/
def digitCount (n : Nat) : Nat := (Nat.toDigits 10 n).length

/-- Removes trailing zeros of `d · 10^e`, keeping its value. -/
def stripZeros (d : Nat) (e : Int) : Nat × Int :=
  let rec go (fuel d : Nat) (e : Int) : Nat × Int :=
    match fuel with
    | 0 => (d, e)
    | fuel + 1 => if d != 0 && d % 10 == 0 then go fuel (d / 10) (e + 1) else (d, e)
  go (digitCount d) d e

/-- The rounding interval of a positive double, in units of a quarter of `10^(-s)`:
the value `4M` and the distances to the interval's lower and upper ends. -/
structure Interval where
  bigM : Nat
  s : Nat
  below : Nat
  above : Nat
  closed : Bool

/-- The rounding interval of `m · 2^q`. `narrow` says that the gap below is half the gap
above, which happens at a power of two above the smallest normal exponent. -/
def Interval.of (m : Nat) (q : Int) (narrow : Bool) : Interval :=
  let (bigM, s, g) :=
    if q ≥ 0 then (m * Nat.pow 2 q.toNat, 0, Nat.pow 2 (q.toNat + 1))
    else (m * Nat.pow 5 (-q).toNat, (-q).toNat, 2 * Nat.pow 5 (-q).toNat)
  ⟨bigM, s, if narrow then g / 2 else g, g, m % 2 == 0⟩

/-- Whether the point `c` (same units) reads back as the double. -/
def Interval.holds (iv : Interval) (c : Nat) : Bool :=
  let x := 4 * iv.bigM
  if iv.closed then x ≤ c + iv.below && c ≤ x + iv.above
  else x < c + iv.below && c < x + iv.above

/-- The try with `n` significant digits: `some (d, e)` when a grid point `d · 10^e` with `n`
digits reads back. -/
def Interval.tryDigits (iv : Interval) (n : Nat) : Option (Nat × Int) :=
  let k : Int := (digitCount iv.bigM : Int) - 1 - iv.s
  let e : Int := k - n + 1
  let t : Int := e + iv.s
  if t < 0 then some (iv.bigM * Nat.pow 10 (-t).toNat, e)
  else
    let unit := Nat.pow 10 t.toNat
    let lo := iv.bigM / unit
    let cLo := 4 * lo * unit
    let cHi := 4 * (lo + 1) * unit
    let x := 4 * iv.bigM
    match iv.holds cLo, iv.holds cHi with
    | true, true =>
      if x - cLo < cHi - x then some (lo, e)
      else if cHi - x < x - cLo then some (lo + 1, e)
      else if lo % 2 == 0 then some (lo, e) else some (lo + 1, e)
    | true, false => some (lo, e)
    | false, true => some (lo + 1, e)
    | false, false => none

/-- The shortest digits `d` and exponent `e` with `d · 10^e` reading back as `m · 2^q`;
`d` has no trailing zero. -/
def shortestDigits (m : Nat) (q : Int) (narrow : Bool) : Nat × Int :=
  let iv := Interval.of m q narrow
  match (List.range 17).findSome? fun i => iv.tryDigits (i + 1) with
  | some (d, e) => stripZeros d e
  | none => stripZeros iv.bigM (-(iv.s : Int))

/-- The shortest digits of a finite nonzero double's magnitude. -/
def Dyadic.shortest (d : Dyadic) : Nat × Int :=
  shortestDigits d.m d.q (d.m == Nat.pow 2 52 && d.q > -1074)

end Autoresponder.Number
