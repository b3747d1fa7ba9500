/-!
# Punycode

The bootstring encoding of RFC 3492 with the parameters for domain labels. A text is written
as its ASCII code points, a hyphen when there were any, and then the other code points in
order of value: each as the distance, counted over the insertion points of the text so far,
from the previous one, written as a variable-length number in base 36 whose digit thresholds
adapt to the distances seen so far.

Decoding reads such a text back. It fails when a digit is neither a letter nor a decimal
digit, when the text ends inside a number, or when a code point goes past U+10FFFF; code points
come back as numbers, so a surrogate may come back too.
-/

namespace Autoresponder.Net

/-- The threshold of the digit at place `j` of a number under a bias: `36 (j + 1) - bias`,
kept between 1 and 26. -/
def threshold (j bias : Nat) : Nat :=
  if 36 * (j + 1) ≤ bias then 1 else min 26 (36 * (j + 1) - bias)

theorem threshold_pos (j bias : Nat) : 1 ≤ threshold j bias := by
  unfold threshold
  split <;> omega

theorem threshold_le (j bias : Nat) : threshold j bias ≤ 26 := by
  unfold threshold
  split <;> omega

/-- Divides a scaled distance by 35 until it is at most 455, counting 36 for each division. -/
def scaleDown (delta divisions : Nat) : Nat × Nat :=
  if 455 < delta then scaleDown (delta / 35) (divisions + 36) else (delta, divisions)
termination_by delta

/-- The bias after a distance, for a text of `count` code points so far: the first distance
is damped by 700 and later ones by 2. -/
def adapt (delta : Nat) (first : Bool) (count : Nat) : Nat :=
  let delta := if first then delta / 700 else delta / 2
  let delta := delta + delta / count
  let (delta, divisions) := scaleDown delta 0
  divisions + 36 * delta / (delta + 38)

/-- The character of a digit: `a` to `z` for 0 to 25, `0` to `9` for 26 to 35. -/
def digitChar (d : Nat) : Char :=
  if d < 26 then Char.ofNat (0x61 + d) else Char.ofNat (0x30 + d - 26)

/-- The value of a digit character, in either case. -/
def digitOf? (c : Char) : Option Nat :=
  let n := c.toNat
  if 0x41 ≤ n && n ≤ 0x5A then some (n - 0x41)
  else if 0x61 ≤ n && n ≤ 0x7A then some (n - 0x61)
  else if 0x30 ≤ n && n ≤ 0x39 then some (n - 0x30 + 26)
  else none

/-- The digits of a number from place `j` on under a bias, least significant first: a
digit below the threshold of its place ends the number. -/
def numberDigits (bias j q : Nat) : List Char :=
  if q < threshold j bias then [digitChar q]
  else
    digitChar (threshold j bias + (q - threshold j bias) % (36 - threshold j bias)) ::
      numberDigits bias (j + 1) ((q - threshold j bias) / (36 - threshold j bias))
termination_by q
decreasing_by
  have h1 := threshold_pos j bias
  have h2 := threshold_le j bias
  have : (q - threshold j bias) / (36 - threshold j bias) ≤ q - threshold j bias :=
    Nat.div_le_self _ _
  omega

/-- Where encoding stands: the digits written, the distance counted since the last code
point written, the bias, and how many code points are placed. -/
structure Encoding where
  out : List Char
  delta : Nat
  bias : Nat
  placed : Nat

/-- Passes one code point of the text while placing the code point `m`: a smaller one adds
an insertion point to the distance, and `m` itself is written out. -/
def Encoding.visit (basicCount m : Nat) (st : Encoding) (n : Nat) : Encoding :=
  if n < m then { st with delta := st.delta + 1 }
  else if n == m then
    { out := st.out ++ numberDigits st.bias 0 st.delta, delta := 0,
      bias := adapt st.delta (st.placed == basicCount) (st.placed + 1), placed := st.placed + 1 }
  else st

/-- Places the non-ASCII code points, in order of value; `next` is the least value not
placed yet. -/
def encodeFrom (text : List Nat) (basicCount : Nat) : List Nat → Nat → Encoding → Encoding
  | [], _, st => st
  | m :: rest, next, st =>
    let st := { st with delta := st.delta + (m - next) * (st.placed + 1) }
    let st := text.foldl (Encoding.visit basicCount m) st
    encodeFrom text basicCount rest (m + 1) { st with delta := st.delta + 1 }

/-- The Punycode of a sequence of code points. -/
def punycode (text : List Nat) : String :=
  let basic := text.filter (· < 0x80)
  let others := (text.filter (0x80 ≤ ·)).mergeSort (· ≤ ·) |>.eraseDups
  let st := encodeFrom text basic.length others 0x80
    { out := [], delta := 0, bias := 72, placed := basic.length }
  String.ofList (basic.map Char.ofNat ++ (if basic.isEmpty then [] else ['-']) ++ st.out)

/-- Reads a number from its digits under a bias: its value and the characters after it, or
none when the text ends inside it or holds a character that is not a digit. `w` is the
weight of the place `j`, and `acc` the value read so far. -/
def readNumber (bias : Nat) : List Char → Nat → Nat → Nat → Option (Nat × List Char)
  | [], _, _, _ => none
  | c :: rest, j, w, acc =>
    match digitOf? c with
    | none => none
    | some d =>
      let t := threshold j bias
      if d < t then some (acc + d * w, rest)
      else readNumber bias rest (j + 1) (w * (36 - t)) (acc + d * w)

/-- Inserts the code points that the numbers of `digits` stand for into `out`, each number
one code point; `fuel` bounds how many numbers are read, and every number takes at least one
digit, so the number of digits is enough. -/
def decodeFrom (bias value pos : Nat) (first : Bool) (out : List Nat) :
    Nat → List Char → Option (List Nat)
  | _, [] => some out
  | 0, _ :: _ => none
  | fuel + 1, digits@(_ :: _) =>
    match readNumber bias digits 0 1 0 with
    | none => none
    | some (delta, rest) =>
      let count := out.length + 1
      let spot := pos + delta
      let value := value + spot / count
      if value > 0x10FFFF then none
      else
        let spot := spot % count
        let out := out.take spot ++ value :: out.drop spot
        decodeFrom (adapt delta first count) value (spot + 1) false out fuel rest

/-- The code points a Punycode text stands for: what comes before its last hyphen as it
is, then the numbers after it inserted. -/
def punycodeDecode? (text : List Char) : Option (List Nat) :=
  let (basic, digits) := match text.reverse.span (· != '-') with
    | (tail, []) => ([], tail.reverse)
    | (tail, _ :: head) => (head.reverse, tail.reverse)
  decodeFrom 72 0x80 0 true (basic.map Char.toNat) (digits.length + 1) digits

end Autoresponder.Net
