import Autoresponder.Text.NormalTable

/-!
# Canonical normalization

The canonical composition (NFC) of a text, as Unicode 14 defines it: decompose every character
canonically, put each run of combining marks in order of combining class (marks of one class
keep their order), then compose each starter with the marks and starters after it that it is
not blocked from.

Hangul syllables decompose into their leading consonant, vowel and optional trailing consonant
by arithmetic, and compose back the same way.
-/

namespace Autoresponder.Text

/-- The canonical combining class of a code point: zero for starters. -/
def combiningClass (n : Nat) : Nat := (runValue? combiningRuns n).getD 0

/-- The first Hangul syllable. -/
def syllableBase : Nat := 0xAC00

/-- The first leading consonant. -/
def leadBase : Nat := 0x1100

/-- The first vowel. -/
def vowelBase : Nat := 0x1161

/-- The code point before the first trailing consonant: a syllable without one has this
as its trailing part. -/
def tailBase : Nat := 0x11A7

/-- How many leading consonants there are. -/
def leadCount : Nat := 19

/-- How many vowels there are. -/
def vowelCount : Nat := 21

/-- How many trailing parts there are, the empty one included. -/
def tailCount : Nat := 28

/-- How many Hangul syllables there are. -/
def syllableCount : Nat := leadCount * vowelCount * tailCount

/-- Whether a code point is a Hangul syllable. -/
def isSyllable (n : Nat) : Bool := syllableBase ≤ n && n < syllableBase + syllableCount

/-- The consonant, vowel and (when it has one) trailing consonant of a Hangul syllable. -/
def syllableParts (n : Nat) : List Nat :=
  let s := n - syllableBase
  let lead := leadBase + s / (vowelCount * tailCount)
  let vowel := vowelBase + s % (vowelCount * tailCount) / tailCount
  let tail := s % tailCount
  [lead, vowel] ++ (if tail == 0 then [] else [tailBase + tail])

/-- The one or two code points a code point decomposes into in one step, from the table. -/
def decompositionStep? (n : Nat) : Option (List Nat) :=
  let place : Nat × List Nat → Ordering := fun (m, _) =>
    if n < m then .lt else if m < n then .gt else .eq
  (sortedSearch canonicalDecompositions place 0 canonicalDecompositions.size).map (·.2)

/-- A code point decomposed step after step, `depth` steps at most. No decomposition in the
table is more than three steps deep, so a depth of four decomposes every code point fully. -/
def decomposeTo : Nat → Nat → List Nat
  | 0, n => [n]
  | depth + 1, n =>
    if isSyllable n then syllableParts n
    else match decompositionStep? n with
      | some parts => parts.flatMap (decomposeTo depth)
      | none => [n]

/-- The full canonical decomposition of a code point. -/
def decompose (n : Nat) : List Nat := decomposeTo 4 n

/-- Puts a mark into a run of marks ordered by class, after every mark whose class is not
above its own, so that marks of one class keep their order. -/
def insertMark (n : Nat) : List Nat → List Nat
  | [] => [n]
  | m :: ms => if combiningClass n < combiningClass m then n :: m :: ms else m :: insertMark n ms

/-- Code points with each run of marks ordered by class; `run` holds the marks read since the
last starter, already ordered. -/
def orderMarks (run : List Nat) : List Nat → List Nat
  | [] => run
  | n :: rest =>
    if combiningClass n == 0 then run ++ n :: orderMarks [] rest
    else orderMarks (insertMark n run) rest

/-- The canonical decomposition (NFD) of a sequence of code points. -/
def decomposeAll (ns : List Nat) : List Nat := orderMarks [] (ns.flatMap decompose)

/-- The primary composite of a starter and the code point after it, when they have one. -/
def composite? (a b : Nat) : Option Nat :=
  if leadBase ≤ a && a < leadBase + leadCount && vowelBase ≤ b && b < vowelBase + vowelCount then
    some (syllableBase + ((a - leadBase) * vowelCount + (b - vowelBase)) * tailCount)
  else if isSyllable a && (a - syllableBase) % tailCount == 0 && tailBase < b &&
      b < tailBase + tailCount then
    some (a + (b - tailBase))
  else
    let place : Nat × Nat × Nat → Ordering := fun (x, y, _) =>
      match compare a x with
      | .eq => compare b y
      | o => o
    (sortedSearch canonicalCompositions place 0 canonicalCompositions.size).map (·.2.2)

/-- Where composing stands: the code points before the current starter and those kept after
it (each list last first), and the starter that later code points may still compose with.
Every code point kept after a starter is a mark: a starter that is kept becomes the current
one. -/
structure Composing where
  before : List Nat := []
  starter : Option Nat := none
  after : List Nat := []

/-- The code points of a composing state, in order. -/
def Composing.result (st : Composing) : List Nat :=
  (st.after ++ st.starter.toList ++ st.before).reverse

/-- Composes one more code point. It joins the starter when the two have a composite and
the last mark kept since the starter, if any, has a class below its own (a mark of the same
class or a starter in between blocks it). Otherwise it is kept, and becomes the starter when
it is one. -/
def Composing.push (st : Composing) (n : Nat) : Composing :=
  let cls := combiningClass n
  let unblocked := match st.after with
    | [] => true
    | m :: _ => combiningClass m < cls
  match st.starter with
  | some s =>
    match (if unblocked then composite? s n else none) with
    | some c => { st with starter := some c }
    | none =>
      if cls == 0 then { before := st.after ++ s :: st.before, starter := some n, after := [] }
      else { st with after := n :: st.after }
  | none =>
    if cls == 0 then { st with starter := some n }
    else { st with before := n :: st.before }

/-- Canonical composition of a decomposed sequence. -/
def composeAll (ns : List Nat) : List Nat := (ns.foldl Composing.push {}).result

/-- The canonical composition (NFC) of a sequence of code points. -/
def nfc (ns : List Nat) : List Nat := composeAll (decomposeAll ns)

/-- Whether a sequence of code points is in canonical composition already. -/
def isNfc (ns : List Nat) : Bool := nfc ns == ns

end Autoresponder.Text
