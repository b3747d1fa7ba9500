import Autoresponder.Pattern.Tree
import Autoresponder.Text.CaseTable
import Autoresponder.Text.UpperTable

/-!
# Regular expressions: comparing without case

Under the `i` flag the matcher compares a character by its lower case, taken as the first
character of its full lower case; a character has case when its lower case or the first
character of its full upper case differs from it. A few lower-case letters that are forms of
one letter (the two sigmas, the long s, the symbol forms of Greek letters, and the like) also
match each other. Under the `a` flag only ASCII letters have case.

A single character of the pattern with no case matches only itself. A set is tested one of
two ways. When none of its items has case, the text's character is tested against the items
as they are. Otherwise the character is lowered first and tested against the lowered items:
a character or a range of the Basic Multilingual Plane stands for the lower cases of its
characters together with their twin forms, while a character beyond that plane stands for
itself, and a range that reaches beyond it also admits a character whose lowered form or the
upper case of that lies in the range. Classes are tested on the character as it then is.
This is why a set of one item is not always the same as its item.

Code points are numbers here, so that lone surrogates are characters like any other; they
have no case and belong to no class.
-/

namespace Autoresponder.Pattern

open Autoresponder.Text

/-- The image of a code point under a run of the case table, when the run holds it. -/
def runImage? (r : CaseRun) (n : Nat) : Option Nat :=
  if r.lo ≤ n && n ≤ r.hi && (n - r.lo) % r.step == 0 then some (Int.toNat (n + r.shift))
  else none

/-- The lower case the matcher compares by: the first character of the full lower case. -/
def lowerCode (n : Nat) : Nat :=
  if n == 0x130 then 0x69
  else match runSearch lowerRuns n 0 lowerRuns.size with
    | some r => (runImage? r n).getD n
    | none => n

/-- The first character of the full upper case. -/
def upperCode (n : Nat) : Nat :=
  match upperExpansions.find? (·.1 == n) with
  | some (_, c :: _) => c
  | _ => match runSearch upperRuns n 0 upperRuns.size with
    | some r => (runImage? r n).getD n
    | none => n

/-- Whether a code point has case. -/
def isCased (n : Nat) : Bool := lowerCode n != n || upperCode n != n

/-- The ASCII lower case: capital ASCII letters become small, all else stays. -/
def asciiLowerCode (n : Nat) : Nat := if 65 ≤ n && n ≤ 90 then n + 32 else n

/-- Whether a code point is an ASCII letter. -/
def isAsciiLetter (n : Nat) : Bool := (65 ≤ n && n ≤ 90) || (97 ≤ n && n ≤ 122)

/-- Classes of lower-case letters that match each other without case although their lower
cases differ. -/
def caseTwins : List (List Nat) :=
  [[0x69, 0x131], [0x73, 0x17F], [0xB5, 0x3BC], [0x345, 0x3B9, 0x1FBE], [0x390, 0x1FD3],
    [0x3B0, 0x1FE3], [0x3B2, 0x3D0], [0x3B5, 0x3F5], [0x3B8, 0x3D1], [0x3BA, 0x3F0],
    [0x3C0, 0x3D6], [0x3C1, 0x3F1], [0x3C2, 0x3C3], [0x3C6, 0x3D5], [0x432, 0x1C80],
    [0x434, 0x1C81], [0x43E, 0x1C82], [0x441, 0x1C83], [0x442, 0x1C84, 0x1C85],
    [0x44A, 0x1C86], [0x463, 0x1C87], [0x1C88, 0xA64B], [0x1E61, 0x1E9B], [0xFB05, 0xFB06]]

/-- A lowered code point with its twin forms, or alone. -/
def twinsOf (n : Nat) : List Nat := (caseTwins.find? (·.contains n)).getD [n]

/-- The code points whose lower case is `y`. -/
def lowerPreimage (y : Nat) : List Nat :=
  let own := if lowerCode y == y then [y] else []
  let fromRuns := lowerRuns.toList.filterMap fun r =>
    let i := (y : Int) - r.shift
    if i < 0 then none
    else if runImage? r i.toNat == some y then some i.toNat else none
  let dotted := if y == 0x69 then [0x130] else []
  own ++ fromRuns ++ dotted

/-- Whether a run of the case table holds a code point of `[lo, hi]`. -/
def runMeets (lo hi : Nat) (r : CaseRun) : Bool :=
  let first := if lo ≤ r.lo then r.lo else r.lo + ((lo - r.lo + r.step - 1) / r.step) * r.step
  first ≤ r.hi && first ≤ hi

/-- Whether some code point of `[lo, hi]` has case. -/
def casedIn (lo hi : Nat) : Bool :=
  lowerRuns.any (runMeets lo hi) || upperRuns.any (runMeets lo hi) ||
    upperExpansions.any (fun (c, _) => lo ≤ c && c ≤ hi) || (lo ≤ 0x130 && 0x130 ≤ hi)

/-- The last code point of the Basic Multilingual Plane. -/
def planeEnd : Nat := 0xFFFF

/-- Whether a set item has case under a comparison: a character or range with a letter that
has case, or one that reaches beyond the Basic Multilingual Plane. -/
def SetItem.hasCase (mode : CaseMode) : SetItem → Bool
  | .char d => match mode with
    | .exact => false
    | .ascii => d > planeEnd || isAsciiLetter d
    | .unicode => lowerCode d > planeEnd || isCased d
  | .range lo hi => match mode with
    | .exact => false
    | .ascii => hi > planeEnd || (lo ≤ 90 && 65 ≤ hi) || (lo ≤ 122 && 97 ≤ hi)
    | .unicode => hi > planeEnd || casedIn lo hi
  | .cls .. => false

/-- Whether a set lowers the text's character before testing it: some item has case. -/
def lowersText (mode : CaseMode) (items : List SetItem) : Bool := items.any (·.hasCase mode)

/-- Whether a code point belongs to a class, the ASCII one or the Unicode one. -/
def CharClass.has (ascii : Bool) (k : CharClass) (n : Nat) : Bool :=
  match k, ascii with
  | .digit, true => 48 ≤ n && n ≤ 57
  | .digit, false => inSpans decimalSpans n
  | .word, true => n == 95 || isAsciiLetter n || (48 ≤ n && n ≤ 57)
  | .word, false => n == 95 || inSpans alnumSpans n
  | .space, true => n == 32 || (9 ≤ n && n ≤ 13)
  | .space, false => inSpans blankSpans n

/-- Whether a code point is an item of a set, the item taken as it is. -/
def SetItem.hasRaw (x : Nat) : SetItem → Bool
  | .char d => x == d
  | .range lo hi => lo ≤ x && x ≤ hi
  | .cls k neg ascii => k.has ascii x != neg

/-- Whether a lowered code point `x` is an item of a set that lowers. -/
def SetItem.hasLowered (mode : CaseMode) (x : Nat) : SetItem → Bool
  | .char d => match mode with
    | .unicode =>
      let l := lowerCode d
      if l > planeEnd then x == d else (twinsOf x).contains l
    | _ => x == asciiLowerCode d
  | .range lo hi =>
    let top := min hi planeEnd
    let inPlane := lo ≤ top && match mode with
      | .unicode => (twinsOf x).any fun y => (lowerPreimage y).any fun i => lo ≤ i && i ≤ top
      | _ => (lo ≤ x && x ≤ top) || (97 ≤ x && x ≤ 122 && lo ≤ x - 32 && x - 32 ≤ top)
    let beyond := hi > planeEnd &&
      ((lo ≤ x && x ≤ hi) || (lo ≤ upperCode x && upperCode x ≤ hi))
    inPlane || beyond
  | .cls k neg ascii => k.has ascii x != neg

/-- Whether a code point of the text matches a set. -/
def setHas (neg : Bool) (items : List SetItem) (mode : CaseMode) (lowered : Bool) (ch : Nat) :
    Bool :=
  let found :=
    if lowered then
      let x := if mode == .ascii then asciiLowerCode ch else lowerCode ch
      items.any (·.hasLowered mode x)
    else items.any (·.hasRaw ch)
  found != neg

/-- Whether a code point of the text matches a character of the pattern, or (with `neg`)
fails to. -/
def charHas (c : Nat) (neg : Bool) (mode : CaseMode) (ch : Nat) : Bool :=
  let same := match mode with
    | .exact => ch == c
    | .ascii => if isAsciiLetter c then asciiLowerCode ch == asciiLowerCode c else ch == c
    | .unicode => if isCased c then (twinsOf (lowerCode ch)).contains (lowerCode c) else ch == c
  same != neg

/-- Whether two code points are the same for a back reference: equal, or equal in lower case
when case is ignored. -/
def sameForBackref (mode : CaseMode) (a b : Nat) : Bool :=
  match mode with
  | .exact => a == b
  | .ascii => asciiLowerCode a == asciiLowerCode b
  | .unicode => lowerCode a == lowerCode b

/-- Whether a code point is a word character for `\b`. -/
def isWordCode (ascii : Bool) (n : Nat) : Bool := CharClass.word.has ascii n

end Autoresponder.Pattern
