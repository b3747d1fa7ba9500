import Autoresponder.Text.Span
import Autoresponder.Text.CaseTable
import Autoresponder.Text.UpperTable
import Autoresponder.Text.ClassTable
import Autoresponder.Text.WordTable
import Autoresponder.Text.PrintTable

/-!
# Text basics

Character classes and the text operations that use them: lower case with the final-sigma
rule, trimming of blank space, and digit values. All of them follow Unicode 14; none of them
is limited to ASCII.
-/

namespace Autoresponder.Text

/-- Blank space: what trimming removes. -/
def isBlank (c : Char) : Bool := inSpans blankSpans c.toNat

/-- A decimal digit of any script. -/
def isDecimal (c : Char) : Bool := inSpans decimalSpans c.toNat

/-- A character with a digit value, decimal or not (superscripts count). -/
def isDigitLike (c : Char) : Bool := inSpans digitSpans c.toNat

/-- A letter or a number. -/
def isAlnum (c : Char) : Bool := inSpans alnumSpans c.toNat

/-- A character of a word: a letter, a number or the low line. -/
def isWordChar (c : Char) : Bool := c == '_' || isAlnum c

/-- A character that a quoted text shows as itself. -/
def isPrintable (c : Char) : Bool := inSpans printableSpans c.toNat

/-- The value of a decimal digit: its distance from the zero that starts its span. -/
def decimalValue? (c : Char) : Option Nat :=
  let n := c.toNat
  (decimalSpans.find? fun (lo, hi) => lo ≤ n && n ≤ hi).map fun (lo, _) => (n - lo) % 10

/-- The one-letter lower case of a character. -/
def lowerChar (c : Char) : Char :=
  let n := c.toNat
  match runSearch lowerRuns n 0 lowerRuns.size with
  | some r =>
    if (n - r.lo) % r.step == 0 then Char.ofNat (Int.toNat (n + r.shift)) else c
  | none => c

/-- The one-letter upper case of a character. -/
def upperChar (c : Char) : Char :=
  let n := c.toNat
  match runSearch upperRuns n 0 upperRuns.size with
  | some r =>
    if (n - r.lo) % r.step == 0 then Char.ofNat (Int.toNat (n + r.shift)) else c
  | none => c

/-- The full upper case of a text: most characters map to one, some to several. -/
def upper (s : String) : String :=
  String.ofList (s.toList.flatMap fun c =>
    match upperExpansions.find? (·.1 == c.toNat) with
    | some (_, cs) => cs.map Char.ofNat
    | none => [upperChar c])

private def isCased (c : Char) : Bool := inSpans casedSpans c.toNat

private def isCaseIgnorable (c : Char) : Bool := inSpans caseIgnorableSpans c.toNat

/-- A capital sigma is final when a cased letter stands before it and none after it, looking
through case-ignorable marks on both sides. -/
def sigmaIsFinal (before after : List Char) : Bool :=
  let cased (cs : List Char) : Bool :=
    match cs.dropWhile isCaseIgnorable with
    | c :: _ => isCased c
    | [] => false
  cased before && !cased after

/-- Lower case of a text: one letter at a time, except that capital I with dot above becomes
`i` and a combining dot, and a capital sigma at the end of a word becomes a final sigma. -/
def lower (s : String) : String :=
  let rec go (before : List Char) : List Char → List Char
    | [] => []
    | c :: rest =>
      let here : List Char :=
        if c.toNat == 0x130 then ['i', Char.ofNat 0x307]
        else if c.toNat == 0x3A3 then
          [if sigmaIsFinal before rest then Char.ofNat 0x3C2 else Char.ofNat 0x3C3]
        else [lowerChar c]
      here ++ go (c :: before) rest
  String.ofList (go [] s.toList)

/-- The text without blank space at its start. -/
def trimStart (s : String) : String := String.ofList (s.toList.dropWhile isBlank)

/-- The text without blank space at its end. -/
def trimEnd (s : String) : String :=
  String.ofList ((s.toList.reverse.dropWhile isBlank).reverse)

/-- The text without blank space at either end. -/
def trim (s : String) : String := trimEnd (trimStart s)

/-- The text without the given characters at its start. -/
def dropStartOf (s : String) (cs : List Char) : String :=
  String.ofList (s.toList.dropWhile (· ∈ cs))

/-- The text without the given characters at its end. -/
def dropEndOf (s : String) (cs : List Char) : String :=
  String.ofList ((s.toList.reverse.dropWhile (· ∈ cs)).reverse)

/-- Whether the text is not empty and every character of it is a decimal digit. -/
def allDecimal (s : String) : Bool := !s.isEmpty && s.toList.all isDecimal

/-- Whether the text is not empty and every character of it has a digit value. -/
def allDigitLike (s : String) : Bool := !s.isEmpty && s.toList.all isDigitLike

/-- Whether `needle` occurs in `hay` as a contiguous piece. -/
def containsText (hay needle : String) : Bool :=
  let n := needle.toList
  let rec scan : List Char → Bool
    | [] => n.isEmpty
    | h@(_ :: rest) => n.isPrefixOf h || scan rest
  scan hay.toList

/-- The pieces of a list of characters between the occurrences of `sep`. -/
def piecesBetween (sep : Char) : List Char → List (List Char)
  | [] => [[]]
  | c :: cs =>
    let rest := piecesBetween sep cs
    if c == sep then [] :: rest else (c :: rest.headD []) :: rest.tail

/-- The pieces of a text between the occurrences of `sep`, as splitting on a one-character
separator gives them: `n` separators give `n + 1` pieces, empty ones included. -/
def pieces (sep : Char) (s : String) : List String := (piecesBetween sep s.toList).map String.ofList

/-! ## Lone surrogates

Texts cannot hold the surrogate code points U+D800 to U+DFFF, yet JSON text may name one on
its own. Such a surrogate `0xD800 + k` is kept as the private-use character
`surrogateBase + k`, the last 2048 code points, and is written back as the surrogate. -/

/-- The character that stands for the first surrogate. -/
def surrogateBase : Nat := 0x10F800

/-- The character that stands for a lone surrogate code point. -/
def surrogateStandIn (n : Nat) : Char := Char.ofNat (surrogateBase + (n - 0xD800))

/-- The lone surrogate a character stands for, if it stands for one. -/
def standsForSurrogate? (c : Char) : Option Nat :=
  if c.toNat ≥ surrogateBase then some (0xD800 + (c.toNat - surrogateBase)) else none

end Autoresponder.Text
