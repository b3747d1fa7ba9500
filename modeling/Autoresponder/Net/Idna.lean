import Autoresponder.Net.LabelTable
import Autoresponder.Net.Punycode
import Autoresponder.Text.DirectionTable
import Autoresponder.Text.Normal

/-!
# Internationalized domain names

How a domain name becomes the ASCII form that goes on the wire (IDNA 2008, RFC 5890 to 5893,
without the mapping of UTS 46). The name is split into labels at full stops: the ASCII one
and the ideographic, fullwidth and halfwidth ones. An empty last label stands for a final
dot, which is kept. Each label is then:

* when it is ASCII and starts with `xn--` (in any case), checked by decoding the Punycode
  after the prefix and checking the label that gives; it is kept as it is;
* when it is other ASCII, checked and kept as it is;
* otherwise checked, and written as `xn--` and its Punycode.

A label is valid when it is not empty, has at most 254 code points, is in canonical
composition, has no hyphen at its start or end nor two at its third and fourth places, does
not start with a mark, holds only code points valid in a label (those valid in context only
where their context rule allows them), and follows the bidirectional rule. A written label
has at most 63 characters, and the whole name at most 253 (254 with its final dot); a name
of more than 254 code points is refused before it is split.
-/

namespace Autoresponder.Net

open Autoresponder.Text

/-- The bidirectional class of a code point; none when it is unassigned. -/
def directionOf? (n : Nat) : Option Direction := runValue? directionRuns n

/-- Whether a code point has a name in the character database. -/
def hasName (n : Nat) : Bool := (directionOf? n).isSome && !inSpans unnamedSpans n

/-- The joining type of a code point, if it has one. -/
def joiningOf? (n : Nat) : Option JoiningType := runValue? joiningRuns n

/-- The characters that separate labels: the full stop, and the ideographic, fullwidth and
halfwidth ideographic full stops. -/
def labelDots : List Nat := [0x2E, 0x3002, 0xFF0E, 0xFF61]

/-- The canonical combining class of a virama. -/
def viramaClass : Nat := 9

/-- The first code point of a walk (backwards or forwards) that is not transparent to
joining. -/
def firstJoining? (ns : List Nat) : Option JoiningType :=
  ((ns.dropWhile fun n => joiningOf? n == some .transparent).head?).bind joiningOf?

/-- Whether a joiner is allowed between the code points `before` it (nearest first) and
`after` it. Either joiner is allowed after a virama; the zero width non-joiner is also
allowed where a character that joins on the left comes before it and one that joins on the
right after it, looking through transparent ones. Looking at the class of the code point
before a joiner fails when that code point is a starter without a name. -/
def joinerAllowed (before : List Nat) (n : Nat) (after : List Nat) : Bool :=
  let afterVirama : Option Bool := match before with
    | [] => some false
    | p :: _ =>
      let cls := combiningClass p
      if cls == 0 && !hasName p then none else some (cls == viramaClass)
  match afterVirama with
  | none => false
  | some true => true
  | some false =>
    n == 0x200C &&
      (firstJoining? before == some .left || firstJoining? before == some .dual) &&
      (firstJoining? after == some .right || firstJoining? after == some .dual)

/-- Whether a code point valid only in context is allowed in its place: the middle dot
between two `l`s, the Greek numeral sign before a Greek letter, the Hebrew geresh and
gershayim after a Hebrew letter, the katakana middle dot in a label with a Hiragana,
Katakana or Han character, and Arabic-Indic digits of one kind only. -/
def contextAllowed (label before : List Nat) (n : Nat) (after : List Nat) : Bool :=
  if n == 0xB7 then before.head? == some 0x6C && after.head? == some 0x6C
  else if n == 0x375 then
    match after.head? with
    | some m => inSpans greekSpans m
    | none => false
  else if n == 0x5F3 || n == 0x5F4 then
    match before.head? with
    | some m => inSpans hebrewSpans m
    | none => false
  else if n == 0x30FB then
    label.any fun m => m != 0x30FB &&
      (inSpans hiraganaSpans m || inSpans katakanaSpans m || inSpans hanSpans m)
  else if 0x660 ≤ n && n ≤ 0x669 then !label.any fun m => 0x6F0 ≤ m && m ≤ 0x6F9
  else if 0x6F0 ≤ n && n ≤ 0x6F9 then !label.any fun m => 0x660 ≤ m && m ≤ 0x669
  else false

/-- Whether every code point of a label is allowed where it stands; `before` holds the code
points passed, nearest first. -/
def pointsAllowed (label : List Nat) : List Nat → List Nat → Bool
  | _, [] => true
  | before, n :: after =>
    let here :=
      if inSpans pvalidSpans n then true
      else if inSpans contextJoinerSpans n then joinerAllowed before n after
      else if inSpans contextOtherSpans n then contextAllowed label before n after
      else false
    here && pointsAllowed label (n :: before) after

/-- The last class of a label that is not a non-spacing mark, if there is one. -/
def lastBesidesMarks? (ds : List Direction) : Option Direction :=
  (ds.reverse.dropWhile (· == .nsm)).head?

/-- The bidirectional rule for a label. It holds of a label without right-to-left
characters (classes `r`, `al`, `an`). Otherwise the first character must be strong: a
right-to-left label then holds only right-to-left, Arabic and European numbers, separators,
neutrals and marks, ends (marks aside) with a right-to-left character or a number, and does
not mix the two kinds of numbers; a left-to-right label holds only left-to-right characters,
European numbers, separators, neutrals and marks, and ends (marks aside) with a left-to-right
character or a European number. A code point that is not assigned fails it. -/
def bidiAllowed (label : List Nat) : Bool :=
  match label.mapM directionOf? with
  | none => false
  | some ds =>
    if !ds.any fun d => d == .r || d == .al || d == .an then true
    else
      match ds.head? with
      | some .r | some .al =>
        ds.all (fun d => [Direction.r, .al, .an, .en, .es, .cs, .et, .on, .bn, .nsm].contains d) &&
          [some Direction.r, some .al, some .en, some .an].contains (lastBesidesMarks? ds) &&
          !(ds.contains .an && ds.contains .en)
      | some .l =>
        ds.all (fun d => [Direction.l, .en, .es, .cs, .et, .on, .bn, .nsm].contains d) &&
          [some Direction.l, some .en].contains (lastBesidesMarks? ds)
      | _ => false

/-- Whether a label is valid. -/
def labelAllowed (label : List Nat) : Bool :=
  !label.isEmpty && label.length ≤ 254 && isNfc label &&
    (label.drop 2).take 2 != [0x2D, 0x2D] && label.head? != some 0x2D &&
    label.getLast? != some 0x2D &&
    !(label.head?.map (inSpans markSpans)).getD false &&
    pointsAllowed label [] label && bidiAllowed label

/-- The ASCII lower case of a code point. -/
def asciiLower (n : Nat) : Nat := if 0x41 ≤ n && n ≤ 0x5A then n + 32 else n

/-- Whether an ASCII label is valid: one that starts with `xn--` when what follows is
non-empty, does not end in a hyphen, and decodes to a valid label; any other when it is
valid itself. -/
def asciiLabelAllowed (label : List Nat) : Bool :=
  let label := label.map asciiLower
  if label.take 4 == [0x78, 0x6E, 0x2D, 0x2D] then
    let rest := label.drop 4
    !rest.isEmpty && rest.getLast? != some 0x2D &&
      match punycodeDecode? (rest.map Char.ofNat) with
      | some decoded => labelAllowed decoded
      | none => false
  else labelAllowed label

/-- The ASCII form of a label, if it is valid and the form has at most 63 characters. -/
def labelAscii? (label : List Nat) : Option String :=
  if label.all (· < 0x80) then
    if asciiLabelAllowed label && label.length ≤ 63 then some (String.ofList (label.map Char.ofNat))
    else none
  else if labelAllowed label then
    let ace := "xn--" ++ punycode label
    if ace.length ≤ 63 then some ace else none
  else none

/-- The labels of a name, split at every label dot; empty labels included. -/
def splitLabels : List Nat → List (List Nat)
  | [] => [[]]
  | n :: rest =>
    let labels := splitLabels rest
    if labelDots.contains n then [] :: labels
    else match labels with
      | l :: ls => (n :: l) :: ls
      | [] => [[n]]

/-- The ASCII form of a domain name, or none when a label is not valid or the name is too
long. -/
def domainAscii? (name : String) : Option String := do
  let ns := name.toList.map Char.toNat
  if ns.isEmpty || ns.length > 254 then none
  let labels := splitLabels ns
  let (labels, finalDot) := match labels.getLast? with
    | some [] => (labels.dropLast, true)
    | _ => (labels, false)
  let parts ← labels.mapM labelAscii?
  let text := ".".intercalate (parts ++ (if finalDot then [""] else []))
  if text.length > (if finalDot then 254 else 253) then none
  return text

end Autoresponder.Net
