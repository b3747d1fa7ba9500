import Autoresponder.Text.Basic

/-!
# Regular expressions: the tree

The tree a pattern is read into, the flags its leaves are read under, and two measures of a
tree: the least and greatest number of characters it can match, which fixes how far a
look-behind looks back, and a bound on the steps of one pass through it, which sizes the
matcher's fuel.
-/

namespace Autoresponder.Pattern

/-- Flags that change how parts of a pattern are read and matched. -/
structure Flags where
  ignoreCase : Bool := false
  multiLine : Bool := false
  dotAll : Bool := false
  verbose : Bool := false
  /-- Classes, boundaries and case are those of ASCII. -/
  ascii : Bool := false
  /-- Unicode was asked for by name; it cannot go with `ascii` in one pattern. -/
  unicode : Bool := false
  /-- Template patterns may not repeat anything. -/
  template : Bool := false
  deriving Inhabited

/-- How a character of the pattern is compared with one of the text: exactly, without ASCII
case, or without Unicode case. -/
inductive CaseMode where
  | exact
  | ascii
  | unicode
  deriving BEq, Inhabited

/-- The comparison the flags ask for. -/
def Flags.caseMode (f : Flags) : CaseMode :=
  if !f.ignoreCase then .exact else if f.ascii then .ascii else .unicode

/-- Turns the flag named by a letter on or off. -/
def Flags.turn (f : Flags) (c : Char) (on : Bool) : Flags :=
  match c with
  | 'i' => { f with ignoreCase := on }
  | 'm' => { f with multiLine := on }
  | 's' => { f with dotAll := on }
  | 'x' => { f with verbose := on }
  | 'a' => { f with ascii := on }
  | 'u' => { f with unicode := on }
  | 't' => { f with template := on }
  | _ => f

/-- Whether a letter names a flag. -/
def isFlagLetter (c : Char) : Bool := "iLmsxatu".toList.contains c

/-- Whether a flag letter chooses the kind of text: ASCII, Unicode or locale. -/
def isTypeFlag (c : Char) : Bool := c == 'a' || c == 'u' || c == 'L'

/-- The flags inside a group that turns the flags `on` on and `off` off. Naming a kind of text
replaces the one in force. -/
def Flags.scope (f : Flags) (on off : List Char) : Flags :=
  let base := if on.any isTypeFlag then { f with ascii := false, unicode := false } else f
  off.foldl (fun g c => g.turn c false) (on.foldl (fun g c => g.turn c true) base)

/-- Classes of characters with a one-letter escape. -/
inductive CharClass where
  | digit
  | word
  | space
  deriving BEq

/-- One item of a character set; a class remembers whether it is the ASCII one. -/
inductive SetItem where
  | char (c : Nat)
  | range (lo hi : Nat)
  | cls (k : CharClass) (neg ascii : Bool)
  deriving BEq

/-- How a repetition chooses its count: as many as possible, as few as possible, or as
many as possible without giving any back. -/
inductive Greed where
  | greedy
  | lazy
  | possessive

/-- A pattern tree. Leaves carry the flags they were read under; a set also carries whether
the text's character is lowered before it is tested (see `Autoresponder.Pattern.Case`), and a
look-behind the number of characters it looks back. -/
inductive Node where
  | empty
  | char (c : Nat) (neg : Bool) (mode : CaseMode)
  | any (dotAll : Bool)
  | set (neg : Bool) (items : List SetItem) (mode : CaseMode) (lowered : Bool)
  | lineStart (multi : Bool)
  | lineEnd (multi : Bool)
  | textStart
  | textEnd
  | boundary (neg ascii : Bool)
  | group (index : Option Nat) (body : Node)
  | flagged (body : Node)
  | atomic (body : Node)
  | look (behind neg : Bool) (back : Nat) (body : Node)
  | seq (items : List Node)
  | alt (branches : List Node)
  | rep (body : Node) (min : Nat) (max : Option Nat) (greed : Greed)
  | backref (index : Nat) (mode : CaseMode)
  | ifGroup (index : Nat) (yes no : Node)
  deriving Inhabited

/-- The least and greatest number of characters a part of a pattern can match; no greatest
when it can match any number. -/
structure Width where
  lo : Nat
  hi : Option Nat
  deriving Inhabited

namespace Width

/-- The width of what matches no character. -/
def zero : Width := ⟨0, some 0⟩

/-- The width of what matches one character. -/
def one : Width := ⟨1, some 1⟩

/-- The width of one part after another. -/
def add (a b : Width) : Width := ⟨a.lo + b.lo, do let x ← a.hi; let y ← b.hi; pure (x + y)⟩

/-- The width of one part or another. -/
def either (a b : Width) : Width := ⟨min a.lo b.lo, do let x ← a.hi; let y ← b.hi; pure (max x y)⟩

/-- The width of a part repeated from `lo` to `hi` times (no `hi`: without bound). -/
def times (w : Width) (lo : Nat) (hi : Option Nat) : Width :=
  ⟨w.lo * lo, match hi, w.hi with
    | some 0, _ => some 0
    | none, some 0 => some 0
    | some h, some j => some (j * h)
    | _, _ => none⟩

end Width

namespace Node

/-- Whether a node is an anchor, which cannot be repeated. -/
def isAnchor : Node → Bool
  | .lineStart _ | .lineEnd _ | .textStart | .textEnd | .boundary .. => true
  | _ => false

/-- Whether a node is a repetition. -/
def isRep : Node → Bool
  | .rep .. => true
  | _ => false

/-- Whether two nodes are the same leaf; nodes with parts inside are never the same, as
they were read from different places. -/
def sameLeaf : Node → Node → Bool
  | .char a n _, .char b m _ => a == b && n == m
  | .any _, .any _ => true
  | .set n xs _ _, .set m ys _ _ => n == m && xs == ys
  | .lineStart _, .lineStart _ | .lineEnd _, .lineEnd _ => true
  | .textStart, .textStart | .textEnd, .textEnd => true
  | .boundary n _, .boundary m _ => n == m
  | .backref i _, .backref j _ => i == j
  | _, _ => false

mutual

/-- The width of a node, given the widths of the groups it refers back to. -/
def width (gw : Nat → Width) : Node → Width
  | .empty => .zero
  | .char .. | .any _ | .set .. => .one
  | .lineStart _ | .lineEnd _ | .textStart | .textEnd | .boundary .. | .look .. => .zero
  | .group _ b | .flagged b | .atomic b => width gw b
  | .seq items => seqWidth gw items
  | .alt branches => altWidth gw branches
  | .rep b lo hi _ => (width gw b).times lo hi
  | .backref i _ => gw i
  | .ifGroup _ yes no => (width gw yes).either (width gw no)

/-- The width of a sequence. -/
def seqWidth (gw : Nat → Width) : List Node → Width
  | [] => .zero
  | n :: ns => (width gw n).add (seqWidth gw ns)

/-- The width of alternatives. -/
def altWidth (gw : Nat → Width) : List Node → Width
  | [] => .zero
  | [n] => width gw n
  | n :: ns => (width gw n).either (altWidth gw ns)

end

mutual

/-- A bound on the steps of one pass through a tree between two characters read: each node
and each item of a list counts one, and a repetition counts its body once for each iteration
it must make, and once more. -/
def weight : Node → Nat
  | .group _ b | .flagged b | .atomic b | .look _ _ _ b => b.weight + 1
  | .rep b lo .. => (lo + 2) * (b.weight + 2)
  | .ifGroup _ yes no => yes.weight + no.weight + 1
  | .seq items => listWeight items + 1
  | .alt branches => listWeight branches + 1
  | _ => 1

/-- The weight of a list of trees, one more for each item. -/
def listWeight : List Node → Nat
  | [] => 0
  | n :: ns => n.weight + listWeight ns + 1

end

end Node

end Autoresponder.Pattern
