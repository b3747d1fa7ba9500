import Autoresponder.Pattern.Syntax

/-!
# Regular expressions: searching

A backtracking matcher in continuation-passing style: each node is matched at a position
and hands the position after it, with the groups captured so far, to the rest of the
pattern. Alternatives are tried in order and repetitions by their greed, so the first
match found is the one a backtracking matcher reports. A fuel argument bounds the depth of
the search, which keeps the matcher total.

Characters and sets compare as `Autoresponder.Pattern.Case` says; back references compare
by lower case alone when case is ignored. A look-behind starts the fixed number of characters
back that its width gives, and a negative one holds where there is not room for it.
-/

namespace Autoresponder.Pattern

open Autoresponder.Text

/-- Captured spans, indexed by group number. -/
abbrev Captures := Array (Option (Nat × Nat))

/-- The rest of a match: from a position and captures to the end of a successful match. -/
abbrev Cont := Nat → Captures → Option (Nat × Captures)

/-- What the matcher reads: the text as an array of code points. -/
structure Subject where
  chars : Array Nat

namespace Subject

/-- The character at a position, if any. -/
def at? (s : Subject) (i : Nat) : Option Nat := s.chars[i]?

/-- Whether the character before position `i` and the one at `i` differ in being word
characters. -/
def atBoundary (s : Subject) (ascii : Bool) (i : Nat) : Bool :=
  let before := i > 0 && ((s.at? (i - 1)).map (isWordCode ascii)).getD false
  let here := ((s.at? i).map (isWordCode ascii)).getD false
  before != here

mutual

/-- Matches `node` at `pos`, then the rest `k`. -/
def step (s : Subject) (fuel : Nat) (node : Node) (pos : Nat) (caps : Captures)
    (k : Cont) : Option (Nat × Captures) :=
  match fuel with
  | 0 => none
  | fuel + 1 =>
    let len := s.chars.size
    match node with
    | .empty => k pos caps
    | .char c neg mode => match s.at? pos with
      | some d => if charHas c neg mode d then k (pos + 1) caps else none
      | none => none
    | .any dotAll => match s.at? pos with
      | some d => if dotAll || d != 10 then k (pos + 1) caps else none
      | none => none
    | .set neg items mode lowered => match s.at? pos with
      | some d => if setHas neg items mode lowered d then k (pos + 1) caps else none
      | none => none
    | .lineStart multi =>
      if pos == 0 || (multi && s.at? (pos - 1) == some 10) then k pos caps else none
    | .lineEnd multi =>
      if pos == len || (multi && s.at? pos == some 10)
          || (pos + 1 == len && s.at? pos == some 10) then k pos caps
      else none
    | .textStart => if pos == 0 then k pos caps else none
    | .textEnd => if pos == len then k pos caps else none
    | .boundary neg ascii =>
      if len == 0 then none
      else if s.atBoundary ascii pos != neg then k pos caps else none
    | .group none body | .flagged body => step s fuel body pos caps k
    | .group (some i) body =>
      step s fuel body pos caps fun p c => k p (c.set! i (some (pos, p)))
    | .atomic body =>
      match step s fuel body pos caps (fun p c => some (p, c)) with
      | some (p, c) => k p c
      | none => none
    | .look behind neg back body =>
      let start : Option Nat :=
        if behind then (if back ≤ pos then some (pos - back) else none) else some pos
      match neg, start with
      | false, none => none
      | true, none => k pos caps
      | _, some st =>
        let found := (step s fuel body st caps fun p c => some (p, c)).map (·.2)
        match neg, found with
        | false, some c => k pos c
        | true, none => k pos caps
        | _, _ => none
    | .seq items => stepSeq s fuel items pos caps k
    | .alt branches => stepAlt s fuel branches pos caps k
    | .rep body lo hi greed => stepRep s fuel body lo hi greed 0 pos caps k
    | .ifGroup i yes no =>
      match caps[i]? with
      | some (some _) => step s fuel yes pos caps k
      | _ => step s fuel no pos caps k
    | .backref i mode =>
      match caps[i]? with
      | some (some (a, b)) =>
        let n := b - a
        let ok := (List.range n).all fun j =>
          match s.at? (a + j), s.at? (pos + j) with
          | some x, some y => sameForBackref mode x y
          | _, _ => false
        if ok then k (pos + n) caps else none
      | _ => none
  termination_by structural fuel

/-- Matches the items of a sequence one after another. -/
def stepSeq (s : Subject) (fuel : Nat) (items : List Node) (pos : Nat) (caps : Captures)
    (k : Cont) : Option (Nat × Captures) :=
  match fuel with
  | 0 => none
  | fuel + 1 =>
    match items with
    | [] => k pos caps
    | n :: ns => step s fuel n pos caps fun p c => stepSeq s fuel ns p c k
  termination_by structural fuel

/-- Tries the alternatives in order. -/
def stepAlt (s : Subject) (fuel : Nat) (branches : List Node) (pos : Nat) (caps : Captures)
    (k : Cont) : Option (Nat × Captures) :=
  match fuel with
  | 0 => none
  | fuel + 1 =>
    match branches with
    | [] => none
    | b :: bs => match step s fuel b pos caps k with
      | some r => some r
      | none => stepAlt s fuel bs pos caps k
  termination_by structural fuel

/-- Matches a repetition that has already matched `count` times. Once the minimum is met,
an iteration that matches the empty text keeps what it captured but ends the repetition: the
rest of the pattern follows it directly. A possessive repetition takes the first match of
each iteration and never gives one back. -/
def stepRep (s : Subject) (fuel : Nat) (body : Node) (lo : Nat) (hi : Option Nat)
    (greed : Greed) (count : Nat) (pos : Nat) (caps : Captures) (k : Cont) :
    Option (Nat × Captures) :=
  match fuel with
  | 0 => none
  | fuel + 1 =>
    let done : Cont := fun p c => some (p, c)
    match greed with
    | .possessive =>
      if count < lo then
        match step s fuel body pos caps done with
        | some (p, c) => stepRep s fuel body lo hi greed (count + 1) p c k
        | none => none
      else if hi.any (· ≤ count) then k pos caps
      else
        match step s fuel body pos caps done with
        | some (p, c) =>
          if p == pos then k p c else stepRep s fuel body lo hi greed (count + 1) p c k
        | none => k pos caps
    | _ =>
      if count < lo then
        step s fuel body pos caps fun p c => stepRep s fuel body lo hi greed (count + 1) p c k
      else
        let more : Option (Nat × Captures) :=
          if hi.any (· ≤ count) then none
          else step s fuel body pos caps fun p c =>
            if p == pos then k p c else stepRep s fuel body lo hi greed (count + 1) p c k
        match greed with
        | .lazy => match k pos caps with
          | some r => some r
          | none => more
        | _ => match more with
          | some r => some r
          | none => k pos caps
  termination_by structural fuel

end

end Subject

/-- Whether the pattern matches somewhere in the text. -/
def Compiled.search (pat : Compiled) (text : String) : Bool :=
  let s : Subject := ⟨(text.toList.map codeOf).toArray⟩
  let len := s.chars.size
  let fuel := 8 * (pat.root.weight + 2) * (len + 2) + 64
  let caps : Captures := Array.replicate (pat.groups + 1) none
  (List.range (len + 1)).any fun start =>
    (s.step fuel pat.root start caps fun p c => some (p, c)).isSome

/-- Whether `pattern` matches somewhere in `text`, ignoring case, or why the pattern is
refused. -/
def searchIgnoringCase (pattern text : String) : Except PatternError Bool :=
  (compile pattern { ignoreCase := true }).map (·.search text)

end Autoresponder.Pattern
