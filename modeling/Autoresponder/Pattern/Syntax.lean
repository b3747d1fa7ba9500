import Autoresponder.Number.Text
import Autoresponder.Pattern.Case
import Autoresponder.Text.CharName
import Autoresponder.Text.IdentTable

/-!
# Regular expressions: syntax

Patterns are read into a tree. The syntax is the usual one for backtracking matchers:
literals and escapes (among them `\N{name}` for a character named in Unicode), `.`, character
sets with ranges and classes (`\d`, `\w`, `\s` and their negations), anchors (`^`, `$`, `\A`,
`\Z`, `\b`, `\B`), capturing, named, non-capturing and atomic groups, look-ahead and
fixed-width look-behind, alternation, greedy, lazy and possessive repetition, back
references, conditions that choose one of two branches by whether a group has matched, and
the flags `i`, `m`, `s`, `x`, `a`, `u` and `t` at the start of a pattern or (most of them)
scoped to a group.

The pattern is read in tokens: a backslash and the character after it form one token, so an
escaped character never ends a name, a comment or a flag list. A pattern that breaks the
syntax is refused with a reason, and so is a repetition count too large to hold.

Characters are kept as code points, so that a lone surrogate written `\ud800` stays itself.

Three rewritings change how the tree matches and so are done as the pattern is read: a set
whose only item is one character becomes that character; alternatives that share leading
items have them taken out in front; and alternatives that are each one character or one set
become a single set. Under the `i` flag a set compares case differently from a character
(see `Autoresponder.Pattern.Case`), so these rewritings are part of the meaning.
-/

namespace Autoresponder.Pattern

open Autoresponder.Text

/-- The code point a character of a text stands for: a stand-in for a lone surrogate stands
for the surrogate. -/
def codeOf (c : Char) : Nat := (standsForSurrogate? c).getD c.toNat

/-- Set items without repeats, each kept where it first appears. -/
def uniqItems : List SetItem → List SetItem → List SetItem
  | [], acc => acc.reverse
  | x :: xs, acc => if acc.contains x then uniqItems xs acc else uniqItems xs (x :: acc)

/-- A set node, with whether the text's character is lowered before the test. -/
def setNode (neg : Bool) (items : List SetItem) (mode : CaseMode) : Node :=
  .set neg items mode (lowersText mode items)

/-- A set as the tree holds it: one character when that is all it holds. -/
def finishSet (neg : Bool) (items : List SetItem) (mode : CaseMode) : Node :=
  match uniqItems items [] with
  | [.char c] => .char c neg mode
  | items => setNode neg items mode

/-- The leading items all alternatives share, taken out in front, and what is left of each;
`fuel` bounds the number taken. -/
def commonPrefix : Nat → List (List Node) → List Node × List (List Node)
  | 0, bs => ([], bs)
  | fuel + 1, bs =>
    match bs with
    | (n :: ns) :: others =>
      if others.all (fun b => match b with
          | m :: _ => n.sameLeaf m
          | [] => false) then
        let (p, rest) := commonPrefix fuel (ns :: others.map List.tail)
        (n :: p, rest)
      else ([], bs)
    | _ => ([], bs)

/-- Alternatives that are each one character or one set without negation, as one set. -/
def setOfBranches (bs : List (List Node)) : Option Node := do
  let parts ← bs.mapM fun b => match b with
    | [.char c false _] => some [SetItem.char c]
    | [.set false items _ _] => some items
    | _ => none
  let mode ← match bs with
    | [.char _ _ m] :: _ | [.set _ _ m _] :: _ => some m
    | _ => none
  some (setNode false (uniqItems parts.flatten []) mode)

/-- The items of alternatives joined: a single branch as it is, else the shared leading items
and then one set or the choice between what is left. -/
def joinBranches (bs : List (List Node)) : List Node :=
  match bs with
  | [b] => b
  | _ =>
    let (pre, rest) := commonPrefix (bs.foldl (fun m b => max m b.length) 0) bs
    match setOfBranches rest with
    | some node => pre ++ [node]
    | none => pre ++ [.alt (rest.map .seq)]

/-- The items of a sequence with the non-capturing groups that set no flags opened up. -/
def unpackGroups (items : List Node) : List Node :=
  items.flatMap fun n => match n with
    | .group none (.seq xs) => xs
    | n => [n]

/-- What the reader knows while it reads: the rest of the pattern, the groups opened, the
widths of those closed, the group names, the flags in force, the groups that conditions ask
about, and the first group number opened inside the look-behind being read, if any. -/
structure Reader where
  rest : List Char
  opened : Nat := 0
  widths : List (Nat × Width) := []
  names : List (String × Nat) := []
  flags : Flags := {}
  /-- Group numbers that conditions ask about, which must exist once the pattern is read. -/
  asked : List Nat := []
  behindFrom : Option Nat := none

/-- The width of a closed group. -/
def Reader.groupWidth (r : Reader) (i : Nat) : Width := (r.widths.lookup i).getD .zero

/-- Why a pattern is refused: it breaks the syntax, or a repetition count reaches the
largest count a matcher can hold, `2^32 - 1`. -/
inductive PatternError where
  | malformed (why : String)
  | countTooLarge
  deriving Inhabited

/-- The text a refusal reports. -/
def PatternError.message : PatternError → String
  | .malformed why => why
  | .countTooLarge => "the repetition number is too large"

/-- The first repetition count a pattern may not write. -/
def countLimit : Nat := 4294967295

/-- The first group number a condition may not ask about. -/
def groupLimit : Nat := 1073741823

/-- The farthest a look-behind may look back. -/
def lookBackLimit : Nat := 4294967295

/-- Reading a pattern: state, or a refusal. -/
abbrev ReadM := StateT Reader (Except PatternError)

/-- The next character, without taking it. -/
def peek : ReadM (Option Char) := do return (← get).rest.head?

/-- Takes the next character. -/
def next? : ReadM (Option Char) := do
  let r ← get
  match r.rest with
  | c :: cs => set { r with rest := cs }; return some c
  | [] => return none

/-- Takes the next character if it is `c`. -/
def accept (c : Char) : ReadM Bool := do
  if (← peek) == some c then let _ ← next?; return true else return false

/-- Refuses the pattern. -/
def refuse {α : Type} (why : String) : ReadM α := throw (.malformed why)

/-- Takes the next token: a character, or a backslash with the character after it. -/
def takeToken : ReadM (Option (List Char)) := do
  let r ← get
  match r.rest with
  | '\\' :: c :: cs => set { r with rest := cs }; return some ['\\', c]
  | ['\\'] => refuse "bad escape (end of pattern)"
  | c :: cs => set { r with rest := cs }; return some [c]
  | [] => return none

/-- Takes up to `n` characters that satisfy `p`. -/
def takeUpTo (n : Nat) (p : Char → Bool) : ReadM (List Char) := do
  let r ← get
  let got := (r.rest.takeWhile p).take n
  set { r with rest := r.rest.drop got.length }
  return got

/-- Reads tokens up to the token `stop`, which is taken too; `what` names what is read. The
text read may not be empty. -/
def getUntil (stop : Char) (what : String) (fuel : Nat) (acc : List Char) :
    ReadM (List Char) := do
  match fuel with
  | 0 => refuse ("missing " ++ what)
  | fuel + 1 =>
    match ← takeToken with
    | none =>
      if acc.isEmpty then refuse ("missing " ++ what)
      else refuse ("missing " ++ String.singleton stop ++ ", unterminated name")
    | some t =>
      if t == [stop] then
        if acc.isEmpty then refuse ("missing " ++ what) else return acc
      else getUntil stop what fuel (acc ++ t)

/-- Reads a group name up to `stop`; it must be an identifier. -/
def readName (stop : Char) : ReadM String := do
  let name ← getUntil stop "group name" ((← get).rest.length + 1) []
  let name := String.ofList name
  if !isIdentifier name then refuse "bad character in group name"
  return name

/-- Value of hexadecimal digits. -/
def hexDigitsValue (cs : List Char) : Nat :=
  cs.foldl (fun acc c =>
    acc * 16 + (if c.isDigit then c.toNat - '0'.toNat
      else (c.toLower.toNat - 'a'.toNat + 10))) 0

/-- Whether a character is a hexadecimal digit. -/
def isHex (c : Char) : Bool := c.isDigit || ('a' ≤ c.toLower && c.toLower ≤ 'f')

/-- Whether a character is an octal digit. -/
def isOctal (c : Char) : Bool := '0' ≤ c && c ≤ '7'

/-- Value of octal digits. -/
def octalValue (cs : List Char) : Nat := cs.foldl (fun acc c => acc * 8 + (c.toNat - '0'.toNat)) 0

/-- Reads exactly `n` hexadecimal digits as a code point. -/
def hexEscape (n : Nat) : ReadM Nat := do
  let ds ← takeUpTo n isHex
  if ds.length != n then refuse "incomplete escape"
  let v := hexDigitsValue ds
  if v > 0x10FFFF then refuse "bad escape"
  return v

/-- Reads `{name}` after `\N`: the character with that Unicode name. -/
def namedEscape : ReadM Nat := do
  if !(← accept '{') then refuse "missing \x7b"
  let name ← getUntil '}' "character name" ((← get).rest.length + 1) []
  match codeOfName? (String.ofList name) with
  | some n => return n
  | none => refuse "undefined character name"

/-- What an escape inside a character set stands for. -/
def setEscape (c : Char) : ReadM SetItem := do
  let ascii := (← get).flags.ascii
  match c with
  | 'a' => return .char 7
  | 'b' => return .char 8
  | 'f' => return .char 12
  | 'n' => return .char 10
  | 'r' => return .char 13
  | 't' => return .char 9
  | 'v' => return .char 11
  | 'd' => return .cls .digit false ascii
  | 'D' => return .cls .digit true ascii
  | 'w' => return .cls .word false ascii
  | 'W' => return .cls .word true ascii
  | 's' => return .cls .space false ascii
  | 'S' => return .cls .space true ascii
  | 'x' => return .char (← hexEscape 2)
  | 'u' => return .char (← hexEscape 4)
  | 'U' => return .char (← hexEscape 8)
  | 'N' => return .char (← namedEscape)
  | _ =>
    if isOctal c then
      let more ← takeUpTo 2 isOctal
      let v := octalValue (c :: more)
      if v > 0o377 then refuse "octal escape value outside of range"
      return .char v
    else if c.isDigit then refuse "bad escape"
    else if c.isAlpha && c.toNat < 128 then refuse "bad escape"
    else return .char (codeOf c)

/-- Reads the items of a character set after `[` and an optional `^`, up to the closing `]`. -/
def readSetItems (fuel : Nat) (acc : List SetItem) : ReadM (List SetItem) := do
  match fuel with
  | 0 => refuse "unterminated character set"
  | fuel + 1 =>
    let some c ← next? | refuse "unterminated character set"
    if c == ']' && !acc.isEmpty then return acc.reverse
    let first ← if c == '\\' then do
        let some e ← next? | refuse "bad escape (end of pattern)"
        setEscape e
      else pure (SetItem.char (codeOf c))
    if (← accept '-') then
      let some d ← next? | refuse "unterminated character set"
      if d == ']' then return (SetItem.char 45 :: first :: acc).reverse
      let second ← if d == '\\' then do
          let some e ← next? | refuse "bad escape (end of pattern)"
          setEscape e
        else pure (SetItem.char (codeOf d))
      match first, second with
      | .char lo, .char hi =>
        if hi < lo then refuse "bad character range"
        readSetItems fuel (.range lo hi :: acc)
      | _, _ => refuse "bad character range"
    else readSetItems fuel (first :: acc)

/-- What a group of flags does: turns flags on for the rest of the pattern, or turns flags on
and off inside a group. -/
inductive FlagRead where
  | global (on : List Char)
  | scoped (on off : List Char)

/-- Reads the letters of flags to turn on, from `c`, up to `)`, `-` or `:`, which is returned
too. -/
def readOnFlags (fuel : Nat) (c : Char) (on : List Char) : ReadM (List Char × Char) := do
  match fuel with
  | 0 => refuse "missing -, : or )"
  | fuel + 1 =>
    if c == 'L' then refuse "bad inline flags: cannot use 'L' flag with a str pattern"
    let on := on ++ [c]
    if isTypeFlag c && on.any (fun d => isTypeFlag d && d != c) then
      refuse "bad inline flags: flags 'a', 'u' and 'L' are incompatible"
    match ← takeToken with
    | some [d] =>
      if d == ')' || d == '-' || d == ':' then return (on, d)
      else if isFlagLetter d then readOnFlags fuel d on
      else refuse "unknown flag"
    | _ => refuse "missing -, : or )"

/-- Reads the letters of flags to turn off, from `c`, up to `:`. -/
def readOffFlags (fuel : Nat) (c : Char) (off : List Char) : ReadM (List Char) := do
  match fuel with
  | 0 => refuse "missing :"
  | fuel + 1 =>
    if isTypeFlag c then refuse "bad inline flags: cannot turn off flags 'a', 'u' and 'L'"
    let off := off ++ [c]
    match ← takeToken with
    | some [':'] => return off
    | some [d] => if isFlagLetter d then readOffFlags fuel d off else refuse "unknown flag"
    | _ => refuse "missing :"

/-- Reads a group of flags from its first letter (or `-`). The template flag may only be
turned on for the whole pattern. -/
def readFlags (first : Char) : ReadM FlagRead := do
  let fuel := (← get).rest.length + 1
  let (on, stop) ← if first == '-' then pure ([], '-') else readOnFlags fuel first []
  if stop == ')' then return .global on
  if on.contains 't' then refuse "bad inline flags: cannot turn on global flag"
  let off ← if stop == '-' then do
      match ← takeToken with
      | some [d] => if isFlagLetter d then readOffFlags fuel d [] else refuse "unknown flag"
      | _ => refuse "missing flag"
    else pure []
  if off.contains 't' then refuse "bad inline flags: cannot turn off global flag"
  if on.any off.contains then refuse "bad inline flags: flag turned on and off"
  return .scoped on off

/-- Whether a character is blank space that a verbose pattern skips. -/
def isPatternBlank (c : Char) : Bool :=
  c == ' ' || c == '\t' || c == '\n' || c == '\r' || c.toNat == 11 || c.toNat == 12

/-- Skips the tokens of a comment of a verbose pattern, up to and with the next line feed. -/
def skipLineComment (fuel : Nat) : ReadM Unit := do
  match fuel with
  | 0 => return ()
  | fuel + 1 =>
    match ← takeToken with
    | none => return ()
    | some ['\n'] => return ()
    | some _ => skipLineComment fuel

/-- Skips blank space and comments when the pattern is verbose. -/
def skipVerbose (fuel : Nat) : ReadM Unit := do
  match fuel with
  | 0 => return ()
  | fuel + 1 =>
    if !(← get).flags.verbose then return ()
    match ← peek with
    | some c =>
      if isPatternBlank c then
        let _ ← next?; skipVerbose fuel
      else if c == '#' then
        let _ ← next?
        skipLineComment ((← get).rest.length + 1)
        skipVerbose fuel
      else return ()
    | none => return ()

/-- Skips the tokens of a `(?#...)` comment up to and with its `)`. -/
def skipGroupComment (fuel : Nat) : ReadM Unit := do
  match fuel with
  | 0 => refuse "missing ), unterminated comment"
  | fuel + 1 =>
    match ← takeToken with
    | none => refuse "missing ), unterminated comment"
    | some [')'] => return ()
    | some _ => skipGroupComment fuel

/-- Reads a repetition count `{m}`, `{m,}`, `{,n}` or `{m,n}` after `{`; `none` (and nothing
taken) when the brace starts no count. A count of `countLimit` or more is refused, the
lower one first, before the two are compared. -/
def readCount : ReadM (Option (Nat × Option Nat)) := do
  let saved ← get
  let width := saved.rest.length
  let lo ← takeUpTo width Char.isDigit
  let (hasComma, hi) ← if (← accept ',') then do
      let hi ← takeUpTo width Char.isDigit
      pure (true, hi)
    else pure (false, lo)
  if !(← accept '}') || (lo.isEmpty && !hasComma && hi.isEmpty) then
    set saved; return none
  let min := lo.foldl (fun a c => a * 10 + (c.toNat - '0'.toNat)) 0
  let max := if hi.isEmpty then none else some (hi.foldl (fun a c => a * 10 + (c.toNat - '0'.toNat)) 0)
  if min ≥ countLimit then throw .countTooLarge
  match max with
  | some m =>
    if m ≥ countLimit then throw .countTooLarge
    if m < min then refuse "min repeat greater than max repeat"
  | none => pure ()
  return some (min, max)

/-- Applies a repetition to the last item read. -/
def repeatLast (items : List Node) (min : Nat) (max : Option Nat) : ReadM (List Node) := do
  match items with
  | last :: before =>
    if last.isAnchor then refuse "nothing to repeat"
    if last.isRep then refuse "multiple repeat"
    let greed ← if (← accept '?') then pure Greed.lazy
      else if (← accept '+') then pure Greed.possessive else pure Greed.greedy
    if (← get).flags.template then refuse "internal: unsupported template operator"
    return .rep last min max greed :: before
  | [] => refuse "nothing to repeat"

/-- Refuses a reference to a group from inside a look-behind unless the group is closed and
was opened before the look-behind. -/
def checkBehind (gid : Nat) : ReadM Unit := do
  let r ← get
  match r.behindFrom with
  | some start =>
    if (r.widths.lookup gid).isNone then refuse "cannot refer to an open group"
    if gid ≥ start then
      refuse "cannot refer to group defined in the same lookbehind subpattern"
  | none => pure ()

/-- The group number a condition names: a group name, or a whole number as `int` reads it. -/
def conditionGroup (name : List Char) : ReadM Nat := do
  let text := String.ofList name
  if isIdentifier text then
    match (← get).names.lookup text with
    | some i => return i
    | none => refuse "unknown group name"
  else
    match Number.readWholeText text with
    | .value n =>
      if n < 0 then refuse "bad character in group name"
      else if n == 0 then refuse "bad group number"
      else if n.toNat ≥ groupLimit then refuse "invalid group reference"
      else
        modify fun r => { r with asked := n.toNat :: r.asked }
        return n.toNat
    | _ => refuse "bad character in group name"

mutual

/-- Reads alternatives separated by `|` until `)` or the end, as the items of one sequence. -/
def readAlt (fuel : Nat) (top : Bool) (acc : List (List Node)) : ReadM (List Node) := do
  match fuel with
  | 0 => refuse "pattern too deep"
  | fuel + 1 =>
    let branch ← readSeq fuel (top && acc.isEmpty) []
    if (← accept '|') then readAlt fuel top (branch :: acc)
    else return joinBranches (branch :: acc).reverse

/-- Reads the items of one branch. -/
def readSeq (fuel : Nat) (first : Bool) (items : List Node) : ReadM (List Node) := do
  match fuel with
  | 0 => refuse "pattern too deep"
  | fuel + 1 =>
    skipVerbose ((← get).rest.length + 1)
    let flags := (← get).flags
    let mode := flags.caseMode
    match ← peek with
    | none => return unpackGroups items.reverse
    | some c =>
      if c == '|' || c == ')' then return unpackGroups items.reverse
      let _ ← next?
      match c with
      | '*' => readSeq fuel first (← repeatLast items 0 none)
      | '+' => readSeq fuel first (← repeatLast items 1 none)
      | '?' => readSeq fuel first (← repeatLast items 0 (some 1))
      | '{' =>
        match ← readCount with
        | some (lo, hi) => readSeq fuel first (← repeatLast items lo hi)
        | none => readSeq fuel first (.char 123 false mode :: items)
      | '.' => readSeq fuel first (.any flags.dotAll :: items)
      | '^' => readSeq fuel first (.lineStart flags.multiLine :: items)
      | '$' => readSeq fuel first (.lineEnd flags.multiLine :: items)
      | '[' =>
        let neg ← accept '^'
        let set ← readSetItems ((← get).rest.length + 1) []
        readSeq fuel first (finishSet neg set mode :: items)
      | '\\' =>
        let some e ← next? | refuse "bad escape (end of pattern)"
        let node ← readEscape e
        readSeq fuel first (node :: items)
      | '(' =>
        match ← readGroup fuel (first && items.isEmpty) with
        | some node => readSeq fuel first (node :: items)
        | none => readSeq fuel first items
      | _ => readSeq fuel first (.char (codeOf c) false mode :: items)

/-- Reads a group after `(`; `none` for a comment or for flags that apply to the rest. -/
def readGroup (fuel : Nat) (atStart : Bool) : ReadM (Option Node) := do
  match fuel with
  | 0 => refuse "pattern too deep"
  | fuel + 1 =>
    let outer := (← get).flags
    let body (index : Option Nat) (inner : Flags) : ReadM Node := do
      modify fun r => { r with flags := inner }
      let b ← readAlt fuel false []
      if !(← accept ')') then refuse "missing ), unterminated subpattern"
      modify fun r => { r with flags := outer }
      match index with
      | some i =>
        modify fun r => { r with widths := (i, Node.seqWidth r.groupWidth b) :: r.widths }
      | none => pure ()
      return .seq b
    let openGroup (name : Option String) : ReadM Nat := do
      let r ← get
      let i := r.opened + 1
      let names := match name with
        | some n => (n, i) :: r.names
        | none => r.names
      set { r with opened := i, names := names }
      return i
    if !(← accept '?') then
      let i ← openGroup none
      return some (.group (some i) (← body (some i) outer))
    let some c ← next? | refuse "unexpected end of pattern"
    match c with
    | ':' => return some (.group none (← body none outer))
    | '>' => return some (.atomic (← body none outer))
    | '#' =>
      skipGroupComment ((← get).rest.length + 1)
      return none
    | '(' =>
      let name ← getUntil ')' "group name" ((← get).rest.length + 1) []
      let index ← conditionGroup name
      checkBehind index
      let yes ← readSeq fuel false []
      let no ← if (← accept '|') then do
          let no ← readSeq fuel false []
          if (← peek) == some '|' then refuse "conditional backref with more than two branches"
          pure no
        else pure []
      if !(← accept ')') then refuse "missing ), unterminated subpattern"
      return some (.ifGroup index (.seq yes) (.seq no))
    | '=' => return some (.look false false 0 (← body none outer))
    | '!' => return some (.look false true 0 (← body none outer))
    | '<' =>
      let some d ← next? | refuse "unexpected end of pattern"
      if d != '=' && d != '!' then refuse "unknown extension"
      let saved := (← get).behindFrom
      if saved.isNone then modify fun r => { r with behindFrom := some (r.opened + 1) }
      let b ← body none outer
      modify fun r => { r with behindFrom := saved }
      let w := b.width (← get).groupWidth
      if w.lo > lookBackLimit then refuse "looks too much behind"
      if w.hi != some w.lo then refuse "look-behind requires fixed-width pattern"
      return some (.look true (d == '!') w.lo b)
    | 'P' =>
      if (← accept '<') then
        let name ← readName '>'
        if ((← get).names.lookup name).isSome then refuse "redefinition of group name"
        let i ← openGroup (some name)
        return some (.group (some i) (← body (some i) outer))
      else if (← accept '=') then
        let name ← readName ')'
        match (← get).names.lookup name with
        | some i =>
          if ((← get).widths.lookup i).isNone then refuse "cannot refer to an open group"
          checkBehind i
          return some (.backref i outer.caseMode)
        | none => refuse "unknown group name"
      else
        let some _ ← next? | refuse "unexpected end of pattern"
        refuse "unknown extension ?P"
    | _ =>
      if isFlagLetter c || c == '-' then
        match ← readFlags c with
        | .global on =>
          if !atStart then refuse "global flags not at the start of the expression"
          modify fun r => { r with flags := on.foldl (fun f c => f.turn c true) r.flags }
          return none
        | .scoped on off => return some (.flagged (← body none (outer.scope on off)))
      else refuse "unknown extension"

/-- What an escape outside a character set stands for. -/
def readEscape (c : Char) : ReadM Node := do
  let flags := (← get).flags
  let lit (n : Nat) : Node := .char n false flags.caseMode
  let cls (k : CharClass) (neg : Bool) : Node := setNode false [.cls k neg flags.ascii] flags.caseMode
  match c with
  | 'A' => return .textStart
  | 'Z' => return .textEnd
  | 'b' => return .boundary false flags.ascii
  | 'B' => return .boundary true flags.ascii
  | 'd' => return cls .digit false
  | 'D' => return cls .digit true
  | 'w' => return cls .word false
  | 'W' => return cls .word true
  | 's' => return cls .space false
  | 'S' => return cls .space true
  | 'a' => return lit 7
  | 'f' => return lit 12
  | 'n' => return lit 10
  | 'r' => return lit 13
  | 't' => return lit 9
  | 'v' => return lit 11
  | 'x' => return lit (← hexEscape 2)
  | 'u' => return lit (← hexEscape 4)
  | 'U' => return lit (← hexEscape 8)
  | 'N' => return lit (← namedEscape)
  | '0' =>
    let more ← takeUpTo 2 isOctal
    return lit (octalValue more)
  | _ =>
    if c.isDigit then
      let r ← get
      match r.rest with
      | d :: e :: rest =>
        if d.isDigit && isOctal c && isOctal d && isOctal e then
          set { r with rest := rest }
          let v := octalValue [c, d, e]
          if v > 0o377 then refuse "octal escape value outside of range"
          return lit v
        else backref r
      | _ => backref r
    else if c.isAlpha && c.toNat < 128 then refuse "bad escape"
    else return lit (codeOf c)
where
  backref (r : Reader) : ReadM Node := do
    let digits := c :: (r.rest.take 1).filter Char.isDigit
    set { r with rest := r.rest.drop (digits.length - 1) }
    let n := digits.foldl (fun a d => a * 10 + (d.toNat - '0'.toNat)) 0
    if n == 0 || n > r.opened then refuse "invalid group reference"
    if (r.widths.lookup n).isNone then refuse "cannot refer to an open group"
    checkBehind n
    return .backref n r.flags.caseMode

end

/-- A compiled pattern: its tree and the number of its groups. -/
structure Compiled where
  root : Node
  groups : Nat

/-- Whether a pattern ends in a backslash with nothing to escape. -/
def danglingBackslash (pattern : String) : Bool :=
  ((pattern.toList.reverse.takeWhile (· == '\\')).length) % 2 == 1

/-- Reads a whole pattern under the given starting flags. -/
def compile (pattern : String) (flags : Flags := {}) : Except PatternError Compiled := do
  if danglingBackslash pattern then throw (.malformed "bad escape (end of pattern)")
  let fuel := 4 * pattern.length + 16
  let (items, r) ← (readAlt fuel true []).run { rest := pattern.toList, flags := flags }
  if r.flags.ascii && r.flags.unicode then
    throw (.malformed "ASCII and UNICODE flags are incompatible")
  if !r.rest.isEmpty then throw (.malformed "unbalanced parenthesis")
  if r.asked.any (· > r.opened) then throw (.malformed "invalid group reference")
  return ⟨.seq items, r.opened⟩

end Autoresponder.Pattern
