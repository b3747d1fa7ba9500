import Autoresponder.Text.Utf8
import Autoresponder.Yaml.Token

/-!
# Directives, anchors, aliases and tags

A directive starts with `%` at the start of a line: `%YAML major.minor` and
`%TAG handle prefix` are read, any other is kept by name with the rest of its line skipped. An
anchor `&name` or alias `*name` has a name of ASCII letters, digits, `-` and `_`. A tag is
`!<uri>` written out in full, `!` alone, `!suffix` under the primary handle, or
`!handle!suffix` under a named one. A URI is made of letters, digits and the marks URIs allow;
`%` with two hexadecimal digits stands for a byte, and a run of such bytes must be UTF-8.
-/

namespace Autoresponder.Yaml

/-- A character a tag URI may hold as it is. -/
def isUriChar (c : Char) : Bool :=
  ('0' ≤ c && c ≤ '9') || ('A' ≤ c && c ≤ 'Z') || ('a' ≤ c && c ≤ 'z') ||
    "-;/?:@&=+$,_.!~*'()[]%".toList.contains c

/-- Reads a run of `%XX` escapes as UTF-8 text. -/
def uriEscapes (what : String) (start : Mark) : ScanM String := do
  let mark ← here
  let c ← get
  let rec bytes (fuel : Nat) (acc : List Nat) : ScanM (List Nat) := do
    match fuel with
    | 0 => return acc.reverse
    | fuel + 1 =>
      if (← peek) != '%' then return acc.reverse
      forward
      for k in [0, 1] do
        let d ← peekAt k
        if !isHexDigit d then
          refuse (some ("while scanning a " ++ what)) (some start)
            ("expected URI escape sequence of 2 hexadecimal numbers, but found " ++ shown d)
      let n := hexNumber (← ahead 2)
      forward 2
      bytes fuel (n :: acc)
  let codes ← bytes (c.text.size + 1) []
  match Text.decodeUtf8 codes with
  | .ok s => return s
  | .error msg => throw (.refused .scanning
      { context := some ("while scanning a " ++ what), contextMark := some start,
        problem := msg, problemMark := some mark })

/-- Reads a tag URI: its characters with escapes decoded. It may not be empty. -/
def tagUri (what : String) (start : Mark) : ScanM String := do
  let c ← get
  let rec go (fuel : Nat) (chunks : String) : ScanM String := do
    match fuel with
    | 0 => return chunks
    | fuel + 1 =>
      let n ← countAhead fun ch => isUriChar ch && ch != '%'
      let piece ← aheadText n
      forward n
      if (← peek) == '%' then
        let decoded ← uriEscapes what start
        go fuel (chunks ++ piece ++ decoded)
      else return chunks ++ piece
  let value ← go (c.text.size + 1) ""
  if (← get).index == c.index then
    refuse (some ("while parsing a " ++ what)) (some start)
      ("expected URI, but found " ++ shown (← peek))
  return value

/-- Reads a tag handle: `!`, or `!name!`. -/
def tagHandle (what : String) (start : Mark) : ScanM String := do
  let ch ← peek
  if ch != '!' then
    refuse (some ("while scanning a " ++ what)) (some start) ("expected '!', but found " ++ shown ch)
  let c ← get
  let second := c.peekAt 1
  let length ←
    if second == ' ' then pure 1
    else do
      let n := 1 + countWhile c.text isNameChar (c.index + 1)
      let after := c.peekAt n
      if after != '!' then
        forward n
        refuse (some ("while scanning a " ++ what)) (some start)
          ("expected '!', but found " ++ shown after)
      pure (n + 1)
  let value ← aheadText length
  forward length
  return value

/-- Reads the name of an anchor or alias after its indicator. -/
def anchorName (what : String) (start : Mark) : ScanM String := do
  let n ← countAhead isNameChar
  if n == 0 then
    refuse (some ("while scanning an " ++ what)) (some start)
      ("expected alphabetic or numeric character, but found " ++ shown (← peek))
  let name ← aheadText n
  forward n
  let ch ← peek
  if !(isBlankOrEnd ch || "?:,]\x7d%@`".toList.contains ch) then
    refuse (some ("while scanning an " ++ what)) (some start)
      ("expected alphabetic or numeric character, but found " ++ shown ch)
  return name

/-- Reads an anchor `&name` or an alias `*name`. -/
def scanAnchor (isAlias : Bool) : ScanM Token := do
  let start ← here
  forward
  let name ← anchorName (if isAlias then "alias" else "anchor") start
  let stop ← here
  return ⟨if isAlias then .alias name else .anchor name, start, stop⟩

/-- Reads a tag. -/
def scanTag : ScanM Token := do
  let start ← here
  let c ← get
  let second := c.peekAt 1
  let (handle, suffix) ←
    if second == '<' then do
      forward 2
      let suffix ← tagUri "tag" start
      let ch ← peek
      if ch != '>' then
        refuse (some "while parsing a tag") (some start) ("expected '>', but found " ++ shown ch)
      forward
      pure (none, suffix)
    else if isBlankOrEnd second then do
      forward
      pure (none, "!")
    else do
      -- a second `!` before the next blank or break means a named handle
      let n := countWhile c.text (fun ch => !isSpaceOrEnd ch && ch != '!') (c.index + 1)
      let named := c.peekAt (n + 1) == '!'
      let handle ← if named then tagHandle "tag" start else do forward; pure "!"
      let suffix ← tagUri "tag" start
      pure (some handle, suffix)
  let ch ← peek
  if !isSpaceOrEnd ch then
    refuse (some "while scanning a tag") (some start) ("expected ' ', but found " ++ shown ch)
  return ⟨.tag handle suffix, start, ← here⟩

/-- Reads the digits of a version number in a `%YAML` directive. -/
def versionNumber (start : Mark) : ScanM Nat := do
  let ch ← peek
  if !('0' ≤ ch && ch ≤ '9') then
    refuse (some "while scanning a directive") (some start) ("expected a digit, but found " ++ shown ch)
  let n ← countAhead fun d => '0' ≤ d && d ≤ '9'
  let digits ← ahead n
  forward n
  return digits.foldl (fun v d => v * 10 + (d.toNat - '0'.toNat)) 0

/-- Reads the value of a `%YAML` directive. -/
def versionValue (start : Mark) : ScanM DirectiveValue := do
  skipWhile (· == ' ')
  let major ← versionNumber start
  let ch ← peek
  if ch != '.' then
    refuse (some "while scanning a directive") (some start) ("expected a digit or '.', but found " ++ shown ch)
  forward
  let minor ← versionNumber start
  let ch ← peek
  if !isSpaceOrEnd ch then
    refuse (some "while scanning a directive") (some start) ("expected a digit or ' ', but found " ++ shown ch)
  return .version major minor

/-- Reads the value of a `%TAG` directive. -/
def tagPrefixValue (start : Mark) : ScanM DirectiveValue := do
  skipWhile (· == ' ')
  let handle ← tagHandle "directive" start
  let ch ← peek
  if ch != ' ' then
    refuse (some "while scanning a directive") (some start) ("expected ' ', but found " ++ shown ch)
  skipWhile (· == ' ')
  let pre ← tagUri "directive" start
  let ch ← peek
  if !isSpaceOrEnd ch then
    refuse (some "while scanning a directive") (some start) ("expected ' ', but found " ++ shown ch)
  return .tagPrefix handle pre

/-- Reads a directive with the rest of its line. -/
def scanDirective : ScanM Token := do
  let start ← here
  forward
  let n ← countAhead isNameChar
  if n == 0 then
    refuse (some "while scanning a directive") (some start)
      ("expected alphabetic or numeric character, but found " ++ shown (← peek))
  let name ← aheadText n
  forward n
  let ch ← peek
  if !isSpaceOrEnd ch then
    refuse (some "while scanning a directive") (some start)
      ("expected alphabetic or numeric character, but found " ++ shown ch)
  let (value, stop) ←
    if name == "YAML" then do let v ← versionValue start; pure (v, ← here)
    else if name == "TAG" then do let v ← tagPrefixValue start; pure (v, ← here)
    else do
      let stop ← here
      skipWhile (!isBreakOrEnd ·)
      pure (DirectiveValue.none, stop)
  skipWhile (· == ' ')
  if (← peek) == '#' then skipWhile (!isBreakOrEnd ·)
  let ch ← peek
  if !isBreakOrEnd ch then
    refuse (some "while scanning a directive") (some start)
      ("expected a comment or a line break, but found " ++ shown ch)
  let _ ← lineBreak
  return ⟨.directive name value, start, stop⟩

end Autoresponder.Yaml
