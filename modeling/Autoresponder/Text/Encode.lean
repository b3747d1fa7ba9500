import Autoresponder.Text.Basic

/-!
# Writing texts in ASCII and UTF-8

A text can be written in ASCII when all its characters are below 128, and in UTF-8 when it
holds no lone surrogate. When it cannot, the refusal names the first run of characters at
fault by position: the character itself when the run is one long, else the first and last
position.
-/

namespace Autoresponder.Text

/-- A character as an escape: two, four or eight lower-case hexadecimal digits. -/
def hexEscape (c : Char) : String :=
  let n := (standsForSurrogate? c).getD c.toNat
  let (mark, width) := if n ≤ 0xFF then ("\\x", 2) else if n ≤ 0xFFFF then ("\\u", 4) else ("\\U", 8)
  let digits := Nat.toDigits 16 n
  mark ++ String.ofList (List.replicate (width - digits.length) '0' ++ digits)

/-- Why a text cannot be written in ASCII: the first run of other characters, by position;
none when it can. -/
def asciiRefusal (s : String) : Option String :=
  let cs := s.toList
  let start := cs.takeWhile (·.toNat < 128) |>.length
  match cs.drop start with
  | [] => none
  | c :: rest =>
    let count := 1 + (rest.takeWhile (·.toNat ≥ 128)).length
    let tail := ": ordinal not in range(128)"
    if count == 1 then
      some ("'ascii' codec can't encode character '" ++ hexEscape c ++ "' in position " ++
        toString start ++ tail)
    else
      some ("'ascii' codec can't encode characters in position " ++ toString start ++ "-" ++
        toString (start + count - 1) ++ tail)

/-- Whether a character stands for a lone surrogate. -/
def isSurrogate (c : Char) : Bool := (standsForSurrogate? c).isSome

/-- Why a text cannot be written in UTF-8: the first run of lone surrogates, by position;
none when it can. -/
def utf8Refusal (s : String) : Option String :=
  let cs := s.toList
  let start := cs.takeWhile (!isSurrogate ·) |>.length
  match cs.drop start with
  | [] => none
  | c :: rest =>
    let count := 1 + (rest.takeWhile isSurrogate).length
    let tail := ": surrogates not allowed"
    if count == 1 then
      some ("'utf-8' codec can't encode character '" ++ hexEscape c ++ "' in position " ++
        toString start ++ tail)
    else
      some ("'utf-8' codec can't encode characters in position " ++ toString start ++ "-" ++
        toString (start + count - 1) ++ tail)

end Autoresponder.Text
