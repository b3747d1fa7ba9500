/-!
# Reading UTF-8 bytes

Bytes decode to characters by the rules of UTF-8: one byte below `0x80`, or a lead byte
`0xC2`–`0xF4` followed by one to three continuation bytes, with no overlong form, no surrogate
and nothing beyond `U+10FFFF`. The first fault ends the reading; it is reported as a byte with
no place at the start of a character, a byte that cannot continue the character begun before
it, or bytes that end before their character does. The bytes a fault covers run from the lead
byte to the byte before the one at fault, or to the end for a character cut short.
-/

namespace Autoresponder.Text

/-- Whether a byte continues a character. -/
def isContinuation (b : Nat) : Bool := 0x80 ≤ b && b ≤ 0xBF

/-- The range a second byte must lie in after a lead byte, when it is narrower than that of
continuation bytes. -/
def secondRange (lead : Nat) : Nat × Nat :=
  if lead == 0xE0 then (0xA0, 0xBF)
  else if lead == 0xED then (0x80, 0x9F)
  else if lead == 0xF0 then (0x90, 0xBF)
  else if lead == 0xF4 then (0x80, 0x8F)
  else (0x80, 0xBF)

/-- How many bytes a character with this lead byte has; none for a byte that cannot lead. -/
def sequenceLength (lead : Nat) : Option Nat :=
  if lead < 0x80 then some 1
  else if lead < 0xC2 then none
  else if lead < 0xE0 then some 2
  else if lead < 0xF0 then some 3
  else if lead < 0xF5 then some 4
  else none

/-- The number of bytes of a character, counting from its lead, that are good continuations;
stops at the first that is not. -/
def goodContinuations (lead : Nat) (rest : List Nat) : Nat :=
  match rest with
  | [] => 0
  | b :: more =>
    let (lo, hi) := secondRange lead
    if lo ≤ b && b ≤ hi then 1 + (more.takeWhile isContinuation).length else 0

/-- The value of a character from its lead byte and continuation bytes. -/
def sequenceValue (lead : Nat) (rest : List Nat) : Nat :=
  let mask := if rest.length == 1 then 0x1F else if rest.length == 2 then 0x0F else 0x07
  rest.foldl (fun v b => v * 64 + (b - 0x80)) (lead % (mask + 1))

/-- Why bytes do not decode: the first and last position of the bytes at fault, and the
reason. -/
structure DecodeFault where
  first : Nat
  last : Nat
  reason : String

/-- The message of a decoding fault, naming the byte when it is one. -/
def DecodeFault.message (f : DecodeFault) (bytes : List Nat) : String :=
  let hex (n : Nat) : String :=
    let ds := Nat.toDigits 16 n
    String.ofList (List.replicate (2 - ds.length) '0' ++ ds)
  if f.first == f.last then
    "'utf-8' codec can't decode byte 0x" ++ hex (bytes.getD f.first 0) ++ " in position " ++
      toString f.first ++ ": " ++ f.reason
  else
    "'utf-8' codec can't decode bytes in position " ++ toString f.first ++ "-" ++
      toString f.last ++ ": " ++ f.reason

/-- Decodes bytes from position `pos` on, adding characters to `acc`. -/
def decodeFrom (pos : Nat) (acc : List Char) (bytes : List Nat) : Except DecodeFault String :=
  match bytes with
  | [] => .ok (String.ofList acc.reverse)
  | lead :: rest =>
    match sequenceLength lead with
    | none => .error ⟨pos, pos, "invalid start byte"⟩
    | some 1 => decodeFrom (pos + 1) (Char.ofNat lead :: acc) rest
    | some n =>
      let need := n - 1
      let good := min (goodContinuations lead rest) need
      if good == need then
        let value := sequenceValue lead (rest.take need)
        decodeFrom (pos + n) (Char.ofNat value :: acc) (rest.drop need)
      else if good == rest.length then .error ⟨pos, pos + rest.length, "unexpected end of data"⟩
      else .error ⟨pos, pos + good, "invalid continuation byte"⟩
termination_by bytes.length
decreasing_by all_goals simp only [List.length_cons, List.length_drop]; omega

/-- Decodes UTF-8 bytes, or gives the message of the first fault. -/
def decodeUtf8 (bytes : List Nat) : Except String String :=
  match decodeFrom 0 [] bytes with
  | .ok s => .ok s
  | .error f => .error (f.message bytes)

end Autoresponder.Text
