/-!
# Reading base64

Base64 writes three bytes as four characters of the alphabet `A`–`Z`, `a`–`z`, `0`–`9`, `+`
and `/`, each standing for six bits, with `=` padding a last group of two or three. Reading is
lenient: characters outside the alphabet are skipped, padding ends the reading once it
completes a group, and padding too early is skipped too. What is left over must make whole
bytes: one character alone is refused with the count of data characters, and a group of two
or three without its padding is refused as incorrect padding.
-/

namespace Autoresponder.Text

/-- The six bits a character of the alphabet stands for. -/
def base64Digit (b : Nat) : Option Nat :=
  if 65 ≤ b && b ≤ 90 then some (b - 65)
  else if 97 ≤ b && b ≤ 122 then some (b - 71)
  else if 48 ≤ b && b ≤ 57 then some (b + 4)
  else if b == 43 then some 62
  else if b == 47 then some 63
  else none

/-- Where reading stands inside a group: how many characters of it were read, the bits left
over from the last one, and how many padding characters came since the last data
character. -/
structure Base64State where
  place : Nat := 0
  left : Nat := 0
  pads : Nat := 0
  out : Array Nat := #[]

/-- Reads one character; none once padding has ended the reading. -/
def Base64State.step (s : Base64State) (b : Nat) : Option Base64State :=
  if b == 61 then
    if s.place ≥ 2 && s.place + (s.pads + 1) ≥ 4 then none
    else some { s with pads := if s.place ≥ 2 then s.pads + 1 else s.pads }
  else
    match base64Digit b with
    | none => some s
    | some v =>
      let s := { s with pads := 0 }
      match s.place with
      | 0 => some { s with place := 1, left := v }
      | 1 => some { s with place := 2, out := s.out.push ((s.left * 4 + v / 16) % 256), left := v % 16 }
      | 2 => some { s with place := 3, out := s.out.push ((s.left * 16 + v / 4) % 256), left := v % 4 }
      | _ => some { s with place := 0, out := s.out.push ((s.left * 64 + v) % 256), left := 0 }

/-- Reads characters until the text ends or padding ends the reading. -/
def Base64State.run (s : Base64State) : List Nat → Base64State × Bool
  | [] => (s, false)
  | b :: bs =>
    match s.step b with
    | some s' => s'.run bs
    | none => (s, true)

/-- The bytes that base64 text (given as its character codes) stands for, or why it does not
make whole bytes. -/
def decodeBase64 (text : List Nat) : Except String (List Nat) :=
  let (s, ended) := Base64State.run {} text
  if ended || s.place == 0 then .ok s.out.toList
  else if s.place == 1 then
    .error ("Invalid base64-encoded string: number of data characters (" ++
      toString (s.out.size / 3 * 4 + 1) ++ ") cannot be 1 more than a multiple of 4")
  else .error "Incorrect padding"

end Autoresponder.Text
