import Autoresponder.Data.Access
import Autoresponder.Net.Idna
import Autoresponder.Text.Encode

/-!
# Request addresses

The address an outgoing request goes to, written the way the HTTP client sends it. An address
splits into scheme, authority, path, query and fragment (RFC 3986, appendix B). The scheme
and host are lower-cased, a port equal to the scheme's default is dropped, `.` and `..`
segments of the path of an address with a scheme or authority are resolved, and characters
outside each part's safe set are percent-encoded as UTF-8, while escapes already written are
kept. An address without both a scheme and a host is taken relative to the root: its path
and query follow a single `/`, and its fragment is dropped.

A host outside ASCII is written in its internationalized ASCII form (see `domainAscii?`),
after it is lower-cased.

An address with an ASCII control character, a port that is not a number, a malformed IPv4 or
IPv6 host, a host outside ASCII that has no ASCII form, or a path that does not fit its
address is refused.
-/

namespace Autoresponder.Net

open Autoresponder.Text

/-- The parts of an address, as written. -/
structure Address where
  scheme : Option String := none
  authority : Option String := none
  path : String := ""
  query : Option String := none
  fragment : Option String := none
  deriving Inhabited

/-- Characters that never need escaping. -/
def unreserved (c : Char) : Bool :=
  c.isAlphanum && c.toNat < 128 || c == '-' || c == '.' || c == '_' || c == '~'

/-- Delimiters that may stand in every part. -/
def subDelims : List Char := "!$&'()*+,;=".toList

/-- Percent-escapes of the UTF-8 bytes of a character, in upper-case hexadecimal. -/
def escapeChar (c : Char) : List Char :=
  c.toString.toUTF8.toList.flatMap fun b =>
    let digit (n : Nat) : Char := if n < 10 then Char.ofNat (48 + n) else Char.ofNat (55 + n)
    ['%', digit (b.toNat / 16), digit (b.toNat % 16)]

/-- Whether a character is a hexadecimal digit. -/
def isHexDigit (c : Char) : Bool :=
  c.isDigit || ('a' ≤ c && c ≤ 'f') || ('A' ≤ c && c ≤ 'F')

/-- Percent-encodes the characters of a text outside the unreserved ones and `safe`, keeping
every `%` that starts an escape already written. -/
def escapeWith (safe : List Char) : List Char → List Char
  | [] => []
  | '%' :: a :: b :: r =>
    if isHexDigit a && isHexDigit b then '%' :: a :: b :: escapeWith safe r
    else (if safe.contains '%' then ['%'] else escapeChar '%') ++ escapeWith safe (a :: b :: r)
  | c :: r =>
    (if unreserved c || safe.contains c then [c] else escapeChar c) ++ escapeWith safe r

/-- Percent-encodes a text for one part of an address. -/
def escapeText (safe : List Char) (s : String) : String := String.ofList (escapeWith safe s.toList)

/-- Splits an address into its parts. -/
def Address.split (s : String) : Address :=
  let cs := s.toList
  let schemeChar (d : Char) : Bool := d.isAlphanum && d.toNat < 128 || d == '+' || d == '.' || d == '-'
  let (scheme, rest) : Option String × List Char := match cs with
    | c :: r =>
      if c.isAlpha && c.toNat < 128 then
        let run := r.takeWhile schemeChar
        match r.drop run.length with
        | ':' :: after => (some (String.ofList (c :: run)), after)
        | _ => (none, cs)
      else (none, cs)
    | [] => (none, cs)
  let (authority, rest) : Option String × List Char := match rest with
    | '/' :: '/' :: r =>
      let a := r.takeWhile fun d => d != '/' && d != '?' && d != '#'
      (some (String.ofList a), r.drop a.length)
    | _ => (none, rest)
  let path := rest.takeWhile fun d => d != '?' && d != '#'
  let rest := rest.drop path.length
  let (query, rest) : Option String × List Char := match rest with
    | '?' :: r =>
      let q := r.takeWhile (· != '#')
      (some (String.ofList q), r.drop q.length)
    | _ => (none, rest)
  let fragment := match rest with
    | '#' :: r => some (String.ofList r)
    | _ => none
  { scheme, authority, path := String.ofList path, query, fragment }

/-- Drops `.` segments of a path and lets each `..` remove the segment before it. -/
def resolveDots (path : String) : String :=
  let parts := pieces '/' path
  if !(parts.contains "." || parts.contains "..") then path
  else
    let kept := parts.foldl (fun out part =>
      if part == "." then out
      else if part == ".." then (if out.isEmpty || out == [""] then out else out.dropLast)
      else out ++ [part]) []
    "/".intercalate kept

/-- The port of an address once read: none when empty or the scheme's default. -/
def portOf (scheme : String) (port : String) : Except String (Option Int) :=
  if port.isEmpty then .ok none
  else match Value.readWhole? port with
    | none => .error ("Invalid port: " ++ quoteText port)
    | some n =>
      let default? : Option Int := match scheme with
        | "ftp" => some 21
        | "http" => some 80
        | "https" => some 443
        | "ws" => some 80
        | "wss" => some 443
        | _ => none
      .ok (if default? == some n then none else some n)

/-- Whether a text is a dotted IPv4 address of four decimal parts below 256, without
leading zeros. -/
def ipv4 (host : String) : Bool :=
  match host.splitOn "." with
  | [a, b, c, d] => [a, b, c, d].all fun p =>
    !p.isEmpty && p.length ≤ 3 && p.all Char.isDigit && (p.length == 1 || !p.startsWith "0") &&
      (p.toNat?.getD 256) < 256
  | _ => false

/-- Whether a text starts with a run of digits after `pre` that `rest` accepts after one
more character, of any kind but a line break; every length of the run is tried. -/
def digitSplits (rest : List Char → Bool) : List Char → List Char → Bool
  | _, [] => false
  | pre, c :: cs =>
    if !c.isDigit then false
    else
      let pre := pre ++ [c]
      (match cs with
        | sep :: after => sep != '\n' && rest after
        | [] => false) || digitSplits rest pre cs

/-- Whether a text is `runs` runs of digits with one character, of any kind but a line
break, between each two. -/
def digitRuns : Nat → List Char → Bool
  | 0, _ => false
  | 1, cs => !cs.isEmpty && cs.all Char.isDigit
  | k + 2, cs => digitSplits (digitRuns (k + 1)) [] cs

/-- Whether a host looks like an IPv4 address: four runs of digits with one character
between each, as a host is first recognised. -/
def ipv4Shaped (host : String) : Bool := digitRuns 4 host.toList

/-- Whether a piece of an IPv6 address is a group: one to four hexadecimal digits. -/
def isGroup (part : String) : Bool :=
  !part.isEmpty && part.length ≤ 4 && part.toList.all isHexDigit

/-- Whether the colon-separated parts of an IPv6 address (an IPv4 tail already counted as
two groups) make one: eight groups, or fewer with one empty part between two others standing
for the groups left out (at least one). An empty first or last part is allowed only as the
edge of such a gap. -/
def groupsFit (parts : List String) : Bool :=
  let n := parts.length
  let inner := ((parts.drop 1).take (n - 2)).zipIdx.filter fun (p, _) => p.isEmpty
  let firstEmpty := parts.head?.map String.isEmpty == some true
  let lastEmpty := parts.getLast?.map String.isEmpty == some true
  if n > 9 then false
  else match inner with
    | [] =>
      n == 8 && !firstEmpty && !lastEmpty && parts.all isGroup
    | [(_, i)] =>
      let gap := i + 1
      let high := if firstEmpty then gap - 1 else gap
      let low := if lastEmpty then n - gap - 2 else n - gap - 1
      (!firstEmpty || gap == 1) && (!lastEmpty || n - gap - 1 == 1) && high + low < 8 &&
        ((parts.take gap).drop (if firstEmpty then 1 else 0)).all isGroup &&
        ((parts.drop (gap + 1)).take low).all isGroup
    | _ => false

/-- Whether a text is an IPv6 address: groups separated by colons, perhaps ending in a dotted
IPv4 address, and perhaps followed by `%` and a non-empty zone without another `%`; no `/`
anywhere. -/
def ipv6 (text : String) : Bool :=
  let address? : Option String := match text.splitOn "%" with
    | [a] => some a
    | [a, zone] => if zone.isEmpty then none else some a
    | _ => none
  match address? with
  | none => false
  | some a =>
    let parts := a.splitOn ":"
    !text.contains '/' && !a.isEmpty && parts.length ≥ 3 &&
      match parts.getLast? with
      | some tail =>
        if tail.contains '.' then ipv4 tail && groupsFit (parts.dropLast ++ ["0", "0"])
        else groupsFit parts
      | none => false

/-- The host as it is written: an IPv4 address as it is; an IPv6 address without its
brackets; an ASCII name lower-cased and escaped; any other name lower-cased in its
internationalized ASCII form. -/
def hostText (host : String) : Except String String :=
  if host.isEmpty then .ok ""
  else if ipv4Shaped host then
    if ipv4 host then .ok host else .error ("Invalid IPv4 address: " ++ quoteText host)
  else if host.startsWith "[" && host.endsWith "]" && host.length ≥ 2 then
    let inner := String.ofList ((host.toList.drop 1).dropLast)
    if ipv6 inner then .ok inner else .error ("Invalid IPv6 address: " ++ quoteText host)
  else if host.toList.all fun c => c.toNat < 128 then
    .ok (escapeText (subDelims ++ "\"\x60\x7b\x7d%|\\".toList) (host.map Char.toLower))
  else
    match domainAscii? (Text.lower host) with
    | some name => .ok name
    | none => .error ("Invalid IDNA hostname: " ++ quoteText host)

/-- The authority as it is written: user information, host (bracketed when it holds a colon)
and port; and the host alone. The user information runs to the last `@`; a host that starts
with `[` runs to the last `]` when there is one, and any other host to the first `:`; a
colon after the host starts the port. -/
def authorityText (scheme : String) (authority : String) : Except String (String × String) := do
  let cs := authority.toList
  let (userinfo, rest) := match cs.reverse.span (· != '@') with
    | (r, '@' :: u) => (some (String.ofList u.reverse), r.reverse)
    | _ => (none, cs)
  let (host, after) : List Char × List Char :=
    match rest, rest.reverse.span (· != ']') with
    | '[' :: _, (r, ']' :: h) => ((']' :: h).reverse, r.reverse)
    | _, _ => rest.span fun d => d != ':' && d != '@'
  let port := match after with
    | ':' :: p => p
    | p => p
  let host ← hostText (String.ofList host)
  let port ← portOf scheme (String.ofList port)
  let user := (userinfo.map (escapeText (subDelims ++ [':']))).getD ""
  return ((if user.isEmpty then "" else user ++ "@") ++
    (if host.toList.contains ':' then "[" ++ host ++ "]" else host) ++
    (match port with | some p => ":" ++ toString p | none => ""), host)

/-- An address as the client sends it, or why it is refused. -/
def normalize (url : String) : Except String String := do
  if url.length > 65536 then throw "URL too long"
  match url.toList.zipIdx.find? (fun (c, _) => c.toNat < 32 || c.toNat == 127) with
  | some (c, i) =>
    throw ("Invalid non-printable ASCII character in URL, " ++ quoteText c.toString ++
      " at position " ++ toString i ++ ".")
  | none => pure ()
  let a := Address.split url
  let scheme := (a.scheme.map fun s => s.map Char.toLower).getD ""
  -- the default port is dropped only when the scheme is written in lower case
  let (authority, host) ← authorityText (a.scheme.getD "") (a.authority.getD "")
  let hasScheme := !scheme.isEmpty
  let hasAuthority := !authority.isEmpty
  let path := if hasScheme || hasAuthority then resolveDots a.path else a.path
  if hasAuthority && !path.isEmpty && !path.startsWith "/" then
    throw "For absolute URLs, path must be empty or begin with '/'"
  if !hasScheme && !hasAuthority then
    if path.startsWith "//" then throw "Relative URLs cannot have a path starting with '//'"
    if path.startsWith ":" then throw "Relative URLs cannot have a path starting with ':'"
  let path := escapeText (subDelims ++ ":/[]@".toList) path
  let query := a.query.map (escapeText (subDelims ++ ":/?[]@".toList))
  let fragment := a.fragment.map (escapeText (subDelims ++ ":/?#[]@".toList))
  let queryText := (query.map ("?" ++ ·)).getD ""
  -- an address needs a scheme and a host to stand on its own
  if hasScheme && !host.isEmpty then
    return scheme ++ ":" ++ "//" ++ authority ++ path ++ queryText ++
      ((fragment.map ("#" ++ ·)).getD "")
  else
    return "/" ++ String.ofList (path.toList.dropWhile (· == '/')) ++ queryText

end Autoresponder.Net
