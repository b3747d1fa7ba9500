import Autoresponder.Data.Json
import Autoresponder.Text.Basic

/-!
# HTTP requests and responses

What the service's web interface receives and answers. A request has a method, a path with
its percent escapes still in it, query parameters, headers and a body of text; a response has
a status and a body that is either JSON or plain text.

Header names compare without case. A body's media type decides whether it is read as JSON: a
request without one is, and so is one of type `application/json` or `application/*+json`.
-/

namespace Autoresponder.Server

open Autoresponder.Text

/-- A request to the service. -/
structure Request where
  method : String := "GET"
  path : String := "/"
  query : List (String × String) := []
  headers : List (String × String) := []
  body : String := ""
  deriving Inhabited

/-- A response body: a JSON document or plain text. -/
inductive Reply where
  | json (v : Value)
  | text (s : String)
  deriving Inhabited

/-- A response of the service. -/
structure Response where
  status : Nat
  reply : Reply
  deriving Inhabited

/-- A JSON response with a `detail` member, as errors are answered. -/
def Response.detail (status : Nat) (d : Value) : Response := ⟨status, .json (.dict [("detail", d)])⟩

/-- The answer to a request that failed inside the service. -/
def Response.internalError : Response := ⟨500, .text "Internal Server Error"⟩

/-- Lower case of ASCII letters only. -/
def asciiLower (s : String) : String := s.map Char.toLower

/-- The value of a header, looked up without case; the first one wins. -/
def Request.header? (r : Request) (name : String) : Option String :=
  (r.headers.find? fun (k, _) => asciiLower k == asciiLower name).map (·.2)

/-- The value of a hexadecimal digit. -/
def hexValue? (c : Char) : Option Nat :=
  if c.isDigit then some (c.toNat - '0'.toNat)
  else if 'a' ≤ c && c ≤ 'f' then some (c.toNat - 'a'.toNat + 10)
  else if 'A' ≤ c && c ≤ 'F' then some (c.toNat - 'A'.toNat + 10)
  else none

/-- The bytes a text stands for once its percent escapes are undone. -/
def unescapedBytes : List Char → List UInt8
  | [] => []
  | '%' :: a :: b :: r =>
    match hexValue? a, hexValue? b with
    | some x, some y => (x * 16 + y).toUInt8 :: unescapedBytes r
    | _, _ => '%'.toString.toUTF8.toList ++ unescapedBytes (a :: b :: r)
  | c :: r => c.toString.toUTF8.toList ++ unescapedBytes r

/-- Text from bytes read as UTF-8, each byte that starts no valid sequence standing for the
replacement character. -/
def decodeLoose (bs : List UInt8) : String :=
  match String.fromUTF8? (ByteArray.mk bs.toArray) with
  | some s => s
  | none =>
    -- each step takes at least one byte, so the byte count bounds the steps
    let rec go : Nat → List UInt8 → List Char
      | 0, _ => []
      | _, [] => []
      | fuel + 1, b :: r =>
        if b < 0x80 then Char.ofNat b.toNat :: go fuel r
        else
          let width := if b ≥ 0xF0 then 4 else if b ≥ 0xE0 then 3 else if b ≥ 0xC0 then 2 else 1
          match String.fromUTF8? (ByteArray.mk (b :: r.take (width - 1)).toArray) with
          | some s => if width > 1 then s.toList ++ go fuel (r.drop (width - 1))
            else '\uFFFD' :: go fuel r
          | none => '\uFFFD' :: go fuel r
    String.ofList (go bs.length bs)

/-- A path with its percent escapes undone. -/
def unescapePath (path : String) : String := decodeLoose (unescapedBytes path.toList)

/-- The media type of a body, as `main/sub` in lower case; a value that is not of that
shape counts as plain text. -/
def mediaType (value : String) : String × String :=
  let kind := asciiLower (trim ((value.splitOn ";").headD ""))
  match kind.splitOn "/" with
  | [main, sub] => (main, sub)
  | _ => ("text", "plain")

/-- Whether a request's body is read as JSON. -/
def Request.jsonBody (r : Request) : Bool :=
  match r.header? "content-type" with
  | none => true
  | some value =>
    let (main, sub) := mediaType value
    main == "application" && (sub == "json" || sub.endsWith "+json")

/-- A body read as a JSON document; a byte order mark in front is skipped. -/
def readJson (body : String) : Except Json.ReadFailure Value :=
  match body.toList with
  | '\uFEFF' :: r => Json.read (String.ofList r)
  | _ => Json.read body

end Autoresponder.Server
