import Autoresponder.Flow.Node
import Autoresponder.Phone
import Autoresponder.Fault

/-!
# Outbound messages

What a workspace sends to a customer, and the request body the messaging provider takes
for it. Every body has the same envelope: the product, the recipient type, the recipient's
number as digits only, the message type, and the type's own object under the type's name.

Texts shown on buttons and list rows are clipped: surrounding blanks are removed, and a text
longer than the limit keeps one character less than the limit and ends in an ellipsis. Up to
three options are sent as reply buttons, more as a list of at most ten rows.
-/

namespace Autoresponder.Channel

open Autoresponder.Text Autoresponder.Flow

/-- One reply button or list row. -/
structure Choice where
  id : String
  title : String
  description : String := ""
  deriving Inhabited

/-- The kinds of media a message can carry. -/
inductive MediaKind where
  | image
  | video
  | audio
  | document
  deriving Inhabited, BEq, DecidableEq

namespace MediaKind

/-- The name the provider uses. -/
def name : MediaKind → String
  | .image => "image"
  | .video => "video"
  | .audio => "audio"
  | .document => "document"

/-- All kinds. -/
def all : List MediaKind := [.image, .video, .audio, .document]

/-- The kind of a name, if it is one. -/
def ofName? (s : String) : Option MediaKind := all.find? (·.name == s)

/-- The kind of a name, or the error for an unsupported one. -/
def ofName (s : String) : Except Fault MediaKind :=
  match ofName? s with
  | some k => .ok k
  | none => .error (.badValue ("Unsupported media type: " ++ s))

end MediaKind

/-- A message to send. -/
inductive Outbound where
  | text (body : String)
  | template (name : String) (language : String)
  | interactive (body : String) (options : List Choice)
  | media (kind : MediaKind) (link : String) (caption : String)
  | location (place : Location)
  | cta (body : String) (button : CallToAction)
  deriving Inhabited

/-- At most this many options go out as reply buttons. -/
def maxButtons : Nat := 3

/-- A list message holds at most this many rows. -/
def maxRows : Nat := 10

/-- A text without surrounding blanks, cut to `limit` characters with an ellipsis. -/
def clip (s : String) (limit : Nat) : String :=
  let t := trim s
  if t.length ≤ limit then t else String.ofList (t.toList.take (limit - 1)) ++ "…"

/-- The last segment of a link, ignoring trailing slashes, used as a document's file name. -/
def fileName (link : String) : String :=
  let name := ((dropEndOf link ['/']).splitOn "/").getLast?.getD ""
  if name.isEmpty then "document" else name

/-- A link made absolute against a media base, unless it already names a web scheme. -/
def absoluteLink (base link : String) : String :=
  if link.startsWith "http://" || link.startsWith "https://" || base.isEmpty then link
  else dropEndOf base ['/'] ++ "/" ++ dropStartOf link ['/']

namespace Outbound

/-- The provider's name for the message type. -/
def typeName : Outbound → String
  | .text _ => "text"
  | .template _ _ => "template"
  | .interactive _ _ => "interactive"
  | .media k _ _ => k.name
  | .location _ => "location"
  | .cta _ _ => "interactive"

/-- A reply button for an option. -/
def button (o : Choice) : Value :=
  .dict [("type", .str "reply"), ("reply", .dict [("id", .str o.id), ("title", .str (clip o.title 20))])]

/-- A list row for an option; the description only when there is one. -/
def row (o : Choice) : Value :=
  .dict ([("id", .str o.id), ("title", .str (clip o.title 24))] ++
    if o.description.isEmpty then [] else [("description", .str (clip o.description 72))])

/-- The object of an interactive message offering options. -/
def choices (body : String) (options : List Choice) : Value :=
  let shown := if (trim body).isEmpty then "Please choose an option" else trim body
  if options.length ≤ maxButtons then
    .dict [("type", .str "button"), ("body", .dict [("text", .str shown)]),
      ("action", .dict [("buttons", .list (options.map button))])]
  else
    .dict [("type", .str "list"), ("body", .dict [("text", .str shown)]),
      ("action", .dict [("button", .str "Options"), ("sections", .list [.dict
        [("title", .str "Options"), ("rows", .list ((options.take maxRows).map row))]])])]

/-- The type's own object. -/
def content : Outbound → Value
  | .text body => .dict [("preview_url", .bool false), ("body", .str body)]
  | .template name language => .dict [("name", .str name), ("language", .dict [("code", .str language)])]
  | .interactive body options => choices body options
  | .media kind link caption =>
    .dict ([("link", .str link)] ++
      (if kind == .document then [("filename", .str (fileName link))] else []) ++
      (if !caption.isEmpty && kind != .audio then [("caption", .str caption)] else []))
  | .location p =>
    .dict ([("latitude", .float p.latitude), ("longitude", .float p.longitude)] ++
      (if p.name.isEmpty then [] else [("name", .str p.name)]) ++
      (if p.address.isEmpty then [] else [("address", .str p.address)]))
  | .cta body b =>
    let shown := if (trim body).isEmpty then b.buttonText else trim body
    .dict [("type", .str "cta_url"), ("body", .dict [("text", .str shown)]),
      ("action", .dict [("name", .str "cta_url"),
        ("parameters", .dict [("display_text", .str (clip b.buttonText 20)), ("url", .str b.url)])])]

/-- The request body that sends the message to a phone number. -/
def payload (recipient : String) (m : Outbound) : Value :=
  .dict [("messaging_product", .str "whatsapp"), ("recipient_type", .str "individual"),
    ("to", .str (Phone.waId recipient)), ("type", .str m.typeName), (m.typeName, m.content)]

/-- A media message, refusing kinds the provider does not take. -/
def ofMedia (fileType link caption : String) : Except Fault Outbound := do
  let k ← MediaKind.ofName fileType
  return .media k link caption

end Outbound

end Autoresponder.Channel
