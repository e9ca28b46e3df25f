import SchoolDesk.Web.Date
import SchoolDesk.Web.Message
import SchoolDesk.Web.Range

/-!
# Pages

A page is a text of some type with the time of its last change.  Somebody who asks
for it may make conditions and may ask for a part.

* Nobody gets a page that was changed after the date of `if-unmodified-since`.
* Nobody gets a page that was not changed after the date of `if-modified-since`.
* `range` asks for some bytes.  One range is served.  Ranges that cannot be read or
  satisfied are refused, and so are several, which are never served at once.

The conditions are looked at in this order.  A date that cannot be read makes no
condition, and a `range` that is not visible ASCII asks for nothing.
-/

namespace SchoolDesk.Web

/-- A text of some type. -/
structure Page where
  contentType : String
  text : String
  /-- The second of the last change, counted as in dates. -/
  modified : Nat
deriving DecidableEq, Repr

namespace Page

/-- The text of a page in bytes. -/
def bytes (p : Page) : Bytes := Text.Utf8.encode p.text

/-- The page was changed after the date that a request gives. -/
def brokePromise (p : Page) (r : Request) : Bool :=
  ((r.header? "if-unmodified-since").bind Date.ofValue?).any fun d => d.seconds < p.modified

/-- The page was not changed after the date that a request gives. -/
def isKnown (p : Page) (r : Request) : Bool :=
  ((r.header? "if-modified-since").bind Date.ofValue?).any fun d => p.modified ≤ d.seconds

/-- What a request asks for beside the whole page. -/
def rangeValue? (r : Request) : Option Bytes :=
  (r.header? "range").filter fun value => value.all Byte.isVisible

/-- What the value of a range header asks for, if it can be had. -/
def extents? (p : Page) (value : Bytes) : Option (List Extent) :=
  (ByteRange.listOfValue? value).bind (ByteRange.extents? p.bytes.length)

/-- Some text of the page. -/
def part (p : Page) (status : Status) (text : String) : Response :=
  { status := status, contentType := some p.contentType, text := text }

/-- A text that only those see who want one. -/
def textFor (r : Request) (text : String) : String := if r.method = .head then "" else text

/-- The wording of several ranges at once. -/
def severalRanges : String := "Cannot serve multipart range requests"

/-- The response to a request for some bytes.  The refusal of several ranges is
worded whether or not the text is wanted. -/
def excerpt (p : Page) (r : Request) (value : Bytes) : Response :=
  match p.extents? value with
  | none => p.part .rangeNotSatisfiable ""
  | some [e] => p.part .partialContent (textFor r (Text.Utf8.decodeLossy (e.of p.bytes)))
  | some _ => p.part .rangeNotSatisfiable severalRanges

/-- The response to a request for a page. -/
def response (p : Page) (r : Request) : Response :=
  if p.brokePromise r then { status := .preconditionFailed }
  else if p.isKnown r then { status := .notModified }
  else
    match rangeValue? r with
    | some value => p.excerpt r value
    | none => p.part .ok (textFor r p.text)

end Page

end SchoolDesk.Web
