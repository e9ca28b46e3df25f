import SchoolDesk.Desk.Basic
import SchoolDesk.Proofs.Json.Object
import SchoolDesk.Proofs.Web.Route

/-!
# What is asked and what is replied

What somebody asks of the desk beside the route is in the query of the target.  A field
comes back from a query that it is written into (`queryField_of_target`).

The desk replies in JSON.  A response *reports* a text if its own text is an object with
one member and the value of that is the text, read as JSON and not compared with what the
desk writes.  `reports_document` says that such an object reports any text, whatever its
characters are, and `Refusal.reports_response` that a refusal reports its wording.
-/

namespace SchoolDesk

open Json (Document)
open Text.Utf8 (encode)
open Web

/-! ## Targets -/

namespace Web.Request

variable {r : Request} {path query : Bytes} (plain : Byte.of '?' ∉ path)
  (target : r.target = path ++ Byte.of '?' :: query)

include plain target

theorem path_of_target : r.path = path := by
  rw [Request.path, target, Text.cut_append_sep plain]

theorem query_of_target : r.query = query := by
  rw [Request.query, query?, target, Text.cut_append_sep plain]
  rfl

end Web.Request

/-- A field comes back from a query with no other field. -/
theorem Web.Form.field_encodeField (name value : String) :
    field name (encodeField name value) = .ok value := by
  rw [field, fields_encodeField]
  simp

/-- A field comes back from a target with no other field in its query. -/
theorem Desk.queryField_of_target {r : Request} {path : Bytes} {name value : String}
    (plain : Byte.of '?' ∉ path)
    (target : r.target = path ++ Byte.of '?' :: Form.encodeField name value) :
    queryField name r = .ok value := by
  rw [queryField, Request.query_of_target plain target, Form.field_encodeField]
  rfl

/-! ## Reports -/

/-- The text of a response is JSON, an object with one member whose value is a text. -/
structure Web.Response.Reports (response : Response) (status : Status)
    (member text : String) : Prop where
  went : response.status = status
  json : response.contentType = some "application/json"
  reads : ∃ value, Json.members? (encode response.text) = some [(member, value)] ∧
    Json.readTextValue value = .ok (text, [])

/-- The text of a document is read back from its bytes. -/
theorem readTextValue_document (s : String) :
    Json.readTextValue (Document.text s).bytes = .ok (s, []) := by
  simpa using Json.readTextValue_bytes s []

/-- An object with one text reports this text. -/
theorem reports_document (status : Status) (member text : String) :
    (documentResponse status (.object [(member, .text text)])).Reports status member text where
  went := rfl
  json := rfl
  reads := by
    refine ⟨(Document.text text).bytes, ?_, readTextValue_document text⟩
    rw [documentResponse, Json.encode_toString, Json.members?_bytes]
    rfl

/-- A refusal reports its wording. -/
theorem Refusal.reports_response (e : Refusal) :
    e.response.Reports e.status "detail" e.message :=
  let ⟨went, json, reads⟩ := reports_document e.status "detail" e.message
  ⟨went, json, reads⟩

end SchoolDesk
