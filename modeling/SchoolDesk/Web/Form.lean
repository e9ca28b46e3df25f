import SchoolDesk.Text.Cut
import SchoolDesk.Text.Utf8
import SchoolDesk.Web.Percent

/-!
# Form fields

A query is a list of fields in form encoding.  Fields stand between ampersands,
and empty ones do not count.  A field is a name and a value with an equals sign
between them, and a field without one has an empty value.  In both, a plus sign
stands for a space and everything else is in percent encoding.  The bytes so
encoded are read as UTF-8 and repaired where they are none.

A query is asked for one field by its name.  The field must be there once, and
other names do not matter.  `decodePiece_encodePiece` says that any text comes
back from its encoding.
-/

namespace SchoolDesk.Web

/-- Why a query does not give a field. -/
inductive FieldFault where
  | missing (name : String)
  | duplicate (name : String)
deriving DecidableEq, Repr

/-- The wording of a field that is not given. -/
def FieldFault.message : FieldFault → String
  | .missing name => "missing field `" ++ name ++ "`"
  | .duplicate name => "duplicate field `" ++ name ++ "`"

namespace Form

/-- The byte of a plus sign, read as a space. -/
def plusToSpace (b : UInt8) : UInt8 := if b = Byte.of '+' then Byte.of ' ' else b

/-- The text of a name or a value. -/
def decodePiece (s : Bytes) : String :=
  Text.Utf8.decodeLossy (Percent.decode (s.map plusToSpace))

/-- A name and its value. -/
def decodeField (s : Bytes) : String × String :=
  let (name, value) := Text.cut (Byte.of '=') s
  (decodePiece name, decodePiece (value.getD []))

/-- The fields of a query. -/
def fields (query : Bytes) : List (String × String) :=
  ((query.splitOn (Byte.of '&')).filter fun s => !s.isEmpty).map decodeField

/-- The value of the one field of a name. -/
def field (name : String) (query : Bytes) : Except FieldFault String :=
  match (fields query).filter fun f => f.1 = name with
  | [] => .error (.missing name)
  | [f] => .ok f.2
  | _ => .error (.duplicate name)

/-! ## Writing fields -/

/-- The bytes that stand for themselves. -/
def isKept (b : UInt8) : Bool :=
  Byte.isAlphanumeric b || b == Byte.of '*' || b == Byte.of '-' || b == Byte.of '.' ||
    b == Byte.of '_'

/-- The byte of a space, written as a plus sign. -/
def spaceToPlus (b : UInt8) : UInt8 := if b = Byte.of ' ' then Byte.of '+' else b

/-- A text in form encoding. -/
def encodePiece (s : String) : Bytes :=
  (Percent.encode (fun b => isKept b || b == Byte.of ' ') (Text.Utf8.encode s)).map spaceToPlus

/-- A field in form encoding. -/
def encodeField (name value : String) : Bytes :=
  encodePiece name ++ Byte.of '=' :: encodePiece value

theorem map_plusToSpace_encodePiece (s : String) :
    (encodePiece s).map plusToSpace =
      Percent.encode (fun b => isKept b || b == Byte.of ' ') (Text.Utf8.encode s) := by
  rw [encodePiece, List.map_map, List.map_congr_left (g := id) ?_, List.map_id]
  intro b hb
  have h : b ≠ Byte.of '+' := by
    rintro rfl
    rcases Percent.mem_encode hb with h | h | h <;> exact absurd h (by decide)
  simp only [Function.comp_apply, id_eq, spaceToPlus, plusToSpace]
  split
  · simp_all
  · simp

@[simp] theorem decodePiece_encodePiece (s : String) : decodePiece (encodePiece s) = s := by
  rw [decodePiece, map_plusToSpace_encodePiece, Percent.decode_encode (by decide),
    Text.Utf8.decodeLossy_encode]

/-- Encoded texts have no separators. -/
theorem mem_encodePiece {s : String} {b : UInt8} (h : b ∈ encodePiece s) :
    b ≠ Byte.of '&' ∧ b ≠ Byte.of '=' := by
  obtain ⟨c, hc, rfl⟩ := List.mem_map.1 h
  have hc := Percent.mem_encode hc
  constructor <;> intro e <;> simp only [spaceToPlus] at e <;> split at e
  all_goals first
    | exact absurd e (by decide)
    | (subst e; rcases hc with h | h | h <;> exact absurd h (by decide))

theorem fields_encodeField (name value : String) :
    fields (encodeField name value) = [(name, value)] := by
  have hamp : Byte.of '&' ∉ encodeField name value := by
    simp only [encodeField, List.mem_append, List.mem_cons, not_or]
    exact ⟨fun h => (mem_encodePiece h).1 rfl, by decide, fun h => (mem_encodePiece h).1 rfl⟩
  have heq : Byte.of '=' ∉ encodePiece name := fun h => (mem_encodePiece h).2 rfl
  rw [fields, List.splitOn_eq_singleton hamp]
  have hcut := Text.cut_append_sep heq (encodePiece value)
  have hne : encodeField name value ≠ [] := by simp [encodeField]
  simp only [List.filter_cons, List.isEmpty_eq_false_iff.2 hne, Bool.not_false, if_true,
    List.filter_nil, List.map_cons, List.map_nil, decodeField]
  rw [encodeField, hcut]
  simp

end Form

end SchoolDesk.Web
