import SchoolDesk.Text.Utf8

/-!
# Bearer credentials

Credentials are the word `Bearer` in any case, a space, and a token.  Blanks in
front of the token do not belong to it, and all others do.  Credentials are
visible ASCII characters, spaces and tabs, so a token with any other character
cannot be sent.

`ofValue?_credentials` says that a visible token comes back from its credentials.
-/

namespace SchoolDesk.Web.Bearer

/-- The word in front of a token. -/
def scheme : Bytes := Text.Utf8.encode "bearer"

/-- The credentials of a token. -/
def credentials (token : Bytes) : Bytes := Text.Utf8.encode "Bearer " ++ token

/-- The token in the value of a header. -/
def ofValue? (value : Bytes) : Option String :=
  match value.drop scheme.length with
  | [] => none
  | b :: rest =>
      if value.all Byte.isVisible && (value.take scheme.length).map Byte.toSmall == scheme &&
          b == Byte.of ' ' then
        some (Byte.text (rest.dropWhile Byte.isBlank))
      else none

theorem ofValue?_credentials {token : Bytes} (visible : token.all Byte.isVisible = true)
    (h : token.head?.all (fun b => !Byte.isBlank b) = true) :
    ofValue? (credentials token) = some (Byte.text token) := by
  have hdrop : token.dropWhile Byte.isBlank = token := by
    cases token with
    | nil => rfl
    | cons b s =>
      simp only [List.head?_cons, Option.all_some, Bool.not_eq_true'] at h
      simp [h]
  have hword : Text.Utf8.encode "Bearer " = [66, 101, 97, 114, 101, 114, 32] := by decide
  have hscheme : scheme = [98, 101, 97, 114, 101, 114] := by decide
  simp only [credentials, ofValue?, hword, hscheme, List.length_cons, List.length_nil,
    List.cons_append, List.nil_append, List.drop_succ_cons, List.drop_zero]
  rw [hdrop]
  simp only [List.all_cons, visible]
  rfl

end SchoolDesk.Web.Bearer
