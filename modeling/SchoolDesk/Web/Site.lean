import SchoolDesk.Web.Page
import SchoolDesk.Web.Percent
import SchoolDesk.Web.Route

/-!
# Sites

A site is one directory of pages, each under a name.  A path is looked up in
percent encoding, without the slashes in front and with neither empty parts nor
parts that say to stay.  A part that says to go up leads nowhere, so nothing
outside the directory can be asked for.

The directory itself is asked for with a slash at the end and shows its index.
Without the slash one is sent to the path with it.

A file system bounds the lengths of names and paths and has no names with a null
character.  Looking for what it cannot have is a failure of the service.  But a null
character counts as nothing there for those who want the text.
-/

namespace SchoolDesk.Web

/-- A directory of pages. -/
structure Site where
  /-- The names and their pages. -/
  pages : List (String × Page) := []
deriving DecidableEq, Repr

/-- What a site has at a path. -/
inductive Finding where
  /-- The directory of the site. -/
  | directory
  | page (p : Page)
  | nothing
  /-- A name with a null character. -/
  | unspeakable
  /-- A name or path that is too long. -/
  | tooLong
deriving DecidableEq, Repr

namespace Site

/-- The name of the page that a directory shows. -/
def indexName : String := "index.html"

/-- The most bytes that a name can have. -/
def nameLimit : Nat := 255

/-- The bytes from which on a path is too long. -/
def pathLimit : Nat := 4096

/-- The path below the directory: it has one slash in front, or more if more than
two were given. -/
def pathBelow : Bytes → Bytes
  | [] => [Route.slash]
  | b :: rest => if rest.head? = some Route.slash then rest else b :: rest

/-- The parts of a path that name something, or nothing if the path is no text
or leads out of the directory. -/
def names? (path : Bytes) : Option (List String) :=
  match Text.Utf8.decode? (Percent.decode (path.dropWhile (· == Route.slash))) with
  | none => none
  | some text =>
      let parts := text.toList.splitOn '/'
      let named := parts.filter fun p => !p.isEmpty && p != ['.']
      if text.toList.head? = some '/' ∨ ['.', '.'] ∈ named then none
      else some (named.map String.ofList)

/-- A name is too long for a file. -/
def isLongName (name : String) : Bool := nameLimit < name.utf8ByteSize

/-- The names are too long for a path. -/
def isLongPath (names : List String) : Bool :=
  pathLimit ≤ names.foldl (fun n name => n + name.utf8ByteSize + 1) 0

/-- What some names lead to, one below the other.  Only pages are in the directory,
so what comes below the first name is looked for in vain. -/
def find (s : Site) (names : List String) : Finding :=
  if names.any fun name => name.toList.contains '\x00' then .unspeakable
  else if isLongPath names || names.head?.any isLongName then .tooLong
  else
    match names with
    | [] => .directory
    | [name] => ((s.pages.lookup name).map Finding.page).getD .nothing
    | _ => .nothing

/-- A path with a slash at its end, and its query. -/
def withSlash (path : Bytes) (query? : Option Bytes) : String :=
  match query? with
  | none => Byte.text path ++ "/"
  | some query => Byte.text path ++ "/?" ++ Byte.text query

/-- The response to a request for the directory. -/
def index (s : Site) (path : Bytes) (r : Request) : Response :=
  if path.getLast? = some Route.slash then
    match s.pages.lookup indexName with
    | some p => p.response r
    | none => .notFound
  else .redirect (withSlash path r.query?)

/-- The response to a request for a file. -/
def answer (s : Site) (rest : Bytes) (r : Request) : Response :=
  let path := pathBelow rest
  match (names? path).map s.find with
  | some .directory => s.index path r
  | some (.page p) => p.response r
  | some .unspeakable => if r.method = .head then .serverError else .notFound
  | some .tooLong => .serverError
  | some .nothing | none => .notFound

end Site

end SchoolDesk.Web
