import SchoolDesk.Address.Read
import SchoolDesk.Address.Write
import SchoolDesk.Text.Quoted

/-!
# Settings of the service

The service has three settings: the address on which it listens, the directory
whose files it hands out, and the password of all logins.  Each is named by a
variable and has a default.  The only thing that can be wrong is the spelling of
the address.
-/

namespace SchoolDesk

/-- The settings of the service. -/
structure Config where
  /-- Where the service listens. -/
  address : SocketAddress
  /-- The directory whose files are handed out. -/
  staticDir : String
  /-- The password of all logins. -/
  loginPassword : String
deriving DecidableEq, Repr

/-- A setting that cannot be used. -/
inductive ConfigError where
  /-- The address of the service is misspelt. -/
  | invalidAddress (value : String)
deriving DecidableEq, Repr

namespace Config

/-- The name of the address. -/
def addressVar : String := "CALC_BIND_ADDR"

/-- The name of the directory. -/
def staticDirVar : String := "CALC_STATIC_DIR"

/-- The name of the password. -/
def loginPasswordVar : String := "CALC_LOGIN_PASSWORD"

/-- Every setting at its default. -/
def default : Config where
  address := .v4 ⟨127, 0, 0, 1⟩ 3000
  staticDir := "static"
  loginPassword := "password"

instance : Inhabited Config := ⟨default⟩

/-- The settings that some variables give, with defaults for those that are
unset. -/
def ofLookup (lookup : String → Option String) : Except ConfigError Config :=
  let others (address : SocketAddress) : Config :=
    { address := address
      staticDir := (lookup staticDirVar).getD default.staticDir
      loginPassword := (lookup loginPasswordVar).getD default.loginPassword }
  match lookup addressVar with
  | none => .ok (others default.address)
  | some value =>
      match SocketAddress.ofString? value with
      | some address => .ok (others address)
      | none => .error (.invalidAddress value)

end Config

namespace ConfigError

/-- The wording of a setting that cannot be used. -/
def message : ConfigError → String
  | .invalidAddress value =>
      "Invalid " ++ Config.addressVar ++ " '" ++ value ++ "': invalid socket address syntax"

/-- The wording for the person who starts the service. -/
def report : ConfigError → String
  | .invalidAddress value =>
      "InvalidBindAddr \x7b value: " ++ Text.quoted value ++
        ", source: AddrParseError(Socket) \x7d"

end ConfigError

end SchoolDesk
