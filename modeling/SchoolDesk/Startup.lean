import SchoolDesk.Config
import SchoolDesk.Log.Filter
import SchoolDesk.Log.Report

/-!
# Starting the service

A start reads the settings, says in the log what it is about to do, and takes its
address.  It fails before the log if a setting cannot be used, and after it if
the address cannot be taken.  The log lines are shown if the filter lets them
through.  A filter that is unset or cannot be read is replaced by the one that
shows everything up to `info`.

Whether an address can be taken is up to the machine, so it is a parameter.
-/

namespace SchoolDesk

/-- The version of the service. -/
def version : String := "0.1.0"

/-- Why a start failed. -/
inductive StartFailure where
  | config (e : ConfigError)
  /-- The address belongs to no interface, or is in use. -/
  | addressUnavailable
deriving DecidableEq, Repr

/-- The last line a failed start writes.  The number and text of the system's own
error are not part of it. -/
def StartFailure.report : StartFailure → String
  | .config e => "Error: " ++ e.report
  | .addressUnavailable => "Error: Os"

/-- What a start did. -/
structure Start where
  /-- The rows of the log that were shown. -/
  log : List String
  /-- Why it failed, if it did. -/
  failure : Option StartFailure

namespace Start

/-- The target of the log lines of the service. -/
def logTarget : String := "backend"

/-- The name of the log filter. -/
def logVar : String := "RUST_LOG"

/-- The log filter that some variables give. -/
def filterOf (lookup : String → Option String) : Log.Filter :=
  ((lookup logVar).bind Log.Filter.ofString?).getD (Log.Filter.upTo .info)

/-- What a start with given settings says before it takes its address. -/
def announcements (c : Config) : List String :=
  ["calc-core " ++ version,
   "serving static files from " ++ c.staticDir,
   "listening on " ++ c.address.text]

/-- The rows of the log that a filter shows of some announcements. -/
def logOf (filter : Log.Filter) (texts : List String) : List String :=
  if filter.shows { target := logTarget, level := .info } then
    texts.flatMap (Log.rows .info logTarget)
  else []

/-- A start with the given variables, on a machine where some addresses can be
taken. -/
def run (available : SocketAddress → Bool) (lookup : String → Option String) : Start :=
  match Config.ofLookup lookup with
  | .error e => { log := [], failure := some (.config e) }
  | .ok c =>
      { log := logOf (filterOf lookup) (announcements c)
        failure := if available c.address then none else some .addressUnavailable }

/-- The exit code of a start that ended. -/
def exitCode (s : Start) : Nat := if s.failure.isSome then 1 else 0

/-- What a failed start writes to the error stream. -/
def errorText (s : Start) : String :=
  match s.failure with
  | some f => f.report
  | none => ""

end Start

end SchoolDesk
