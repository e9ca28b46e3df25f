import SchoolDesk.Startup

/-!
# The command

The command reads the variables that the service knows, starts it, and reports
how the start went.  It has no socket to offer, so no address is available and
every start fails at the latest when it takes its address.
-/

namespace SchoolDesk

/-- The names of the variables that a start looks up. -/
def variableNames : List String :=
  [Config.addressVar, Config.staticDirVar, Config.loginPasswordVar, Start.logVar]

/-- The variables that are set, with their values. -/
def readVariables : IO (List (String × String)) := do
  let values ← variableNames.mapM fun name => return (← IO.getEnv name).map fun v => (name, v)
  return values.filterMap id

end SchoolDesk

open SchoolDesk in
/-- Starts the service and exits with the code of the start. -/
def main : IO UInt32 := do
  let vars ← readVariables
  let start := Start.run (fun _ => false) fun name => List.lookup name vars
  for line in start.log do
    IO.println line
  unless start.errorText.isEmpty do
    IO.eprintln start.errorText
  return UInt32.ofNat start.exitCode
