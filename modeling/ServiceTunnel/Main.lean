import ServiceTunnel.CommandLine
import ServiceTunnel.Json.Writer

/-!
# ServiceTunnel.Main

**The command line.** Reads the flags and the variables, and shows the settings that the operator
runs with, or says what is wrong with them.
-/

open ServiceTunnel

/-- The variables that can stand for flags, as far as they are set. -/
def flagVariables : IO (Dict String String) := do
  let names := Flag.all.filterMap (·.envName?)
  let values ← names.mapM fun name => IO.getEnv name
  return .ofList ((names.zip values).filterMap fun v => v.2.map (v.1, ·))

def main (argv : List String) : IO UInt32 := do
  match CommandLine.options (← flagVariables) argv with
  | .error stop =>
    if stop.isAnswer then
      IO.println stop.message
      return 0
    else
      IO.eprintln s!"error: {stop.message}"
      return 2
  | .ok options =>
    match Settings.load options with
    | .error e =>
      IO.eprintln s!"Error: {e.message}"
      return 1
    | .ok settings =>
      IO.println (Json.obj settings.shown).compact
      return 0
