import PointerTagging.Host
/-!
# The program

Reads the command line and the environment, and prints what the invocation leaves behind on the
stand-in for the host.
-/

namespace PointerTagging

/-- The environment of this process, as far as it matters. -/
def currentEnvironment : IO Environment := do
  let mut bindings := []
  for name in preloadVariable :: Variable.all.map Variable.name do
    if let some value ← IO.getEnv name then
      bindings := bindings ++ [(name, Text.Utf8.ofString value)]
  return ⟨bindings⟩

/-- Carries out an invocation. -/
def perform (invocation : CommandLine.Invocation) : IO UInt32 := do
  let environment ← currentEnvironment
  let result := CommandLine.execute (Host.system environment) environment invocation
  (← IO.getStderr).write ⟨result.errors.toArray⟩
  let output ← IO.getStdout
  output.write ⟨result.output.toArray⟩
  output.flush
  return result.exit.toUInt32

end PointerTagging

def main (arguments : List String) : IO UInt32 := do
  match PointerTagging.CommandLine.Invocation.parse?
      (arguments.map PointerTagging.Text.Utf8.ofString) with
  | some invocation => PointerTagging.perform invocation
  | none =>
    (← IO.getStderr).putStr PointerTagging.CommandLine.usage
    return 2
