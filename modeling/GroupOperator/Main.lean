import GroupOperator.Cluster
import GroupOperator.Json.Read
import GroupOperator.Startup

/-!
# The program

A rehearsal of the operator against a cluster in memory.  Notifications are read from standard
input, one document a line with the members "type" and "object"; when they end, so does the
operator's lifetime.  Records go to standard error and the requests made to standard output.
-/

namespace GroupOperator.Program

/-- The settings that the environment of the process holds. -/
def processEnvironment : IO Environment := do
  let mut env : Environment := []
  for s in CommandLine.settings do
    match ← IO.getEnv s.variableName with
    | some value => env := env ++ [(s.variableName, value)]
    | none => pure ()
  return env

/-- What a line of input says has happened; nothing, if it is no document. -/
def happeningOf? (line : String) : Option Happening :=
  match Json.read? line with
  | some (.object members) =>
    some (.notification (Value.ofOption (Value.member? "type" members))
      (Value.ofOption (Value.member? "object" members)))
  | _ => none

/-- All that standard input says has happened. -/
partial def readHappenings (input : IO.FS.Stream) (before : List Happening) :
    IO (List Happening) := do
  let line ← input.getLine
  if line.isEmpty then return before.reverse
  readHappenings input ((happeningOf? line).toList ++ before)

/-- A request as a document. -/
def requestValue : Request → Value
  | .createWorkload n w => .object [("create", w.toValue), ("namespace", n)]
  | .createPeerFile n f => .object [("create", f.toValue), ("namespace", n)]
  | .deleteWorkload name n _ => .object [("delete", name), ("namespace", n)]

/-- Prints what can be seen of a moment. -/
def printMoment : Moment → IO Unit
  | .told r => IO.eprintln (r.level.name ++ " - " ++ r.message)
  | .requested r => IO.println (Json.write (requestValue r))
  | _ => pure ()

end GroupOperator.Program

section

open GroupOperator GroupOperator.Program

/-- Runs the rehearsal; the exit status is the program's own, or one if it fails. -/
def main (args : List String) : IO UInt32 := do
  let env ← processEnvironment
  let happenings ← match CommandLine.parse (Settings.ofEnvironment env) args with
    | .ok _ => readHappenings (← IO.getStdin) []
    | .error _ => pure []
  let script := .startup :: .ready :: happenings ++ [.wait .graceful]
  let outcome := Startup.program env args {} Cluster.answer script
    { serving := { watching := { outside := Cluster.empty } } }
  outcome.chronicle.forM printMoment
  match outcome.result with
  | .ok ending => do
    match ending with
    | .printed p => do
      IO.print p.output
      IO.eprint p.complaint
    | .status _ => pure ()
    return UInt32.ofNat ending.exitStatus
  | .error f => do
    IO.eprintln f.message
    return 1

end
