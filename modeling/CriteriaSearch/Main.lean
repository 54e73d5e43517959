import CriteriaSearch.Command.Run
import CriteriaSearch.Http.Reply

/-!
# The program

Runs one command with the arguments and the environment of the process. The replies for a search are
read from standard input, one body per line, in the order of its requests.
-/

namespace CriteriaSearch.Main

/-- The environment variables that settings may come from. -/
def variableNames : List String :=
  [Settings.urlVariable, Settings.collectionVariable, Settings.handlerVariable,
    Settings.methodVariable, Settings.echoVariable, Failure.timeoutVariable]

/-- The next body; a message without one is lost. -/
def reply (_ : Http.Message) : StateM (List String) Http.Reply := fun bodies =>
  match bodies with
  | [] => (.lost "no reply", [])
  | body :: bodies => (.received 200 body.toUTF8.toList, bodies)

def rowText (cells : List String) : String := Text.joinWith "\t" cells

/-- A print as plain lines. -/
def lines : Command.Print → List String
  | .panel text title _ => [title, text]
  | .table title columns rows => title :: rowText (columns.map (·.1)) :: rows.map rowText
  | .text s => [s]
  | .status s => [s]

partial def readLines (input : IO.FS.Stream) : IO (List String) := do
  let line ← input.getLine
  if line.isEmpty then return []
  else return line :: (← readLines input)

def readEnvironment : IO Environment := do
  let found ← variableNames.mapM fun name => do return (name, ← IO.getEnv name)
  return found.filterMap fun (name, s) => s.map fun s => (name, s)

end CriteriaSearch.Main

open CriteriaSearch in
def main (args : List String) : IO UInt32 := do
  let bodies ← match Command.parse args with
    | some (.search _) => Main.readLines (← IO.getStdin)
    | _ => pure []
  let source := fun settings => Http.source settings Main.reply
  let (outcome, _) := Command.run source (← Main.readEnvironment) args bodies
  for print in outcome.prints do
    for line in Main.lines print do
      IO.println line
  if let some f := outcome.failure then
    IO.eprintln f.message
  return UInt32.ofNat outcome.exitCode
