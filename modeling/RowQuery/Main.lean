/-
The program: reads the standard input where a command needs it, and prints the outcome.
-/
import RowQuery.CommandLine

namespace RowQuery

/-- How the program is used. -/
def usage : String :=
  "usage: rowquery [--log LEVEL] query [--where TEXT | --like TEXT | --find TEXT]\n"
    ++ "         [--group-by COLUMNS] [--order-by COLUMNS] [--input JSON] [--pretty]\n"
    ++ "         [--strip-annotations] [--strict]\n"
    ++ "       rowquery [--log LEVEL] check TEXT"

end RowQuery

/-- Runs the program. -/
def main (arguments : List String) : IO UInt32 := do
  let reads := (RowQuery.Invocation.ofArguments? arguments).any (·.readsInput)
  let standardInput ← if reads then (← IO.getStdin).readToEnd else pure ""
  let outcome := RowQuery.Outcome.ofArguments arguments standardInput
  match outcome with
  | .answered text => IO.println text
  | .failed e => IO.eprintln e.message
  | .misused => IO.eprintln RowQuery.usage
  return outcome.exitCode
