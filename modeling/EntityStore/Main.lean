import EntityStore.Demo
/-!
# The command line

Runs the demonstration with the arguments of the program.  A file that it is given lasts as long
as the program.
-/

open EntityStore

/-- The directories that the program can keep files in: the current one, and the one that the
first argument names. -/
def directoriesFor (arguments : List String) : List (List Component) :=
  [] :: (arguments.take 1).map fun path => (Path.destination path).dropLast

/-- Runs the demonstration, prints its lines, and says whether it succeeded. -/
def main (arguments : List String) : IO UInt32 := do
  let result := Demo.run (.empty (directoriesFor arguments)) arguments
  result.lines.forM fun line => IO.println line
  match result.failure with
  | none => return 0
  | some fault =>
    IO.eprintln fault.message
    return 1
