import AppMount.Sample

/-!
# The sample on the command line

Builds the sample server and prints the table of its mounts; warnings go to the error stream.
-/

/-- Prints the warnings and the table, or the fault that kept the server from being built. -/
def main : IO UInt32 := do
  match AppMount.Sample.outcome "__main__" with
  | .ok outcome =>
    for entry in outcome.log do
      if entry.level = "WARNING" then IO.eprintln entry.message
    IO.print (AppMount.Sample.table outcome.server)
    return 0
  | .error fault =>
    IO.eprintln fault.line
    return 1
