import WordPairs.CommandLine.Program

/-!
# The command line

Standard output gets the text of the command, standard error its events and its complaint. The
program has no transport for requests, so every request goes unanswered and no file is touched.
-/

/-- Runs the command with the arguments of the process and the log setting of its environment. -/
def main (arguments : List String) : IO UInt32 := do
  let setting ← IO.getEnv "RUST_LOG"
  let exit := WordPairs.CommandLine.execute arguments setting .unreachable WordPairs.Tree.empty
  IO.print exit.output
  for event in exit.log do
    IO.eprintln event.line
  if let some complaint := exit.complaint then
    IO.eprintln complaint
  return UInt32.ofNat exit.code
