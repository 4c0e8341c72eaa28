import WindowHost.Demo

/-!
# Command line

Runs the demonstration on a display without events and prints the log of it.
-/

open WindowHost

/-- The text of what ended an operation. -/
def haltText : Halt → String
  | .failed e => e.message
  | .stalled => "no event is left to wait for"

def main : IO UInt32 := do
  let (outcome, log) := Demo.play {} {}
  for entry in log do
    IO.println entry.text
  match outcome with
  | .ok () => pure 0
  | .error h =>
    IO.eprintln (haltText h)
    pure 1
