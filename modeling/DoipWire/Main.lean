import DoipWire.Cli.Run
import DoipWire.SerialHost.Library

/-!
# The tester's program

Runs the tester with the words of the command line over the host's serial library, prints what
the run printed, and exits with its code; a failure that escapes the run is reported and ends it
with code 1.
-/

open DoipWire

def main (args : List String) : IO UInt32 := do
  let o := Cli.run SerialHost.library (args.map Glyph.ofString)
  IO.print o.stdout
  IO.eprint (Glyph.toText o.stderr)
  match o.ending with
  | .exit code => pure code.toUInt32
  | .escape e =>
    IO.eprintln ("error: " ++ Glyph.toText e.message)
    pure 1
