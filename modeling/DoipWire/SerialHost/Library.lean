import DoipWire.Cli.Serial
import DoipWire.SerialHost.Ports

/-!
# The host's serial library

The serial library the tester's program runs with on its host: ports are opened by name as
`openPort` describes, each exception with the class it is raised as, and the one port that opens,
the loopback port, gives back what is written to it and fails a write that takes longer than the
timeout at 9600 baud, ten bits a byte.
-/

namespace DoipWire.SerialHost

open Cli

/-- The class of an exception of the host, by its number. -/
def SystemError.exceptionClass (e : SystemError) : String :=
  match e.errno with
  | 2 => "FileNotFoundError"
  | 13 => "PermissionError"
  | 20 => "NotADirectoryError"
  | 21 => "IsADirectoryError"
  | _ => "OSError"

/-- The class an escaping failure is raised as. -/
def PortError.exceptionClass : PortError → String
  | .missingKey _ => "KeyError"
  | .notAClass | .countMissing => "TypeError"
  | .badName (.surrogates ..) => "UnicodeEncodeError"
  | .file e _ => e.exceptionClass
  | .pattern (.spelling ..) | .pattern (.compile _) => "error"
  | .pattern .countTooLarge => "OverflowError"
  | _ => "ValueError"

/-- An escaping failure as an exception of the library. -/
def PortError.failure (e : PortError) : PortFailure := ⟨e.exceptionClass, e.message⟩

/-- The timeout a port is opened with: whether it is valid, and how it is written. -/
def timeoutShown : Given Float → Bool × String
  | .value t => (!(t < 0), Decimal.render t)
  | .empty => (false, "[]")

/-- The line rate of a loopback port in baud. -/
def loopbackBaud : Float := 9600.0

/-- A loopback port whose writes must complete within `timeout` seconds. -/
def loopback (timeout : Float) : Port :=
  ⟨Source.ofBytes .plain [], [], true,
    fun n => !(10.0 * n.toFloat / loopbackBaud > timeout)⟩

/-- Opens the port a command line names with the timeout it gives; the port is set after the
timeout, so a port given as an empty list is refused after an invalid timeout. -/
def openGiven (name : Given (List Glyph)) (timeout : Given Float) : Opening :=
  let (valid, shown) := timeoutShown timeout
  match name with
  | .empty =>
    .escaped [] none (if valid then PortError.portNotText else .badTimeout shown).failure
  | .value name =>
    match openPort name valid shown with
    | .escaped records level e => .escaped records level e.failure
    | .failed records level reason => .failed records level reason
    | .opened records level =>
      -- a port opens only with a valid timeout
      let seconds := match timeout with
        | .value t => t
        | .empty => 0.0
      .opened records level (loopback seconds)

/-- The host's serial library. -/
def library : SerialLibrary := ⟨openGiven, portLogs⟩

end DoipWire.SerialHost
