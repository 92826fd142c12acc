import DoipWire.Cli.Options
import DoipWire.Tester

/-!
# The serial library

The command line opens its port through a serial library that it is given. Opening the port it
names, with the timeout it gives, ends in one of three ways: the port is open, the library refused
it for a reason the run reports, or an exception escaped the library. Each way carries the
records the port's own log wrote and that log's threshold.
-/

namespace DoipWire.Cli

/-- An exception that escapes opening a port: its class and its words. -/
structure PortFailure where
  exceptionClass : String
  words : List Glyph

/-- How opening a port ends, with the records its own log wrote and that log's threshold. -/
inductive Opening where
  | opened (records : List LogRecord) (portLevel : Option LogLevel) (port : Port)
  /-- Refused for a reason that the run reports. -/
  | failed (records : List LogRecord) (portLevel : Option LogLevel) (reason : List Glyph)
  /-- Refused by an exception that escapes the run. -/
  | escaped (records : List LogRecord) (portLevel : Option LogLevel) (e : PortFailure)

/-- A serial library: how opening the port a command line names ends, given the timeout it
gives, and the names its ports log under. -/
structure SerialLibrary where
  openPort : Given (List Glyph) → Given Float → Opening
  logs : List String

end DoipWire.Cli
