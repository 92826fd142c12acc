import DoipWire.Error

/-!
# Byte sinks

A sink is anything that takes a write of bytes, reports how many it took or reports nothing, and
changes in doing so. Writing everything makes one call, none for an empty write, and fails when
the sink reports fewer bytes than it was given; a sink that reports nothing is taken at its word.
The sinks a caller names here take everything and report the count, take everything and report
nothing, or take all but the last byte and report that.
-/

namespace DoipWire

/-- A sink of bytes: what one write of `data` reports, the count it took or nothing, and the sink
after the write. -/
class ByteSink (σ : Type) where
  write : σ → List UInt8 → Option Int × σ

namespace ByteSink

variable {σ : Type} [ByteSink σ]

/-- Writes all of `data` in one call. -/
def writeAll (s : σ) (data : List UInt8) : Except Error Unit × σ :=
  if data.length = 0 then (.ok (), s)
  else
    let r := write s data
    match r.1 with
    | some w => if w < data.length then (.error (.shortWrite w data.length), r.2) else (.ok (), r.2)
    | none => (.ok (), r.2)

end ByteSink

/-- What a sink does with a write. -/
inductive SinkMode where
  /-- Takes everything and reports the count. -/
  | full
  /-- Takes everything and reports nothing. -/
  | quiet
  /-- Takes all but the last byte and reports that count. -/
  | short
  deriving DecidableEq, Repr

/-- A sink and the bytes it received. -/
structure Sink where
  mode : SinkMode
  received : List UInt8
  deriving DecidableEq, Repr

namespace Sink

/-- An empty sink. -/
def empty (mode : SinkMode) : Sink := ⟨mode, []⟩

/-- One write: what the sink reports, and the sink after it. -/
def write (s : Sink) (data : List UInt8) : Option Int × Sink :=
  match s.mode with
  | .full => (some data.length, { s with received := s.received ++ data })
  | .quiet => (none, { s with received := s.received ++ data })
  | .short =>
    (some (data.length - 1 : Nat), { s with received := s.received ++ data.take (data.length - 1) })

instance : ByteSink Sink := ⟨write⟩

end Sink

end DoipWire
