import DoipWire.Message.Decode

/-!
# Decoding without copying

The diagnostic kinds can be decoded straight from a payload held in the caller's buffer: the
addresses and the acknowledgement code are read from it, and the opaque data becomes a borrowed
view of the rest. Only the minimum length is checked.
-/

namespace DoipWire

/-- The kinds that carry opaque diagnostic data. -/
inductive DiagnosticKind where
  | message
  | positiveAck
  | negativeAck
  deriving DecidableEq, Repr

namespace DiagnosticKind

/-- The kind of message. -/
def kind : DiagnosticKind → Kind
  | message => .diagnosticMessage
  | positiveAck => .diagnosticPositiveAck
  | negativeAck => .diagnosticNegativeAck

/-- The diagnostic kind of a message kind, if it is one. -/
def ofKind? : Kind → Option DiagnosticKind
  | .diagnosticMessage => some message
  | .diagnosticPositiveAck => some positiveAck
  | .diagnosticNegativeAck => some negativeAck
  | _ => none

/-- The bytes before the opaque data. -/
def head : DiagnosticKind → Nat
  | message => diagnosticHead
  | _ => ackHead

end DiagnosticKind

/-- Decodes a whole payload of kind `k` held in a buffer, borrowing the opaque data. -/
def Message.readBorrowed (k : DiagnosticKind) (payload : List UInt8) : Except Error Message :=
  if payload.length < k.head then .error (.payloadLength payload.length k.head)
  else
    let source := BigEndian.ofBytes (slice payload 0 2)
    let target := BigEndian.ofBytes (slice payload 2 2)
    let data := Opaque.borrowed (payload.drop k.head)
    match k with
    | .message => .ok (diagnosticMessage ⟨source, target, data⟩)
    | .positiveAck => .ok (diagnosticPositiveAck ⟨source, target, OpenCode.ofByte (byteAt payload 4), data⟩)
    | .negativeAck => .ok (diagnosticNegativeAck ⟨source, target, OpenCode.ofByte (byteAt payload 4), data⟩)

end DoipWire
