import DoipWire.Header
import DoipWire.Message.Borrowed
import DoipWire.Message.Encode
import DoipWire.Sink

/-!
# Messages on a stream

A message on the wire is a header followed by its payload. Reading a message of an expected kind
reads the header and refuses another payload type before touching the payload; reading any
message dispatches on the header's type and refuses the unnamed ones. Writing encodes the whole
message first and hands it to the sink in one write, so a message that cannot be encoded leaves
the sink untouched.
-/

namespace DoipWire

open Source Decoder

/-- The refusal of a header that announces another payload type. -/
def Header.unexpected (h : Header) : Error :=
  .unexpectedPayloadType h.payloadType.code.toNat h.payloadLength.toNat

/-- Whether a header announces payloads of kind `k`. -/
def Header.announces (h : Header) (k : Kind) : Bool :=
  match h.payloadType with
  | .member k' => k' == k
  | _ => false

namespace Message

/-- The number of bytes of a message on the wire. -/
def wireLength (m : Message) : Nat := headerSize + m.length

/-- Reads a header and the payload of kind `k`. -/
def readOf (k : Kind) : Reading Message := fun s =>
  match Header.read s with
  | .ok h s' => if h.announces k then read k h.payloadLength s' else .error h.unexpected s'
  | .error e s' => .error e s'

/-- Reads a header and the payload of whatever named kind it announces. -/
def readAny : Reading Message := fun s =>
  match Header.read s with
  | .ok h s' =>
    match h.payloadType with
    | .member k => read k h.payloadLength s'
    | _ => .error h.unexpected s'
  | .error e s' => .error e s'

/-- Reads a header and decodes the payload into the instance, which must be of the announced
kind. -/
def readReplaceMessage : Decoder Message Unit := do
  let h ← Decoder.read Header.read
  let m ← target
  if h.announces m.kind then readReplace h.payloadLength else fail h.unexpected

/-- Decodes a whole message of kind `k` held in a buffer, borrowing its opaque data; bytes past
the announced payload are ignored. -/
def readBorrowedMessage (k : DiagnosticKind) (buf : List UInt8) : Except Error Message := do
  if buf.length < headerSize then throw (.payloadLength buf.length headerSize)
  let h ← Header.ofBytes buf
  if !h.announces k.kind then throw h.unexpected
  let available := buf.length - headerSize
  if available < h.payloadLength then throw (.payloadLength available h.payloadLength)
  readBorrowed k (slice buf headerSize h.payloadLength.toNat)

/-- The bytes of a message with protocol version `v`: header, then payload, refusing a payload
whose length differs from the one the message reports. -/
def encode (m : Message) (v : Int) : Except Error (List UInt8) := do
  let h := Header.new (.member m.kind) m.length v
  let payload ← m.body
  let head ← h.toBytes
  if payload.length ≠ m.length then
    throw (.lengthMismatch m.kind payload.length m.length)
  pure (head ++ payload)

/-- Writes a message to a sink in one write. -/
def write {σ : Type} [ByteSink σ] (m : Message) (v : Int) (sink : σ) : Except Error Unit × σ :=
  match m.encode v with
  | .ok data => ByteSink.writeAll sink data
  | .error e => (.error e, sink)

end Message

end DoipWire

namespace DoipWire

/-- A message encoded, then read back in each way its kind allows. -/
structure Reread where
  /-- The encoded message. -/
  bytes : List UInt8
  /-- Read as a message of the expected kind. -/
  typed : Except Error Message
  /-- Read as a message of any kind. -/
  any : Except Error Message
  /-- Decoded in place from the bytes, for the diagnostic kinds. -/
  borrowed : Option (Except Error Message)

/-- The outcome of a read as a value or an error. -/
def Reading.result {α : Type} (r : Reading α) (s : Source) : Except Error α :=
  match r s with
  | .ok a _ => .ok a
  | .error e _ => .error e

/-- Encodes a message with protocol version `v` and reads it back. -/
def Message.reread (m : Message) (v : Int) : Except Error Reread := do
  let bytes ← m.encode v
  let src := Source.ofBytes .plain bytes
  pure ⟨bytes, Reading.result (Message.readOf m.kind) src, Reading.result Message.readAny src,
    (DiagnosticKind.ofKind? m.kind).map fun k => Message.readBorrowedMessage k bytes⟩

end DoipWire
