import DoipWire.BigEndian
import DoipWire.Message.Validate
import DoipWire.Source

/-!
# Decoding payloads into an instance

Decoding into an existing instance follows the payload's fields in order and stores each one
as soon as it is read, so a failure leaves the instance with the fields read before it. The
length is checked before anything is read. Fixed-size kinds read their whole body with one
request and store nothing before it arrived; routing activation reads field by field and checks
its code right after its byte; the diagnostic kinds read both addresses at once, resize their
owned data to the rest of the payload (borrowed data refuses), read the acknowledgement code,
and fill the data. Decoding a fresh message is decoding into the default instance of its kind;
a fresh diagnostic message checks that its data could be allocated at the declared size, as
resizing the empty default data does, but receives it into a buffer that holds only the bytes
that arrived.
-/

namespace DoipWire

open Source Decoder

/-- `n` bytes of `bs` from position `start`. -/
def slice (bs : List UInt8) (start n : Nat) : List UInt8 :=
  (bs.drop start).take n

/-- The byte at position `i`, as a number. -/
def byteAt (bs : List UInt8) (i : Nat) : Int :=
  ((bs.drop i).headD 0).toNat

/-- A fixed-size body: the length must be `size`, then the body is read in one request. -/
def readFixed (len : Int) (size : Nat) : Reading (List UInt8) := fun s =>
  if len = size then readExact size s else .error (.payloadLength len size) s

/-- Whether a routing activation payload carries its optional field: the length must be the
short size or four more. -/
def oemPresent (len : Int) (short : Nat) : Except Error Bool :=
  if len = short then .ok false
  else if len = short + oemSize then .ok true
  else .error (.payloadLength len short)

/-- A big-endian field read with one request. -/
def readNumber (width : Nat) : Reading Int := fun s =>
  match readExact width s with
  | .ok bs s' => .ok (BigEndian.ofBytes bs) s'
  | .error e s' => .error e s'

/-- The announcement spelled by a 33-byte body. -/
def Announcement.ofBody (data : List UInt8) : Announcement :=
  let gid := slice data 25 gidSize
  { vin := some (slice data 0 vinSize)
    logicalAddress := BigEndian.ofBytes (slice data 17 2)
    eid := some (slice data 19 eidSize)
    gid := if gidNotSet.contains gid then none else some gid
    furtherAction := FurtherAction.ofByte (byteAt data 31)
    syncStatus := OpenCode.ofByte (byteAt data 32) }

/-- The entity status spelled by a 7-byte body. -/
def EntityStatus.ofBody (data : List UInt8) : EntityStatus :=
  ⟨byteAt data 0, byteAt data 1, byteAt data 2, BigEndian.ofBytes (slice data 3 4)⟩

namespace ActivationRequest

/-- Decodes a routing activation request of `len` bytes into the instance. -/
def readReplace (len : Int) : Decoder ActivationRequest Unit := do
  let hasOem ← check (oemPresent len 7)
  let source ← read (readNumber 2)
  update fun m => { m with sourceAddress := source }
  let byte ← read (readNumber 1)
  let activation ← check (ActivationType.ofByte byte)
  update fun m => { m with activationType := .member activation }
  let reserved ← read (readExact reservedSize)
  update fun m => { m with reserved := some reserved }
  if hasOem then
    let oem ← read (readExact oemSize)
    update fun m => { m with reservedOem := some oem }
  else
    update fun m => { m with reservedOem := none }

end ActivationRequest

namespace ActivationResponse

/-- Decodes a routing activation response of `len` bytes into the instance. -/
def readReplace (len : Int) : Decoder ActivationResponse Unit := do
  let hasOem ← check (oemPresent len 9)
  let tester ← read (readNumber 2)
  update fun m => { m with testerAddress := tester }
  let entity ← read (readNumber 2)
  update fun m => { m with entityAddress := entity }
  let byte ← read (readNumber 1)
  let code ← check (ResponseCode.ofByte byte)
  update fun m => { m with responseCode := .member code }
  let reserved ← read (readExact reservedSize)
  update fun m => { m with reservedOem := some reserved }
  if hasOem then
    let oem ← read (readExact oemSize)
    update fun m => { m with oemSpecific := some oem }
  else
    update fun m => { m with oemSpecific := none }

end ActivationResponse

/-- The minimum length of a diagnostic message: its two addresses. -/
def diagnosticHead : Nat := 4

/-- The minimum length of a diagnostic acknowledgement: two addresses and the code. -/
def ackHead : Nat := 5

/-- The minimum length check of the diagnostic kinds. -/
def checkMinimum (len : Int) (minimum : Nat) : Except Error Unit :=
  if len < minimum then .error (.payloadLength len minimum) else .ok ()

namespace Diagnostic

/-- Decodes a diagnostic message of `len` bytes into the instance. -/
def readReplace (len : Int) : Decoder Diagnostic Unit := do
  check (checkMinimum len diagnosticHead)
  let addresses ← read (readExact 4)
  update fun m => { m with sourceAddress := BigEndian.ofBytes (slice addresses 0 2),
                           targetAddress := BigEndian.ofBytes (slice addresses 2 2) }
  let m ← target
  let resized ← check (m.userData.resize (len - diagnosticHead).toNat)
  update fun m => { m with userData := .owned resized }
  onPart (·.userData.bytes) (fun bs m => { m with userData := .owned bs }) readInto

/-- Decodes a fresh diagnostic message of `len` bytes. -/
def read (len : Int) : Reading Diagnostic := fun s =>
  match checkMinimum len diagnosticHead with
  | .error e => .error e s
  | .ok () =>
    match readExact 4 s with
    | .error e s => .error e s
    | .ok addresses s =>
      match checkAllocation (len - diagnosticHead).toNat with
      | .error e => .error e s
      | .ok () =>
        match receive (len - diagnosticHead).toNat s with
        | .error e s => .error e s
        | .ok data s =>
          .ok ⟨BigEndian.ofBytes (slice addresses 0 2), BigEndian.ofBytes (slice addresses 2 2),
            .owned data⟩ s

end Diagnostic

namespace DiagnosticAck

variable {α : Type} [CodeTable α]

/-- Decodes an acknowledgement of `len` bytes into the instance. -/
def readReplace (len : Int) : Decoder (DiagnosticAck α) Unit := do
  check (checkMinimum len ackHead)
  let addresses ← read (readExact 4)
  update fun m => { m with sourceAddress := BigEndian.ofBytes (slice addresses 0 2),
                           targetAddress := BigEndian.ofBytes (slice addresses 2 2) }
  let m ← target
  let resized ← check (m.previousData.resize (len - ackHead).toNat)
  update fun m => { m with previousData := .owned resized }
  let code ← read (readNumber 1)
  update fun m => { m with ackCode := OpenCode.ofByte code }
  onPart (·.previousData.bytes) (fun bs m => { m with previousData := .owned bs }) readInto

/-- Decodes a fresh acknowledgement of `len` bytes. -/
def read (len : Int) : Reading (DiagnosticAck α) := fun s =>
  match checkMinimum len ackHead with
  | .error e => .error e s
  | .ok () =>
    match readExact 4 s with
    | .error e s => .error e s
    | .ok addresses s =>
      match checkAllocation (len - ackHead).toNat with
      | .error e => .error e s
      | .ok () =>
        match readNumber 1 s with
        | .error e s => .error e s
        | .ok code s =>
          match receive (len - ackHead).toNat s with
          | .error e s => .error e s
          | .ok data s =>
            .ok ⟨BigEndian.ofBytes (slice addresses 0 2), BigEndian.ofBytes (slice addresses 2 2),
              OpenCode.ofByte code, .owned data⟩ s

end DiagnosticAck

namespace Message

/-- Runs a decoder of one kind's fields on `b`, storing the result with `wrap`. -/
def within {β : Type} (wrap : β → Message) (b : β) (d : Decoder β Unit) : Decoder Message Unit :=
  onPart (fun _ => b) (fun b' _ => wrap b') d

/-- A fixed-size kind: read the body, then store what it spells. -/
def replaceFixed (len : Int) (size : Nat) (spell : List UInt8 → Message) :
    Decoder Message Unit := do
  let data ← read (readFixed len size)
  update fun _ => spell data

/-- Decodes a payload of `len` bytes into the message, as its kind reads. -/
def readReplace (len : Int) : Decoder Message Unit := do
  match ← target with
  | genericHeaderNack _ =>
    replaceFixed len 1 fun data => genericHeaderNack (OpenCode.ofByte (byteAt data 0))
  | vehicleIdResponse _ =>
    replaceFixed len 33 fun data => vehicleIdResponse (Announcement.ofBody data)
  | routingActivationRequest m =>
    within routingActivationRequest m (ActivationRequest.readReplace len)
  | routingActivationResponse m =>
    within routingActivationResponse m (ActivationResponse.readReplace len)
  | aliveCheckResponse _ =>
    replaceFixed len 2 fun data => aliveCheckResponse (BigEndian.ofBytes data)
  | entityStatusResponse _ =>
    replaceFixed len 7 fun data => entityStatusResponse (EntityStatus.ofBody data)
  | powerModeResponse _ => replaceFixed len 1 fun data => powerModeResponse (byteAt data 0)
  | diagnosticMessage m => within diagnosticMessage m (Diagnostic.readReplace len)
  | diagnosticPositiveAck m => within diagnosticPositiveAck m (DiagnosticAck.readReplace len)
  | diagnosticNegativeAck m => within diagnosticNegativeAck m (DiagnosticAck.readReplace len)
  | _ => check (if len = 0 then .ok () else .error (.payloadLength len 0))

/-- Decodes a fresh message of kind `k` from a payload of `len` bytes: the diagnostic kinds
receive their data into a fresh buffer, the others decode into the default instance. -/
def read (k : Kind) (len : Int) : Reading Message := fun s =>
  match k with
  | .diagnosticMessage => (diagnosticMessage <$> Diagnostic.read len) s
  | .diagnosticPositiveAck => (diagnosticPositiveAck <$> DiagnosticAck.read len) s
  | .diagnosticNegativeAck => (diagnosticNegativeAck <$> DiagnosticAck.read len) s
  | k =>
    match readReplace len (s, zeroed k) with
    | .ok _ (s', m) => .ok m s'
    | .error e (s', _) => .error e s'

end Message

end DoipWire
