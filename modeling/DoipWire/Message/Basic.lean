import DoipWire.Kind
import DoipWire.Message.Codes
import DoipWire.PayloadType

/-!
# Messages

A message is one payload of the sixteen kinds. Fields hold integers and byte strings as they
were given: building a message checks them (see `Message.validate`), but a field assigned later
is not checked until the message is written. A byte field may hold nothing at all, when it was
given no value; writing such a message fails. The diagnostic messages carry opaque data, either
owned by the message or borrowed from a buffer of the caller; borrowed data is never resized, and
owned data grows only by as many zeros as a byte string can hold.
-/

namespace DoipWire

/-- Opaque diagnostic data: owned by the message, or a read-only view of a caller's buffer. -/
inductive Opaque where
  | owned (bytes : List UInt8)
  | borrowed (bytes : List UInt8)
  deriving DecidableEq, Repr, BEq

/-- The bytes of opaque data. -/
def Opaque.bytes : Opaque → List UInt8
  | .owned bs => bs
  | .borrowed bs => bs

/-- Sizes from here on do not fit a machine index. -/
def indexLimit : Nat := Nat.pow 2 63

/-- Byte strings from this size on cannot be allocated: the index limit less the room of a
string's header. -/
def byteStringLimit : Nat := indexLimit - 33

/-- Whether a fresh string of `n` zero bytes can be allocated. -/
def checkAllocation (n : Nat) : Except Error Unit :=
  if indexLimit ≤ n then .error .indexOverflow
  else if byteStringLimit ≤ n then .error .bytesTooLarge
  else .ok ()

/-- Resizes owned data to `n` bytes, keeping the prefix and adding as many fresh zeros as it
grows by; borrowed data refuses. -/
def Opaque.resize (n : Nat) : Opaque → Except Error (List UInt8)
  | .owned bs =>
    match checkAllocation (n - bs.length) with
    | .error e => .error e
    | .ok () => .ok (bs.take n ++ List.replicate (n - bs.length) 0)
  | .borrowed _ => .error .bufferTooSmall

/-- The status an entity reports. -/
structure EntityStatus where
  nodeType : Int
  maxOpenSockets : Int
  curOpenSockets : Int
  maxDataSize : Int
  deriving DecidableEq, Repr, BEq

/-- A tester's request for routing. -/
structure ActivationRequest where
  sourceAddress : Int
  activationType : ClosedCode ActivationType
  /-- Four reserved bytes, or nothing when none were given. -/
  reserved : Option (List UInt8)
  /-- The optional field for the manufacturer, absent unless given. -/
  reservedOem : Option (List UInt8)
  deriving Repr, BEq

/-- An entity's answer to a routing activation request. -/
structure ActivationResponse where
  testerAddress : Int
  entityAddress : Int
  responseCode : ClosedCode ResponseCode
  /-- Four bytes reserved for the manufacturer, or nothing when none were given. -/
  reservedOem : Option (List UInt8)
  /-- The optional field for the manufacturer, absent unless given. -/
  oemSpecific : Option (List UInt8)
  deriving Repr, BEq

/-- A vehicle announcement, the answer to a vehicle identification request. -/
structure Announcement where
  /-- The vehicle identification number, or nothing when none was given. -/
  vin : Option (List UInt8)
  logicalAddress : Int
  /-- The entity identification, or nothing when none was given. -/
  eid : Option (List UInt8)
  /-- The group identification, absent when not set. -/
  gid : Option (List UInt8)
  furtherAction : OpenCode FurtherAction
  syncStatus : OpenCode SyncStatus
  deriving DecidableEq, Repr, BEq

/-- A diagnostic message: source and target address, and the opaque request or response. -/
structure Diagnostic where
  sourceAddress : Int
  targetAddress : Int
  userData : Opaque
  deriving DecidableEq, Repr, BEq

/-- An acknowledgement of a diagnostic message, with codes from `α`, echoing data of it. -/
structure DiagnosticAck (α : Type) where
  sourceAddress : Int
  targetAddress : Int
  ackCode : OpenCode α
  previousData : Opaque
  deriving DecidableEq, Repr, BEq

/-- A message of any kind. -/
inductive Message where
  | genericHeaderNack (code : OpenCode NackCode)
  | vehicleIdRequest
  | vehicleIdRequestWithEid
  | vehicleIdRequestWithVin
  | vehicleIdResponse (m : Announcement)
  | routingActivationRequest (m : ActivationRequest)
  | routingActivationResponse (m : ActivationResponse)
  | aliveCheckRequest
  | aliveCheckResponse (sourceAddress : Int)
  | entityStatusRequest
  | entityStatusResponse (m : EntityStatus)
  | powerModeRequest
  | powerModeResponse (mode : Int)
  | diagnosticMessage (m : Diagnostic)
  | diagnosticPositiveAck (m : DiagnosticAck PositiveAckCode)
  | diagnosticNegativeAck (m : DiagnosticAck NegativeAckCode)
  deriving Repr, BEq

/-- The sizes of the fields, in bytes. -/
def addressSize : Nat := 2
def vinSize : Nat := 17
def eidSize : Nat := 6
def gidSize : Nat := 6
def reservedSize : Nat := 4
def oemSize : Nat := 4

namespace Message

/-- The kind of a message. -/
def kind : Message → Kind
  | genericHeaderNack _ => .genericHeaderNack
  | vehicleIdRequest => .vehicleIdRequest
  | vehicleIdRequestWithEid => .vehicleIdRequestWithEid
  | vehicleIdRequestWithVin => .vehicleIdRequestWithVin
  | vehicleIdResponse _ => .vehicleIdResponse
  | routingActivationRequest _ => .routingActivationRequest
  | routingActivationResponse _ => .routingActivationResponse
  | aliveCheckRequest => .aliveCheckRequest
  | aliveCheckResponse _ => .aliveCheckResponse
  | entityStatusRequest => .entityStatusRequest
  | entityStatusResponse _ => .entityStatusResponse
  | powerModeRequest => .powerModeRequest
  | powerModeResponse _ => .powerModeResponse
  | diagnosticMessage _ => .diagnosticMessage
  | diagnosticPositiveAck _ => .diagnosticPositiveAck
  | diagnosticNegativeAck _ => .diagnosticNegativeAck

/-- The default instance of a kind, which decoding starts from: numbers are zero, codes take
their first member (the first refusal reason for a negative acknowledgement), byte fields are
zero bytes, optional fields are absent and opaque data is empty and owned. -/
def zeroed : Kind → Message
  | .genericHeaderNack => genericHeaderNack (.member .incorrectPatternFormat)
  | .vehicleIdRequest => vehicleIdRequest
  | .vehicleIdRequestWithEid => vehicleIdRequestWithEid
  | .vehicleIdRequestWithVin => vehicleIdRequestWithVin
  | .vehicleIdResponse => vehicleIdResponse
      ⟨some (List.replicate vinSize 0), 0, some (List.replicate eidSize 0), none,
        .member .noFurtherActionRequired, .member .synchronized⟩
  | .routingActivationRequest => routingActivationRequest
      ⟨0, .member .default, some (List.replicate reservedSize 0), none⟩
  | .routingActivationResponse => routingActivationResponse
      ⟨0, 0, .member .deniedUnknownSourceAddress, some (List.replicate reservedSize 0), none⟩
  | .aliveCheckRequest => aliveCheckRequest
  | .aliveCheckResponse => aliveCheckResponse 0
  | .entityStatusRequest => entityStatusRequest
  | .entityStatusResponse => entityStatusResponse ⟨0, 0, 0, 0⟩
  | .powerModeRequest => powerModeRequest
  | .powerModeResponse => powerModeResponse 0
  | .diagnosticMessage => diagnosticMessage ⟨0, 0, .owned []⟩
  | .diagnosticPositiveAck => diagnosticPositiveAck ⟨0, 0, .member .routingConfirmationAck, .owned []⟩
  | .diagnosticNegativeAck => diagnosticNegativeAck ⟨0, 0, .member .invalidSourceAddress, .owned []⟩

/-- The source address of the kinds that have one. -/
def sourceAddress? : Message → Option Int
  | routingActivationRequest m => some m.sourceAddress
  | aliveCheckResponse a => some a
  | diagnosticMessage m => some m.sourceAddress
  | diagnosticPositiveAck m => some m.sourceAddress
  | diagnosticNegativeAck m => some m.sourceAddress
  | _ => none

/-- The payload length a message reports: fixed per kind, except that routing activation counts
its optional field and the diagnostic messages count their data. -/
def length : Message → Nat
  | genericHeaderNack _ => 1
  | vehicleIdResponse _ => 33
  | routingActivationRequest m => if m.reservedOem.isSome then 11 else 7
  | routingActivationResponse m => if m.oemSpecific.isSome then 13 else 9
  | aliveCheckResponse _ => 2
  | entityStatusResponse _ => 7
  | powerModeResponse _ => 1
  | diagnosticMessage m => 4 + m.userData.bytes.length
  | diagnosticPositiveAck m => 5 + m.previousData.bytes.length
  | diagnosticNegativeAck m => 5 + m.previousData.bytes.length
  | _ => 0

/-- The opaque data of a diagnostic message. -/
def opaque? : Message → Option Opaque
  | diagnosticMessage m => some m.userData
  | diagnosticPositiveAck m => some m.previousData
  | diagnosticNegativeAck m => some m.previousData
  | _ => none

/-- Replaces the opaque data of a diagnostic message. -/
def withOpaque (d : Opaque) : Message → Message
  | diagnosticMessage m => diagnosticMessage { m with userData := d }
  | diagnosticPositiveAck m => diagnosticPositiveAck { m with previousData := d }
  | diagnosticNegativeAck m => diagnosticNegativeAck { m with previousData := d }
  | m => m

theorem kind_zeroed (k : Kind) : (zeroed k).kind = k := by
  cases k <;> rfl

end Message

end DoipWire
