import DoipWire.BigEndian
import DoipWire.Message.Basic

/-!
# Writing payloads

The body of a message is its fields in order, numbers big-endian. Writing fails on the first
field, in that order, that cannot be written: a number that does not fit its width, a code
outside one byte, or a byte field that holds nothing. An absent group identification is written
as six zero bytes, and absent optional routing fields are left out.

The body is joined from left to right, each field encoded before it is joined, so a number
that does not fit fails before a byte field holding nothing that stands before it.
-/

namespace DoipWire

/-- A byte field that holds bytes, to be joined after other fields. -/
def joined : Option (List UInt8) → Except Error (List UInt8)
  | some bs => .ok bs
  | none => .error .nothingJoined

namespace Message

/-- The bytes of a message's payload. -/
def body : Message → Except Error (List UInt8)
  | genericHeaderNack code => BigEndian.bytesOf [code.value]
  | vehicleIdResponse m => do
    let address ← BigEndian.encode 2 m.logicalAddress
    let vin ← match m.vin with
      | some vin => pure vin
      | none => throw .nothingFirst
    let eid ← joined m.eid
    let codes ← BigEndian.bytesOf [m.furtherAction.value, m.syncStatus.value]
    pure (vin ++ address ++ eid ++ m.gid.getD (List.replicate gidSize 0) ++ codes)
  | routingActivationRequest m => do
    let source ← BigEndian.encode 2 m.sourceAddress
    let activation ← BigEndian.bytesOf [m.activationType.value]
    let reserved ← joined m.reserved
    pure (source ++ activation ++ reserved ++ m.reservedOem.getD [])
  | routingActivationResponse m => do
    let tester ← BigEndian.encode 2 m.testerAddress
    let entity ← BigEndian.encode 2 m.entityAddress
    let code ← BigEndian.bytesOf [m.responseCode.value]
    let reserved ← joined m.reservedOem
    pure (tester ++ entity ++ code ++ reserved ++ m.oemSpecific.getD [])
  | aliveCheckResponse source => BigEndian.encode 2 source
  | entityStatusResponse m => do
    let counts ← BigEndian.bytesOf [m.nodeType, m.maxOpenSockets, m.curOpenSockets]
    let size ← BigEndian.encode 4 m.maxDataSize
    pure (counts ++ size)
  | powerModeResponse mode => BigEndian.bytesOf [mode]
  | diagnosticMessage m => do
    let source ← BigEndian.encode 2 m.sourceAddress
    let target ← BigEndian.encode 2 m.targetAddress
    pure (source ++ target ++ m.userData.bytes)
  | diagnosticPositiveAck m => do
    let source ← BigEndian.encode 2 m.sourceAddress
    let target ← BigEndian.encode 2 m.targetAddress
    let code ← BigEndian.bytesOf [m.ackCode.value]
    pure (source ++ target ++ code ++ m.previousData.bytes)
  | diagnosticNegativeAck m => do
    let source ← BigEndian.encode 2 m.sourceAddress
    let target ← BigEndian.encode 2 m.targetAddress
    let code ← BigEndian.bytesOf [m.ackCode.value]
    pure (source ++ target ++ code ++ m.previousData.bytes)
  | _ => pure []

end Message

end DoipWire
