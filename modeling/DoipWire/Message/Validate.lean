import DoipWire.Message.Basic

/-!
# Valid messages

Building a message checks its fields in the order they are declared and stops at the first
that fails: numbers must fit their unsigned width, codes must fit a byte, byte fields must have
their exact length, and a group identification must not spell "not set" (all zero or all
`0xFF` bytes), for which the absent value stands. The identification numbers of an
announcement must hold bytes; the reserved fields of routing activation may hold nothing.
-/

namespace DoipWire

/-- A number must fit `width` unsigned bytes. -/
def checkUnsigned (field : String) (v : Int) (width : Nat) : Except Error Unit :=
  if 0 ≤ v ∧ v < Int.pow 256 width then .ok () else .error (.fieldRange field v width)

/-- A byte field must have exactly `width` bytes. -/
def checkWidth (field : String) (bs : List UInt8) (width : Nat) : Except Error Unit :=
  if bs.length = width then .ok () else .error (.fieldWidth field width bs.length)

/-- A byte field that must hold bytes, exactly `width` of them. -/
def checkPresentWidth (field : String) (bs : Option (List UInt8)) (width : Nat) :
    Except Error Unit :=
  match bs with
  | some bs => checkWidth field bs width
  | none => .error .widthOfNothing

/-- An optional byte field, when present, must have exactly `width` bytes. -/
def checkOptionalWidth (field : String) (bs : Option (List UInt8)) (width : Nat) :
    Except Error Unit :=
  match bs with
  | some bs => checkWidth field bs width
  | none => .ok ()

/-- The group identifications that mean "not set". -/
def gidNotSet : List (List UInt8) := [List.replicate 6 0, List.replicate 6 0xFF]

/-- The checks of the diagnostic addresses. -/
def checkAddresses (source target : Int) : Except Error Unit := do
  checkUnsigned "source_address" source 2
  checkUnsigned "target_address" target 2

namespace Message

variable {α : Type} [CodeTable α]

/-- The checks a message passes when built, in the order of its fields. -/
def validate : Message → Except Error Unit
  | genericHeaderNack code => checkUnsigned "nack_code" code.value 1
  | vehicleIdResponse m => do
    checkUnsigned "logical_address" m.logicalAddress 2
    checkUnsigned "further_action" m.furtherAction.value 1
    checkUnsigned "vin_gid_sync_status" m.syncStatus.value 1
    checkPresentWidth "vin" m.vin vinSize
    checkPresentWidth "eid" m.eid eidSize
    match m.gid with
    | none => pure ()
    | some gid =>
      checkWidth "gid" gid gidSize
      if gidNotSet.contains gid then throw (.gidNotSet gid)
  | routingActivationRequest m => do
    checkUnsigned "source_address" m.sourceAddress 2
    checkUnsigned "activation_type" m.activationType.value 1
    checkOptionalWidth "reserved" m.reserved reservedSize
    checkOptionalWidth "reserved_oem" m.reservedOem oemSize
  | routingActivationResponse m => do
    checkUnsigned "logical_address_tester" m.testerAddress 2
    checkUnsigned "logical_address_of_doip_entity" m.entityAddress 2
    checkUnsigned "routing_activation_response_code" m.responseCode.value 1
    checkOptionalWidth "reserved_oem" m.reservedOem reservedSize
    checkOptionalWidth "oem_specific" m.oemSpecific oemSize
  | aliveCheckResponse source => checkUnsigned "source_address" source 2
  | entityStatusResponse m => do
    checkUnsigned "node_type" m.nodeType 1
    checkUnsigned "max_open_sockets" m.maxOpenSockets 1
    checkUnsigned "cur_open_sockets" m.curOpenSockets 1
    checkUnsigned "max_data_size" m.maxDataSize 4
  | powerModeResponse mode => checkUnsigned "power_mode" mode 1
  | diagnosticMessage m => checkAddresses m.sourceAddress m.targetAddress
  | diagnosticPositiveAck m => do
    checkAddresses m.sourceAddress m.targetAddress
    checkUnsigned "ack_code" m.ackCode.value 1
  | diagnosticNegativeAck m => do
    checkAddresses m.sourceAddress m.targetAddress
    checkUnsigned "ack_code" m.ackCode.value 1
  | _ => .ok ()

end Message

end DoipWire
