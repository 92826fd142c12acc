import DoipWire.Code
import DoipWire.Error

/-!
# The code tables of the messages

Seven fields hold codes. The generic header negative acknowledgement, the synchronisation status
of a vehicle announcement and both diagnostic acknowledgements keep unnamed bytes as reserved;
the further action of a vehicle announcement keeps unnamed bytes below `0x10` as reserved and
the others as specific to a manufacturer. The activation type and the routing activation
response code are closed: an unnamed byte is an error.
-/

namespace DoipWire

/-- Why a header was refused. -/
inductive NackCode where
  | incorrectPatternFormat
  | unknownPayloadType
  | messageTooLarge
  | outOfMemory
  | invalidPayloadLength
  deriving DecidableEq, Repr

instance : CodeTable NackCode where
  value
    | .incorrectPatternFormat => 0x00
    | .unknownPayloadType => 0x01
    | .messageTooLarge => 0x02
    | .outOfMemory => 0x03
    | .invalidPayloadLength => 0x04
  name
    | .incorrectPatternFormat => "INCORRECT_PATTERN_FORMAT"
    | .unknownPayloadType => "UNKNOWN_PAYLOAD_TYPE"
    | .messageTooLarge => "MESSAGE_TOO_LARGE"
    | .outOfMemory => "OUT_OF_MEMORY"
    | .invalidPayloadLength => "INVALID_PAYLOAD_LENGTH"
  members := [.incorrectPatternFormat, .unknownPayloadType, .messageTooLarge, .outOfMemory,
    .invalidPayloadLength]
  tableName := "NegativeAckCode"

/-- What a tester asks routing for. -/
inductive ActivationType where
  | default
  | wwhObd
  | centralSecurity
  deriving DecidableEq, Repr

instance : CodeTable ActivationType where
  value
    | .default => 0x00
    | .wwhObd => 0x01
    | .centralSecurity => 0x02
  name
    | .default => "DEFAULT"
    | .wwhObd => "WWH_OBD"
    | .centralSecurity => "CENTRAL_SECURITY"
  members := [.default, .wwhObd, .centralSecurity]
  tableName := "ActivationType"

/-- How an entity answers a routing activation request. -/
inductive ResponseCode where
  | deniedUnknownSourceAddress
  | deniedAllSocketsRegisteredAndActive
  | deniedSourceAddressAlreadyActivated
  | deniedSourceAddressAlreadyRegistered
  | deniedMissingAuthentication
  | deniedRejectedConfirmation
  | deniedUnsupportedActivationType
  | deniedTlsRequired
  | successfullyActivated
  | successfullyActivatedConfirmationRequired
  deriving DecidableEq, Repr

instance : CodeTable ResponseCode where
  value
    | .deniedUnknownSourceAddress => 0x00
    | .deniedAllSocketsRegisteredAndActive => 0x01
    | .deniedSourceAddressAlreadyActivated => 0x02
    | .deniedSourceAddressAlreadyRegistered => 0x03
    | .deniedMissingAuthentication => 0x04
    | .deniedRejectedConfirmation => 0x05
    | .deniedUnsupportedActivationType => 0x06
    | .deniedTlsRequired => 0x07
    | .successfullyActivated => 0x10
    | .successfullyActivatedConfirmationRequired => 0x11
  name
    | .deniedUnknownSourceAddress => "DENIED_UNKNOWN_SOURCE_ADDRESS"
    | .deniedAllSocketsRegisteredAndActive => "DENIED_ALL_SOCKETS_REGISTERED_AND_ACTIVE"
    | .deniedSourceAddressAlreadyActivated => "DENIED_SOURCE_ADDRESS_ALREADY_ACTIVATED"
    | .deniedSourceAddressAlreadyRegistered => "DENIED_SOURCE_ADDRESS_ALREADY_REGISTERED"
    | .deniedMissingAuthentication => "DENIED_MISSING_AUTHENTICATION"
    | .deniedRejectedConfirmation => "DENIED_REJECTED_CONFIRMATION"
    | .deniedUnsupportedActivationType => "DENIED_UNSUPPORTED_ACTIVATION_TYPE"
    | .deniedTlsRequired => "DENIED_TLS_REQUIRED"
    | .successfullyActivated => "SUCCESSFULLY_ACTIVATED"
    | .successfullyActivatedConfirmationRequired => "SUCCESSFULLY_ACTIVATED_CONFIRMATION_REQUIRED"
  members := [.deniedUnknownSourceAddress, .deniedAllSocketsRegisteredAndActive,
    .deniedSourceAddressAlreadyActivated, .deniedSourceAddressAlreadyRegistered,
    .deniedMissingAuthentication, .deniedRejectedConfirmation, .deniedUnsupportedActivationType,
    .deniedTlsRequired, .successfullyActivated, .successfullyActivatedConfirmationRequired]
  tableName := "RoutingActivationResponseCode"

/-- Whether a response code grants routing. -/
def ResponseCode.activated : ResponseCode → Bool
  | .successfullyActivated | .successfullyActivatedConfirmationRequired => true
  | _ => false

/-- What a vehicle announcement asks the tester to do next. -/
inductive FurtherAction where
  | noFurtherActionRequired
  | routingActivationRequiredForCentralSecurity
  deriving DecidableEq, Repr

instance : CodeTable FurtherAction where
  value
    | .noFurtherActionRequired => 0x00
    | .routingActivationRequiredForCentralSecurity => 0x10
  name
    | .noFurtherActionRequired => "NO_FURTHER_ACTION_REQUIRED"
    | .routingActivationRequiredForCentralSecurity =>
      "ROUTING_ACTIVATION_REQUIRED_FOR_CENTRAL_SECURITY"
  members := [.noFurtherActionRequired, .routingActivationRequiredForCentralSecurity]
  tableName := "FurtherActionRequired"

/-- Whether the entities of a vehicle agree on its identification. -/
inductive SyncStatus where
  | synchronized
  | incomplete
  deriving DecidableEq, Repr

instance : CodeTable SyncStatus where
  value
    | .synchronized => 0x00
    | .incomplete => 0x10
  name
    | .synchronized => "SYNCHRONIZED"
    | .incomplete => "INCOMPLETE"
  members := [.synchronized, .incomplete]
  tableName := "VinGidSyncStatus"

/-- How an entity confirms a diagnostic message. -/
inductive PositiveAckCode where
  | routingConfirmationAck
  deriving DecidableEq, Repr

instance : CodeTable PositiveAckCode where
  value
    | .routingConfirmationAck => 0x00
  name
    | .routingConfirmationAck => "ROUTING_CONFIRMATION_ACK"
  members := [.routingConfirmationAck]
  tableName := "DiagnosticMessagePositiveAckCode"

/-- Why an entity refused a diagnostic message. -/
inductive NegativeAckCode where
  | invalidSourceAddress
  | unknownTargetAddress
  | diagnosticMessageTooLarge
  | outOfMemory
  | targetUnreachable
  | unknownNetwork
  | transportProtocolError
  deriving DecidableEq, Repr

instance : CodeTable NegativeAckCode where
  value
    | .invalidSourceAddress => 0x02
    | .unknownTargetAddress => 0x03
    | .diagnosticMessageTooLarge => 0x04
    | .outOfMemory => 0x05
    | .targetUnreachable => 0x06
    | .unknownNetwork => 0x07
    | .transportProtocolError => 0x08
  name
    | .invalidSourceAddress => "INVALID_SOURCE_ADDRESS"
    | .unknownTargetAddress => "UNKNOWN_TARGET_ADDRESS"
    | .diagnosticMessageTooLarge => "DIAGNOSTIC_MESSAGE_TOO_LARGE"
    | .outOfMemory => "OUT_OF_MEMORY"
    | .targetUnreachable => "TARGET_UNREACHABLE"
    | .unknownNetwork => "UNKNOWN_NETWORK"
    | .transportProtocolError => "TRANSPORT_PROTOCOL_ERROR"
  members := [.invalidSourceAddress, .unknownTargetAddress, .diagnosticMessageTooLarge,
    .outOfMemory, .targetUnreachable, .unknownNetwork, .transportProtocolError]
  tableName := "DiagnosticMessageNegativeAckCode"

namespace OpenCode

variable {α : Type} [CodeTable α]

/-- The open code of a byte whose unnamed values are all reserved. -/
def ofByte (v : Int) : OpenCode α :=
  match CodeTable.ofValue? v with
  | some a => .member a
  | none => .reserved v

end OpenCode

/-- The further action of a byte: unnamed values below `0x10` are reserved, the others are left
to manufacturers. -/
def FurtherAction.ofByte (v : Int) : OpenCode FurtherAction :=
  match CodeTable.ofValue? v with
  | some a => .member a
  | none => if v < 0x10 then .reserved v else .vmSpecific v

/-- The activation type of a byte. -/
def ActivationType.ofByte (v : Int) : Except Error ActivationType :=
  match CodeTable.ofValue? v with
  | some a => .ok a
  | none => .error (.unknownActivationType v)

/-- The routing activation response code of a byte. -/
def ResponseCode.ofByte (v : Int) : Except Error ResponseCode :=
  match CodeTable.ofValue? v with
  | some a => .ok a
  | none => .error (.unknownResponseCode v)

end DoipWire
