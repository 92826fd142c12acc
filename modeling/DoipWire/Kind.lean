/-!
# Message kinds

DoIP defines sixteen kinds of payload. Each kind has a two-byte payload type code, a name in
the registry of payload types, and a name as a message. The codes fall into three families:
vehicle discovery and routing from `0x0000`, entity status and power mode from `0x4001`, and
diagnostic traffic from `0x8001`.
-/

namespace DoipWire

/-- The kinds of payload, in the order of their codes. -/
inductive Kind where
  | genericHeaderNack
  | vehicleIdRequest
  | vehicleIdRequestWithEid
  | vehicleIdRequestWithVin
  | vehicleIdResponse
  | routingActivationRequest
  | routingActivationResponse
  | aliveCheckRequest
  | aliveCheckResponse
  | entityStatusRequest
  | entityStatusResponse
  | powerModeRequest
  | powerModeResponse
  | diagnosticMessage
  | diagnosticPositiveAck
  | diagnosticNegativeAck
  deriving DecidableEq, Repr, Inhabited

namespace Kind

/-- Every kind, in the order of their codes. -/
def all : List Kind :=
  [genericHeaderNack, vehicleIdRequest, vehicleIdRequestWithEid, vehicleIdRequestWithVin,
   vehicleIdResponse, routingActivationRequest, routingActivationResponse, aliveCheckRequest,
   aliveCheckResponse, entityStatusRequest, entityStatusResponse, powerModeRequest,
   powerModeResponse, diagnosticMessage, diagnosticPositiveAck, diagnosticNegativeAck]

/-- The payload type code of a kind. -/
def code : Kind → Nat
  | genericHeaderNack => 0x0000
  | vehicleIdRequest => 0x0001
  | vehicleIdRequestWithEid => 0x0002
  | vehicleIdRequestWithVin => 0x0003
  | vehicleIdResponse => 0x0004
  | routingActivationRequest => 0x0005
  | routingActivationResponse => 0x0006
  | aliveCheckRequest => 0x0007
  | aliveCheckResponse => 0x0008
  | entityStatusRequest => 0x4001
  | entityStatusResponse => 0x4002
  | powerModeRequest => 0x4003
  | powerModeResponse => 0x4004
  | diagnosticMessage => 0x8001
  | diagnosticPositiveAck => 0x8002
  | diagnosticNegativeAck => 0x8003

/-- The name of a kind in the registry of payload types. -/
def typeName : Kind → String
  | genericHeaderNack => "GENERIC_HEADER_NACK"
  | vehicleIdRequest => "VEHICLE_IDENTIFICATION_REQUEST"
  | vehicleIdRequestWithEid => "VEHICLE_IDENTIFICATION_REQUEST_WITH_EID"
  | vehicleIdRequestWithVin => "VEHICLE_IDENTIFICATION_REQUEST_WITH_VIN"
  | vehicleIdResponse => "VEHICLE_IDENTIFICATION_RESPONSE"
  | routingActivationRequest => "ROUTING_ACTIVATION_REQUEST"
  | routingActivationResponse => "ROUTING_ACTIVATION_RESPONSE"
  | aliveCheckRequest => "ALIVE_CHECK_REQUEST"
  | aliveCheckResponse => "ALIVE_CHECK_RESPONSE"
  | entityStatusRequest => "ENTITY_STATUS_REQUEST"
  | entityStatusResponse => "ENTITY_STATUS_RESPONSE"
  | powerModeRequest => "POWER_MODE_REQUEST"
  | powerModeResponse => "POWER_MODE_RESPONSE"
  | diagnosticMessage => "DIAGNOSTIC_MESSAGE"
  | diagnosticPositiveAck => "DIAGNOSTIC_MESSAGE_POSITIVE_ACK"
  | diagnosticNegativeAck => "DIAGNOSTIC_MESSAGE_NEGATIVE_ACK"

/-- The name of a kind as a message. -/
def name : Kind → String
  | genericHeaderNack => "GenericHeaderNack"
  | vehicleIdRequest => "VehicleIdentificationRequest"
  | vehicleIdRequestWithEid => "VehicleIdentificationRequestWithEid"
  | vehicleIdRequestWithVin => "VehicleIdentificationRequestWithVin"
  | vehicleIdResponse => "VehicleIdentificationResponse"
  | routingActivationRequest => "RoutingActivationRequest"
  | routingActivationResponse => "RoutingActivationResponse"
  | aliveCheckRequest => "AliveCheckRequest"
  | aliveCheckResponse => "AliveCheckResponse"
  | entityStatusRequest => "EntityStatusRequest"
  | entityStatusResponse => "EntityStatusResponse"
  | powerModeRequest => "PowerModeRequest"
  | powerModeResponse => "PowerModeResponse"
  | diagnosticMessage => "DiagnosticMessage"
  | diagnosticPositiveAck => "DiagnosticMessagePositiveAck"
  | diagnosticNegativeAck => "DiagnosticMessageNegativeAck"

/-- The kind with a given payload type code. -/
def ofCode? (c : Nat) : Option Kind :=
  all.find? (·.code = c)

/-- The kind with a given message name. -/
def ofName? (s : String) : Option Kind :=
  all.find? (·.name = s)

/-- The kind with a given registry name. -/
def ofTypeName? (s : String) : Option Kind :=
  all.find? (·.typeName = s)

theorem ofCode_code (k : Kind) : ofCode? k.code = some k := by
  cases k <;> rfl

theorem code_lt (k : Kind) : k.code < 0xF000 := by
  cases k <;> decide

end Kind

end DoipWire
