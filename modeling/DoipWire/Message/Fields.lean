import DoipWire.Message.Validate
import DoipWire.Text.Decimal
import DoipWire.Text.Hex
import DoipWire.Text.Quoted

/-!
# Fields by name

Each kind declares its fields in a fixed order under the names of the standard. A message can
be built from named field values, where omitted fields take their defaults and fields without a
default must be given; a single field can be assigned without any check; and a message can be
shown as its named fields in order. Byte fields are given as hexadecimal text or as null for
nothing, codes by member name or as a marked number, and closed codes also as a plain number.
The text of a vehicle identification number is shown only when the field holds bytes.
-/

namespace DoipWire

/-- A field value as a description gives it. Texts may hold lone surrogates, which no name or
hexadecimal digit matches. -/
inductive FieldInput where
  | int (v : Int)
  /-- A number written with a fraction or an exponent, which no field takes. -/
  | float (x : Float)
  | text (s : List Glyph)
  | null
  | reserved (v : Int)
  | vmSpecific (v : Int)
  | borrowed (hex : List Glyph)
  deriving Repr

/-- A field value as shown. -/
inductive FieldView where
  | int (v : Int)
  | bytes (b : List UInt8)
  | absent
  | member (name : String) (value : Nat) (activated : Option Bool)
  | reserved (v : Int)
  | vmSpecific (v : Int)
  | raw (v : Int)
  | data (borrowed : Bool) (b : List UInt8)
  | text (s : String)
  deriving DecidableEq, Repr

namespace FieldInput

variable {α : Type} [CodeTable α]

/-- How a value reads in a refusal. -/
def describe : FieldInput → String
  | int v => toString v
  | float x => Decimal.render x
  | text s => Quoted.quoteGlyphs s
  | null => "None"
  | reserved v => "\x7b'Reserved': " ++ toString v ++ "\x7d"
  | vmSpecific v => "\x7b'VmSpecific': " ++ toString v ++ "\x7d"
  | borrowed s => "\x7b'borrowed': " ++ Quoted.quoteGlyphs s ++ "\x7d"

/-- The refusal of a value of the wrong shape. -/
def refuse {β : Type} (expected : String) (v : FieldInput) : Except Error β :=
  .error (.malformed s!"expected {expected}, got {v.describe}")

/-- An integer. -/
def toInt : FieldInput → Except Error Int
  | int v => .ok v
  | v => refuse "integer" v

/-- Bytes given as hexadecimal text. -/
def hexBytes (s : List Glyph) : Except Error (List UInt8) :=
  match Hex.decode (Glyph.toText s) with
  | .ok bs => .ok bs
  | .error p => .error (.malformed s!"bad hex: {Hex.errorText p}")

/-- A byte string or nothing. -/
def toOptionalBytes : FieldInput → Except Error (Option (List UInt8))
  | null => .ok none
  | text s => (hexBytes s).map some
  | v => refuse "hex string or null" v

/-- A member by name. -/
def member (s : List Glyph) : Except Error α :=
  match CodeTable.ofName? (Glyph.toText s) with
  | some a => .ok a
  | none =>
    .error (.malformed s!"{CodeTable.tableName α} has no member {Quoted.quoteGlyphs s}")

/-- An open code. -/
def toOpenCode : FieldInput → Except Error (OpenCode α)
  | text s => (member s).map .member
  | reserved v => .ok (.reserved v)
  | vmSpecific v => .ok (.vmSpecific v)
  | v => refuse "member name or carrier" v

/-- A closed code. -/
def toClosedCode : FieldInput → Except Error (ClosedCode α)
  | text s => (member s).map .member
  | int v => .ok (.raw v)
  | v => refuse "integer" v

/-- Opaque data. -/
def toOpaque : FieldInput → Except Error Opaque
  | text s => (hexBytes s).map .owned
  | borrowed s => (hexBytes s).map .borrowed
  | v => refuse "hex string" v

end FieldInput

namespace OpenCode

variable {α : Type} [CodeTable α]

/-- How an open code shows. -/
def view : OpenCode α → FieldView
  | member a => .member (CodeTable.name a) (CodeTable.value a) none
  | reserved v => .reserved v
  | vmSpecific v => .vmSpecific v

end OpenCode

namespace ClosedCode

variable {α : Type} [CodeTable α]

/-- How a closed code shows, with a flag of its members. -/
def viewWith (flag : α → Option Bool) : ClosedCode α → FieldView
  | member a => .member (CodeTable.name a) (CodeTable.value a) (flag a)
  | raw v => .raw v

end ClosedCode

/-- How a routing activation response code shows: with whether it grants routing. -/
def ResponseCode.view (c : ResponseCode) : FieldView :=
  .member (CodeTable.name c) (CodeTable.value c) (some c.activated)

/-- The text of a vehicle identification number: its ASCII bytes, with the replacement
character for every byte above. -/
def vinText (vin : List UInt8) : String :=
  String.ofList (vin.map fun b => if b.toNat < 128 then Char.ofNat b.toNat else '�')

/-- How opaque data shows. -/
def Opaque.view : Opaque → FieldView
  | .owned bs => .data false bs
  | .borrowed bs => .data true bs

/-- How a byte field that may hold nothing shows. -/
def optionalView : Option (List UInt8) → FieldView
  | some bs => .bytes bs
  | none => .absent

namespace Kind

/-- The fields of a kind, in declaration order. -/
def fieldNames : Kind → List String
  | genericHeaderNack => ["nack_code"]
  | vehicleIdResponse =>
    ["vin", "logical_address", "eid", "gid", "further_action", "vin_gid_sync_status"]
  | routingActivationRequest => ["source_address", "activation_type", "reserved", "reserved_oem"]
  | routingActivationResponse =>
    ["logical_address_tester", "logical_address_of_doip_entity",
     "routing_activation_response_code", "reserved_oem", "oem_specific"]
  | aliveCheckResponse => ["source_address"]
  | entityStatusResponse => ["node_type", "max_open_sockets", "cur_open_sockets", "max_data_size"]
  | powerModeResponse => ["power_mode"]
  | diagnosticMessage => ["source_address", "target_address", "user_data"]
  | diagnosticPositiveAck =>
    ["source_address", "target_address", "ack_code", "previous_diagnostic_message_data"]
  | diagnosticNegativeAck =>
    ["source_address", "target_address", "ack_code", "previous_diagnostic_message_data"]
  | _ => []

/-- The number of leading fields of a kind that have no default. -/
def requiredCount : Kind → Nat
  | genericHeaderNack => 1
  | vehicleIdResponse => 4
  | routingActivationRequest => 1
  | routingActivationResponse => 3
  | aliveCheckResponse => 1
  | entityStatusResponse => 4
  | powerModeResponse => 1
  | diagnosticMessage => 2
  | diagnosticPositiveAck => 2
  | diagnosticNegativeAck => 3
  | _ => 0

/-- The fields of a kind that have no default. -/
def required (k : Kind) : List String := k.fieldNames.take k.requiredCount

end Kind

namespace Message

/-- The refusal of a field the kind does not have. -/
def noField (k : Kind) (field : String) : Error :=
  .malformed s!"{k.name} has no field {Quoted.quote field}"

/-- Assigns one field, without any check of the value. -/
def setField (m : Message) (field : String) (v : FieldInput) : Except Error Message :=
  match m, field with
  | genericHeaderNack _, "nack_code" => genericHeaderNack <$> v.toOpenCode
  | vehicleIdResponse a, "vin" => (fun x => vehicleIdResponse { a with vin := x }) <$> v.toOptionalBytes
  | vehicleIdResponse a, "logical_address" =>
    (fun x => vehicleIdResponse { a with logicalAddress := x }) <$> v.toInt
  | vehicleIdResponse a, "eid" => (fun x => vehicleIdResponse { a with eid := x }) <$> v.toOptionalBytes
  | vehicleIdResponse a, "gid" =>
    (fun x => vehicleIdResponse { a with gid := x }) <$> v.toOptionalBytes
  | vehicleIdResponse a, "further_action" =>
    (fun x => vehicleIdResponse { a with furtherAction := x }) <$> v.toOpenCode
  | vehicleIdResponse a, "vin_gid_sync_status" =>
    (fun x => vehicleIdResponse { a with syncStatus := x }) <$> v.toOpenCode
  | routingActivationRequest a, "source_address" =>
    (fun x => routingActivationRequest { a with sourceAddress := x }) <$> v.toInt
  | routingActivationRequest a, "activation_type" =>
    (fun x => routingActivationRequest { a with activationType := x }) <$> v.toClosedCode
  | routingActivationRequest a, "reserved" =>
    (fun x => routingActivationRequest { a with reserved := x }) <$> v.toOptionalBytes
  | routingActivationRequest a, "reserved_oem" =>
    (fun x => routingActivationRequest { a with reservedOem := x }) <$> v.toOptionalBytes
  | routingActivationResponse a, "logical_address_tester" =>
    (fun x => routingActivationResponse { a with testerAddress := x }) <$> v.toInt
  | routingActivationResponse a, "logical_address_of_doip_entity" =>
    (fun x => routingActivationResponse { a with entityAddress := x }) <$> v.toInt
  | routingActivationResponse a, "routing_activation_response_code" =>
    (fun x => routingActivationResponse { a with responseCode := x }) <$> v.toClosedCode
  | routingActivationResponse a, "reserved_oem" =>
    (fun x => routingActivationResponse { a with reservedOem := x }) <$> v.toOptionalBytes
  | routingActivationResponse a, "oem_specific" =>
    (fun x => routingActivationResponse { a with oemSpecific := x }) <$> v.toOptionalBytes
  | aliveCheckResponse _, "source_address" => aliveCheckResponse <$> v.toInt
  | entityStatusResponse a, "node_type" =>
    (fun x => entityStatusResponse { a with nodeType := x }) <$> v.toInt
  | entityStatusResponse a, "max_open_sockets" =>
    (fun x => entityStatusResponse { a with maxOpenSockets := x }) <$> v.toInt
  | entityStatusResponse a, "cur_open_sockets" =>
    (fun x => entityStatusResponse { a with curOpenSockets := x }) <$> v.toInt
  | entityStatusResponse a, "max_data_size" =>
    (fun x => entityStatusResponse { a with maxDataSize := x }) <$> v.toInt
  | powerModeResponse _, "power_mode" => powerModeResponse <$> v.toInt
  | diagnosticMessage a, "source_address" =>
    (fun x => diagnosticMessage { a with sourceAddress := x }) <$> v.toInt
  | diagnosticMessage a, "target_address" =>
    (fun x => diagnosticMessage { a with targetAddress := x }) <$> v.toInt
  | diagnosticMessage a, "user_data" =>
    (fun x => diagnosticMessage { a with userData := x }) <$> v.toOpaque
  | diagnosticPositiveAck a, "source_address" =>
    (fun x => diagnosticPositiveAck { a with sourceAddress := x }) <$> v.toInt
  | diagnosticPositiveAck a, "target_address" =>
    (fun x => diagnosticPositiveAck { a with targetAddress := x }) <$> v.toInt
  | diagnosticPositiveAck a, "ack_code" =>
    (fun x => diagnosticPositiveAck { a with ackCode := x }) <$> v.toOpenCode
  | diagnosticPositiveAck a, "previous_diagnostic_message_data" =>
    (fun x => diagnosticPositiveAck { a with previousData := x }) <$> v.toOpaque
  | diagnosticNegativeAck a, "source_address" =>
    (fun x => diagnosticNegativeAck { a with sourceAddress := x }) <$> v.toInt
  | diagnosticNegativeAck a, "target_address" =>
    (fun x => diagnosticNegativeAck { a with targetAddress := x }) <$> v.toInt
  | diagnosticNegativeAck a, "ack_code" =>
    (fun x => diagnosticNegativeAck { a with ackCode := x }) <$> v.toOpenCode
  | diagnosticNegativeAck a, "previous_diagnostic_message_data" =>
    (fun x => diagnosticNegativeAck { a with previousData := x }) <$> v.toOpaque
  | m, field => .error (noField m.kind field)

/-- Builds a message of kind `k` from named field values: every value must parse, every field
without a default must be given, and the result must pass the checks of its kind. -/
def build (k : Kind) (given : List (String × FieldInput)) : Except Error Message := do
  let m ← given.foldlM (fun m f => m.setField f.1 f.2) (zeroed k)
  let missing := k.required.filter fun n => !given.any (·.1 == n)
  if !missing.isEmpty then throw (.missingFields k missing)
  m.validate
  pure m

/-- The fields of a message, named, in declaration order. -/
def fields : Message → List (String × FieldView)
  | genericHeaderNack c => [("nack_code", c.view)]
  | vehicleIdResponse a =>
    [("vin", optionalView a.vin), ("logical_address", .int a.logicalAddress),
     ("eid", optionalView a.eid), ("gid", optionalView a.gid),
     ("further_action", a.furtherAction.view), ("vin_gid_sync_status", a.syncStatus.view)] ++
    (a.vin.map fun vin => ("vin_text", FieldView.text (vinText vin))).toList
  | routingActivationRequest a =>
    [("source_address", .int a.sourceAddress),
     ("activation_type", a.activationType.viewWith fun _ => none),
     ("reserved", optionalView a.reserved), ("reserved_oem", optionalView a.reservedOem)]
  | routingActivationResponse a =>
    [("logical_address_tester", .int a.testerAddress),
     ("logical_address_of_doip_entity", .int a.entityAddress),
     ("routing_activation_response_code", a.responseCode.viewWith fun c => some c.activated),
     ("reserved_oem", optionalView a.reservedOem), ("oem_specific", optionalView a.oemSpecific)]
  | aliveCheckResponse s => [("source_address", .int s)]
  | entityStatusResponse a =>
    [("node_type", .int a.nodeType), ("max_open_sockets", .int a.maxOpenSockets),
     ("cur_open_sockets", .int a.curOpenSockets), ("max_data_size", .int a.maxDataSize)]
  | powerModeResponse p => [("power_mode", .int p)]
  | diagnosticMessage a =>
    [("source_address", .int a.sourceAddress), ("target_address", .int a.targetAddress),
     ("user_data", a.userData.view)]
  | diagnosticPositiveAck a =>
    [("source_address", .int a.sourceAddress), ("target_address", .int a.targetAddress),
     ("ack_code", a.ackCode.view), ("previous_diagnostic_message_data", a.previousData.view)]
  | diagnosticNegativeAck a =>
    [("source_address", .int a.sourceAddress), ("target_address", .int a.targetAddress),
     ("ack_code", a.ackCode.view), ("previous_diagnostic_message_data", a.previousData.view)]
  | _ => []

end Message

/-- The code tables a byte can be looked up in. -/
inductive CodeName where
  | activationType
  | responseCode
  | nackCode
  | positiveAckCode
  | negativeAckCode
  | furtherAction
  | syncStatus
  deriving DecidableEq, Repr

namespace CodeName

/-- The table with a given name. -/
def ofString? : String → Option CodeName
  | "ActivationType" => some activationType
  | "RoutingActivationResponseCode" => some responseCode
  | "NegativeAckCode" => some nackCode
  | "DiagnosticMessagePositiveAckCode" => some positiveAckCode
  | "DiagnosticMessageNegativeAckCode" => some negativeAckCode
  | "FurtherActionRequired" => some furtherAction
  | "VinGidSyncStatus" => some syncStatus
  | _ => none

/-- The code a byte value has in the table. -/
def lookup (t : CodeName) (v : Int) : Except Error FieldView :=
  match t with
  | activationType => (ActivationType.ofByte v).map fun a => ClosedCode.viewWith (fun _ => none) (.member a)
  | responseCode => (ResponseCode.ofByte v).map ResponseCode.view
  | nackCode => .ok (OpenCode.ofByte (α := NackCode) v).view
  | positiveAckCode => .ok (OpenCode.ofByte (α := PositiveAckCode) v).view
  | negativeAckCode => .ok (OpenCode.ofByte (α := NegativeAckCode) v).view
  | furtherAction => .ok (FurtherAction.ofByte v).view
  | syncStatus => .ok (OpenCode.ofByte (α := SyncStatus) v).view

end CodeName

end DoipWire
