import DoipWire.Log
import DoipWire.Stream

/-!
# The tester

A tester talks to a diagnostic entity over a port. It first asks for routing and needs a
response that grants it; then it sends one diagnostic request, needs a positive acknowledgement
of it, reads the diagnostic response and acknowledges that in turn, echoing its data. Every
message goes out in one write with the default protocol version. The tester keeps a log of what
it did, and the codec adds a note when a header announces another payload type than expected.
-/

namespace DoipWire

/-- A port to an entity: the bytes still to come, everything written so far, whether writes
come back as incoming bytes, and whether a write of so many bytes completes in time. -/
structure Port where
  incoming : Source
  written : List UInt8
  echo : Bool
  inTime : Nat → Bool

/-- A port that delivers a fixed script of incoming bytes and records the writes. -/
def Port.scripted (incoming : List UInt8) : Port :=
  ⟨Source.ofBytes .plain incoming, [], false, fun _ => true⟩

/-- Why an exchange failed. -/
inductive TesterError where
  /-- The codec failed, on the wire or building a message. -/
  | codec (e : Error)
  /-- The entity did not grant routing. -/
  | denied (code : ResponseCode)
  /-- The entity refused the diagnostic message. -/
  | refused (code : OpenCode NegativeAckCode)
  /-- The entity answered with another kind of message than an acknowledgement. -/
  | unexpectedReply (kind : Kind)
  /-- A write did not complete in time. -/
  | writeTimeout
  /-- A message of `kind` was to be acknowledged, but it has no such field to echo. -/
  | missingField (kind : Kind) (field : String)

/-- How a refusal code reads: the number of a member, or the marked value. -/
def refusalText : OpenCode NegativeAckCode → String
  | .member a => toString (CodeTable.value a)
  | .reserved v => s!"Reserved(value={v})"
  | .vmSpecific v => s!"VmSpecific(value={v})"

/-- The words of a failed exchange. -/
def TesterError.message : TesterError → String
  | codec e => e.message
  | denied code => s!"Routing activation denied: {CodeTable.name code}"
  | refused code => s!"Diagnostic message refused: {refusalText code}"
  | unexpectedReply kind => s!"Expected diagnostic acknowledgement, got {kind.name}"
  | writeTimeout => "Write timeout"
  | missingField kind field => s!"{Quoted.quote kind.name} object has no attribute {Quoted.quote field}"

/-- The state of an exchange: the port and the log so far. -/
structure Exchange where
  port : Port
  log : List LogRecord

/-- A step of a tester: a failure keeps the port and log reached. -/
abbrev Tester := EStateM TesterError Exchange

namespace Tester

/-- The name under which the tester logs. -/
def testerLog : String := "doip_client"

/-- The name under which the codec's reading logs. -/
def codecLog : String := "doip.io"

/-- Adds a log record. -/
def note (level : LogLevel) (logger text : String) : Tester Unit := fun x =>
  .ok () { x with log := x.log ++ [LogRecord.say level logger text] }

/-- Fails with a codec error. -/
def fromExcept {α : Type} : Except Error α → Tester α
  | .ok a => pure a
  | .error e => throw (.codec e)

/-- Runs a read on the port's incoming bytes. -/
def onPort {α : Type} (r : Reading α) : Tester (Except Error α) := fun x =>
  match r x.port.incoming with
  | .ok a s => .ok (.ok a) { x with port := { x.port with incoming := s } }
  | .error e s => .ok (.error e) { x with port := { x.port with incoming := s } }

/-- Writes a message with the default protocol version in one write. -/
def send (m : Message) : Tester Unit := do
  let bytes ← fromExcept (m.encode defaultVersion)
  let x ← get
  if !x.port.inTime bytes.length then throw .writeTimeout
  let incoming := if x.port.echo then x.port.incoming.feed bytes else x.port.incoming
  set { x with port := { x.port with written := x.port.written ++ bytes, incoming := incoming } }

/-- Reads a message of kind `k`, noting a header of another type. -/
def readOf (k : Kind) : Tester Message := do
  match ← onPort (Message.readOf k) with
  | .ok m => pure m
  | .error e =>
    match e with
    | .unexpectedPayloadType code unread =>
      note .debug codecLog
        s!"Expected {k.name}, got payload type {Hex.literal 6 code} ({unread} bytes left unread)"
    | _ => pure ()
    throw (.codec e)

/-- Reads a message of any kind, noting a header of an unnamed type. -/
def readAny : Tester Message := do
  match ← onPort Message.readAny with
  | .ok m => pure m
  | .error e =>
    match e with
    | .unexpectedPayloadType code _ =>
      note .debug codecLog s!"No payload kind for type {Hex.literal 6 code}"
    | _ => pure ()
    throw (.codec e)

/-- Builds a message, which must pass the checks of its kind. -/
def checked (m : Message) : Tester Message := do
  fromExcept m.validate
  pure m

/-- Reads the entity's answer to a routing activation request, and needs routing granted. -/
def awaitActivation : Tester ActivationResponse := do
  match ← readOf .routingActivationResponse with
  | .routingActivationResponse r =>
    match r.responseCode with
    | .member code =>
      if code.activated then
        note .info testerLog
          s!"Routing activated by entity {Hex.literal 6 r.entityAddress} ({CodeTable.name code})"
        pure r
      else throw (.denied code)
    | .raw _ => pure r
  | m => throw (.unexpectedReply m.kind)

/-- Asks for routing from tester address `source`, and needs it granted. -/
def activateRouting (source : Int) (t : ClosedCode ActivationType) :
    Tester ActivationResponse := do
  let request ← checked (.routingActivationRequest
    ⟨source, t, some (List.replicate reservedSize 0), some (List.replicate oemSize 0)⟩)
  send request
  note .debug testerLog s!"Sent routing activation (source={Hex.literal 6 source})"
  awaitActivation

/-- Acknowledges a diagnostic response, echoing a copy of its data to its source. The
response's source address is taken first, then its data; a message of another kind lacks the
first of them it has not got. -/
def acknowledge (source : Int) (response : Message) : Tester (DiagnosticAck PositiveAckCode) := do
  let target ← match response.sourceAddress? with
    | some a => pure a
    | none => throw (.missingField response.kind "source_address")
  let data ← match response with
    | .diagnosticMessage m => pure m.userData.bytes
    | _ => throw (.missingField response.kind "user_data")
  let ack : DiagnosticAck PositiveAckCode :=
    ⟨source, target, .member .routingConfirmationAck, .owned data⟩
  let _ ← checked (.diagnosticPositiveAck ack)
  send (.diagnosticPositiveAck ack)
  pure ack

/-- Reads the entity's reply to a diagnostic request, which must be a positive
acknowledgement. -/
def awaitAck : Tester Unit := do
  match ← readAny with
  | .diagnosticPositiveAck _ => note .debug testerLog "Diagnostic message acknowledged"
  | .diagnosticNegativeAck a => throw (.refused a.ackCode)
  | other => throw (.unexpectedReply other.kind)

/-- Reads the entity's diagnostic response and acknowledges it to tester address `source`. -/
def receiveResponse (source : Int) : Tester Diagnostic := do
  match ← readOf .diagnosticMessage with
  | .diagnosticMessage response =>
    let _ ← acknowledge source (.diagnosticMessage response)
    pure response
  | other => throw (.unexpectedReply other.kind)

/-- Sends one diagnostic request and returns the entity's response, once acknowledged. -/
def sendDiagnostic (source target : Int) (request : List UInt8) : Tester Diagnostic := do
  let m ← checked (.diagnosticMessage ⟨source, target, .owned request⟩)
  send m
  note .debug testerLog s!"Sent diagnostic message: {Hex.encode request}"
  awaitAck
  receiveResponse source

end Tester

end DoipWire
