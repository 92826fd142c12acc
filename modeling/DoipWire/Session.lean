import DoipWire.Stream
import DoipWire.Message.Fields

/-!
# Sessions

A session holds one byte source, named slots each holding a message instance, and for a slot
name the buffer of the caller that its last successful borrowed decoding viewed. Steps read from
the source, build, decode into and write the slots' messages, and change single bytes of a kept
buffer; a message whose data still views that buffer shows every change made to it. A message
read from the source into a slot ends the keeping of its buffer. A step that fails leaves the
source and the slot exactly as the failure left them, and the session goes on.
-/

namespace DoipWire

/-- A kept buffer, and where the borrowed data decoded from it starts. -/
structure View where
  buffer : List UInt8
  start : Nat

/-- One slot: its message, and whether the message's data views the slot's kept buffer. -/
structure Slot where
  message : Message
  viewsKept : Bool

/-- A session: the source, the slots by name, and the buffers kept by slot name. -/
structure Session where
  source : Source
  slots : List (String × Slot)
  kept : List (String × View)

/-- One step of a session. -/
inductive Step where
  /-- Append bytes to the source. -/
  | feed (bytes : List UInt8)
  /-- One request for `n` bytes; a count below zero asks for all the source holds. -/
  | skip (n : Int)
  | readHeader
  /-- Read a message of a kind, or of any kind, storing it in the slot if one is named. -/
  | readMessage (kind : Option Kind) (slot : Option String)
  | readPayload (kind : Kind) (len : Int) (slot : Option String)
  | build (slot : String) (kind : Kind) (fields : List (String × FieldInput))
  | zeroed (slot : String) (kind : Kind)
  /-- Decode from a buffer the session keeps, the whole message or only its payload. -/
  | borrow (slot : String) (kind : DiagnosticKind) (bytes : List UInt8) (payloadOnly : Bool)
  /-- Change one byte of the buffer kept for the slot. -/
  | poke (slot : String) (index : Int) (byte : Int)
  | readReplaceMessage (slot : String)
  | readReplacePayload (slot : String) (len : Int)
  /-- Assign one field without checks. -/
  | set (slot : String) (field : String) (value : FieldInput)
  | write (slot : String) (version : Int)
  | length (slot : String)
  | show (slot : String)
  | equal (a b : String)

/-- A step, and the slot whose message its answer shows. -/
structure Request where
  step : Step
  shows : Option String

/-- Why a byte of a kept buffer cannot be changed. -/
inductive PokeError where
  /-- The position is beyond what a machine word indexes. -/
  | indexTooLarge
  /-- The position is outside the buffer. -/
  | indexOutOfRange
  /-- The value is not a byte. -/
  | byteOutOfRange

/-- The words of a refused change. -/
def PokeError.message : PokeError → String
  | .indexTooLarge => "cannot fit 'int' into an index-sized integer"
  | .indexOutOfRange => "bytearray index out of range"
  | .byteOutOfRange => "byte must be in range(0, 256)"

/-- What a step produced. -/
inductive StepResult where
  | nothing
  | bytes (b : List UInt8)
  | header (h : Header)
  | message (m : Message)
  | count (n : Nat)
  | flag (b : Bool)
  | failed (e : Error)
  /-- A change to a kept buffer that is refused. -/
  | refused (e : PokeError)

/-- The answer to a step: its result, the bytes consumed so far, and the message of the slot the
request shows, if that slot holds one after the step. -/
structure Reply where
  result : StepResult
  consumed : Nat
  slot : Option Message

namespace Message

/-- Whether a field holds the opaque data. -/
def isOpaqueField (field : String) : Bool :=
  field == "user_data" || field == "previous_diagnostic_message_data"

end Message

/-- A slot after its message was decoded into: its data is the same as before, so it views
what it viewed. -/
def Slot.update (slot : Slot) (m : Message) : Slot :=
  { slot with message := m }

namespace Session

/-- A session over the given bytes. -/
def start (limits : ReadLimits) (bytes : List UInt8) : Session :=
  ⟨Source.ofBytes limits bytes, [], []⟩

/-- The slot with a name. -/
def slot? (s : Session) (name : String) : Option Slot :=
  (s.slots.find? (·.1 == name)).map (·.2)

/-- Stores a slot under a name. -/
def store (s : Session) (name : String) (slot : Slot) : Session :=
  { s with slots := (name, slot) :: s.slots.filter (·.1 != name) }

/-- Stores a new message in a slot; its data views no kept buffer. -/
def storeMessage (s : Session) (name : String) (m : Message) : Session :=
  s.store name ⟨m, false⟩

/-- Keeps a buffer for a slot name. -/
def keep (s : Session) (name : String) (v : View) : Session :=
  { s with kept := (name, v) :: s.kept.filter (·.1 != name) }

/-- Ends the keeping of a slot name's buffer. -/
def release (s : Session) (name : String) : Session :=
  { s with kept := s.kept.filter (·.1 != name) }

/-- The buffer kept for a slot name. -/
def kept? (s : Session) (name : String) : Option View :=
  (s.kept.find? (·.1 == name)).map (·.2)

/-- The refusal of a step on an empty slot. -/
def emptySlot (name : String) : Error := .malformed s!"empty slot {Quoted.quote name}"

/-- The slot a step needs. -/
def need (s : Session) (name : String) : Except Error Slot :=
  match s.slot? name with
  | some slot => .ok slot
  | none => .error (emptySlot name)

/-- The answer to a step, showing the message of the slot `name` if it holds one. -/
def reply (s : Session) (r : StepResult) (name : Option String) : Reply :=
  ⟨r, s.source.consumed, name.bind fun n => (s.slot? n).map (·.message)⟩

/-- A read from the source, storing a message in the named slot. -/
def readInto (s : Session) (r : Reading Message) (name : Option String) : Session × StepResult :=
  match r s.source with
  | .ok m src =>
    let s := { s with source := src }
    (match name with
      | some n => (s.storeMessage n m).release n
      | none => s, .message m)
  | .error e src => ({ s with source := src }, .failed e)

/-- A decoding into the named slot's message. -/
def decodeInto (s : Session) (name : String) (slot : Slot) (d : Decoder Message Unit) :
    Session × StepResult :=
  match d (s.source, slot.message) with
  | .ok () (src, m) => ({ s with source := src }.store name (slot.update m), .nothing)
  | .error e (src, m) => ({ s with source := src }.store name (slot.update m), .failed e)

/-- The largest position a machine word indexes. -/
def maxIndex : Int := Int.pow 2 63 - 1

/-- Writes `byte` at `index` of a buffer, counting a negative index from the end. The index
must be a machine word, then the value a byte, and only then is the position checked against
the buffer. -/
def pokeBytes (buf : List UInt8) (index byte : Int) : Except PokeError (List UInt8) :=
  if index < -maxIndex - 1 ∨ maxIndex < index then .error .indexTooLarge
  else if byte < 0 ∨ 255 < byte then .error .byteOutOfRange
  else
    let i := if index < 0 then index + buf.length else index
    if i < 0 ∨ buf.length ≤ i then .error .indexOutOfRange
    else .ok (buf.set i.toNat (UInt8.ofNat byte.toNat))

/-- Runs one step. -/
def step (s : Session) : Step → Except Error (Session × StepResult)
  | .feed bytes =>
    let s := { s with source := s.source.feed bytes }
    .ok (s, .nothing)
  | .skip n =>
    let r := s.source.request (if n < 0 then s.source.rest.length else n.toNat)
    let s := { s with source := r.2 }
    .ok (s, .bytes r.1)
  | .readHeader =>
    match Header.read s.source with
    | .ok h src => let s := { s with source := src }; .ok (s, .header h)
    | .error e src => let s := { s with source := src }; .ok (s, .failed e)
  | .readMessage kind name =>
    .ok (s.readInto (match kind with
      | some k => Message.readOf k
      | none => Message.readAny) name)
  | .readPayload kind len name => .ok (s.readInto (Message.read kind len) name)
  | .build name kind fields =>
    match Message.build kind fields with
    | .ok m => let s := s.storeMessage name m; .ok (s, .nothing)
    | .error (.malformed r) => .error (.malformed r)
    | .error e => .ok (s, .failed e)
  | .zeroed name kind =>
    let s := s.storeMessage name (Message.zeroed kind)
    .ok (s, .nothing)
  | .borrow name kind bytes payloadOnly =>
    let decoded := if payloadOnly then Message.readBorrowed kind bytes
      else Message.readBorrowedMessage kind bytes
    let start := (if payloadOnly then 0 else headerSize) + kind.head
    match decoded with
    | .ok m =>
      let s := (s.store name ⟨m, true⟩).keep name ⟨bytes, start⟩
      .ok (s, .nothing)
    | .error e => .ok (s, .failed e)
  | .poke name index byte => do
    let v ← match s.kept? name with
      | some v => pure v
      | none => throw (.malformed "slot has no borrowed buffer")
    match pokeBytes v.buffer index byte with
    | .error r => .ok (s, .refused r)
    | .ok buf =>
      let s := s.keep name { v with buffer := buf }
      let s := match s.slot? name with
        | some slot =>
          match slot.viewsKept, slot.message.opaque? with
          | true, some (.borrowed d) =>
            s.store name
              { slot with message := slot.message.withOpaque (.borrowed (slice buf v.start d.length)) }
          | _, _ => s
        | none => s
      .ok (s, .nothing)
  | .readReplaceMessage name => do
    let slot ← s.need name
    pure (s.decodeInto name slot Message.readReplaceMessage)
  | .readReplacePayload name len => do
    let slot ← s.need name
    pure (s.decodeInto name slot (Message.readReplace len))
  | .set name field value => do
    let slot ← s.need name
    let m ← slot.message.setField field value
    let slot := if Message.isOpaqueField field then ⟨m, false⟩ else slot.update m
    let s := s.store name slot
    .ok (s, .nothing)
  | .write name version => do
    let slot ← s.need name
    let r := match slot.message.encode version with
      | .ok bs => StepResult.bytes bs
      | .error e => .failed e
    .ok (s, r)
  | .length name => do
    let slot ← s.need name
    .ok (s, .count slot.message.wireLength)
  | .show name => do
    let _ ← s.need name
    .ok (s, .nothing)
  | .equal a b => do
    let x ← s.need a
    let y ← s.need b
    .ok (s, .flag (x.message == y.message))

/-- Runs the requests in order; a malformed step ends the whole session. -/
def run (s : Session) : List Request → Except Error (List Reply)
  | [] => .ok []
  | r :: rest => do
    let (s', result) ← s.step r.step
    let rs ← s'.run rest
    pure (s'.reply result r.shows :: rs)

end Session

end DoipWire
