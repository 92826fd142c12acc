import DoipWire.Error

/-!
# Byte sources

A source hands out the bytes it holds in order. A request for `n` bytes may get fewer: the
source's read limit caps every request. A source may also fill a caller's buffer in place, each
fill capped by a limit that may differ with the position where it starts, so that any sequence of
fill counts is one source. Reading an exact count makes one request and fails, naming how
much arrived, if it came up short; filling a buffer repeats fills until the buffer is full and
fails when a fill brings nothing. Both keep what arrived: the bytes a short request delivered are
consumed, and the bytes a fill delivered stay in the buffer.
-/

namespace DoipWire

/-- How a source delivers bytes. -/
structure ReadLimits where
  /-- Whether the source fills a caller's buffer in place. -/
  fills : Bool
  /-- The most bytes one request returns. -/
  readCap : Option Nat
  /-- The most bytes one fill delivers, by the position in the stream where the fill starts. -/
  fillCap : Option (Nat → Nat)

/-- A source that fills buffers and delivers all it is asked for. -/
def ReadLimits.plain : ReadLimits := ⟨true, none, none⟩

/-- A byte source: the bytes still to come, how many were handed out, and its limits. -/
structure Source where
  rest : List UInt8
  consumed : Nat
  limits : ReadLimits

/-- Reading and filling: a failure keeps the state reached. -/
abbrev Reading := EStateM Error Source

/-- Decoding into an instance of `α`: source and instance travel together, and a failure keeps
both as they were left. -/
abbrev Decoder (α β : Type) := EStateM Error (Source × α) β

namespace Source

/-- A source of the given bytes. -/
def ofBytes (limits : ReadLimits) (bs : List UInt8) : Source := ⟨bs, 0, limits⟩

/-- Appends bytes to the source. -/
def feed (s : Source) (bs : List UInt8) : Source := { s with rest := s.rest ++ bs }

/-- Hands out up to `k` bytes. -/
def advance (s : Source) (k : Nat) : List UInt8 × Source :=
  let got := s.rest.take k
  (got, { s with rest := s.rest.drop k, consumed := s.consumed + got.length })

/-- One request for `n` bytes, cut at the read limit. -/
def request (s : Source) (n : Nat) : List UInt8 × Source :=
  s.advance (match s.limits.readCap with | some c => min n c | none => n)

/-- One fill of a buffer with room for `n` bytes, cut at the fill limit where it starts. -/
def fillOnce (s : Source) (n : Nat) : List UInt8 × Source :=
  s.advance (match s.limits.fillCap with | some c => min n (c s.consumed) | none => n)

/-- Exactly `n` bytes in one request; nothing is requested for zero. -/
def readExact (n : Nat) : Reading (List UInt8) := fun s =>
  if n = 0 then .ok [] s
  else
    let r := s.request n
    if r.1.length < n then .error (.truncated r.1.length n) r.2 else .ok r.1 r.2

/-- One byte. -/
def readByte : Reading UInt8 := fun s =>
  match readExact 1 s with
  | .ok bs s' => .ok (bs.headD 0) s'
  | .error e s' => .error e s'

/-- Places `chunk` into `buf` from position `pos`. -/
def place (buf : List UInt8) (pos : Nat) (chunk : List UInt8) : List UInt8 :=
  buf.take pos ++ chunk ++ buf.drop (pos + chunk.length)

/-- Fills positions `filled` up to `size` of the buffer, one fill at a time. -/
def fillFrom (size filled : Nat) : EStateM Error (Source × List UInt8) Unit := fun st =>
  if _h : filled < size then
    match st.1.fillOnce (size - filled) with
    | (chunk, s') =>
      if _hz : chunk.length = 0 then .error (.truncated filled size) (s', st.2)
      else fillFrom size (filled + chunk.length) (s', place st.2 filled chunk)
  else .ok () st
termination_by size - filled
decreasing_by omega

/-- Receives bytes `got` up to `n` of a fresh buffer, one fill at a time. -/
def receiveFrom (n got : Nat) : Reading (List UInt8) := fun s =>
  if _h : got < n then
    match s.fillOnce (n - got) with
    | (chunk, s') =>
      if _hz : chunk.length = 0 then .error (.truncated got n) s'
      else
        match receiveFrom n (got + chunk.length) s' with
        | .ok rest s'' => .ok (chunk ++ rest) s''
        | .error e s'' => .error e s''
  else .ok [] s
termination_by n - got
decreasing_by omega

/-- The bytes that fill a fresh buffer of `n` bytes: by fills when the source offers them, else
by one exact read. -/
def receive (n : Nat) : Reading (List UInt8) := fun s =>
  if n = 0 then .ok [] s
  else if s.limits.fills then receiveFrom n 0 s
  else readExact n s

/-- Fills the whole buffer: by fills when the source offers them, else by one exact read that
replaces the buffer only when it succeeds. -/
def readInto : EStateM Error (Source × List UInt8) Unit := fun st =>
  if st.2.length = 0 then .ok () st
  else if st.1.limits.fills then fillFrom st.2.length 0 st
  else match readExact st.2.length st.1 with
    | .ok data s' => .ok () (s', data)
    | .error e s' => .error e (s', st.2)

end Source

namespace Decoder

variable {α β γ : Type}

/-- Runs a read on the source, leaving the instance as it is. -/
def read (r : Reading β) : Decoder α β := fun st =>
  match r st.1 with
  | .ok b s' => .ok b (s', st.2)
  | .error e s' => .error e (s', st.2)

/-- Fails without reading. -/
def fail (e : Error) : Decoder α β := fun st => .error e st

/-- The result of a check, failing without reading. -/
def check (r : Except Error β) : Decoder α β := fun st =>
  match r with
  | .ok b => .ok b st
  | .error e => .error e st

/-- The instance as it stands. -/
def target : Decoder α α := fun st => .ok st.2 st

/-- Replaces the instance. -/
def update (f : α → α) : Decoder α Unit := fun st => .ok () (st.1, f st.2)

/-- Runs a decoder on one part of the instance. -/
def onPart (get : α → β) (put : β → α → α) (d : Decoder β γ) : Decoder α γ := fun st =>
  match d (st.1, get st.2) with
  | .ok c (s', b) => .ok c (s', put b st.2)
  | .error e (s', b) => .error e (s', put b st.2)

end Decoder

end DoipWire
