import DoipWire.BigEndian
import DoipWire.PayloadType
import DoipWire.Source
import DoipWire.Text.Numeral

/-!
# Headers

Every message starts with eight bytes: the protocol version, its bitwise inverse, the payload
type code in two bytes and the payload length in four. A header built here derives the inverse
from the version; a header read from the wire keeps both bytes as they came, unchecked. Writing a
header fails for a version byte outside `0 .. 255` first, then for a code or length that does
not fit its field. Reading the bytes of a header gives it back; writing a header read from bytes
gives the bytes back.
-/

namespace DoipWire

/-- The length of a header in bytes. -/
def headerSize : Nat := 8

/-- The protocol version messages carry unless told otherwise. -/
def defaultVersion : Int := 2

/-- The inverse of a protocol version byte: its bitwise complement in eight bits. -/
def inverseVersion (v : Int) : Int := (-v - 1) % 256

/-- The protocol version a text names: a numeral with its base marked, or a plain decimal one,
in `0 .. 255`. A lone surrogate is read as the replacement character, which no numeral holds. -/
def parseVersion (text : List Glyph) : Except Error Int :=
  let s := Glyph.toText text
  match (Numeral.read .auto s).orElse (fun _ => Numeral.read .decimal s) with
  | none => .error (.versionSyntax text)
  | some v => if 0 ≤ v ∧ v ≤ 255 then .ok v else .error (.versionRange text)

/-- A message header. -/
structure Header where
  version : Int
  inverseVersion : Int
  payloadType : PayloadType
  payloadLength : Int
  deriving DecidableEq, Repr

namespace Header

/-- The header announcing `len` bytes of type `t`, with the inverse derived from `v`. -/
def new (t : PayloadType) (len : Int) (v : Int) : Header :=
  ⟨v, DoipWire.inverseVersion v, t, len⟩

/-- The eight bytes of a header. -/
def toBytes (h : Header) : Except Error (List UInt8) := do
  let versions ← BigEndian.bytesOf [h.version, h.inverseVersion]
  let code ← BigEndian.encode 2 h.payloadType.code
  let len ← BigEndian.encode 4 h.payloadLength
  pure (versions ++ code ++ len)

/-- The header spelled by the first eight bytes; more bytes are ignored. -/
def ofBytes (bs : List UInt8) : Except Error Header :=
  match bs with
  | v :: i :: t0 :: t1 :: l0 :: l1 :: l2 :: l3 :: _ =>
    .ok ⟨v.toNat, i.toNat, PayloadType.classify (BigEndian.ofBytes [t0, t1]),
      BigEndian.ofBytes [l0, l1, l2, l3]⟩
  | _ => .error (.headerTooShort bs.length)

/-- Reads a header with one request for eight bytes. -/
def read : Reading Header := fun s =>
  match Source.readExact headerSize s with
  | .ok bs s' =>
    match ofBytes bs with
    | .ok h => .ok h s'
    | .error e => .error e s'
  | .error e s' => .error e s'

end Header

end DoipWire
