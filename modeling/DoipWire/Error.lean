import DoipWire.Kind
import DoipWire.Text.Hex
import DoipWire.Text.HexLiteral
import DoipWire.Text.Quoted

/-!
# Errors

Every failure of the codec is one of these causes. Decoding fails on the protocol's own causes
(a length the kind refuses, an unknown code, an unexpected payload type, a borrowed buffer that
would have to grow, a source that ran dry), and on a declared length whose data could not be
allocated; building a message or writing one with out of range fields fails on the others.
`Error.message` holds the words of each.
-/

namespace DoipWire

/-- Why an operation of the codec failed. -/
inductive Error where
  /-- A declared payload length that the kind does not accept. -/
  | payloadLength (value expected : Int)
  /-- An activation type byte without a name. -/
  | unknownActivationType (value : Int)
  /-- A routing activation response code byte without a name. -/
  | unknownResponseCode (value : Int)
  /-- A header announced another payload type; its payload of `unread` bytes was not read. -/
  | unexpectedPayloadType (code : Nat) (unread : Nat)
  /-- Borrowed data cannot be resized. -/
  | bufferTooSmall
  /-- A read delivered `got` of the `wanted` bytes. -/
  | truncated (got wanted : Nat)
  /-- A sink took `wrote` of `total` bytes. -/
  | shortWrite (wrote : Int) (total : Nat)
  /-- A field value outside the unsigned range of its width in bytes. -/
  | fieldRange (field : String) (value : Int) (width : Nat)
  /-- A byte field of the wrong length. -/
  | fieldWidth (field : String) (width got : Nat)
  /-- A group identification that spells the value meaning "not set". -/
  | gidNotSet (gid : List UInt8)
  /-- The width of a byte field that holds nothing was checked. -/
  | widthOfNothing
  /-- A body was written that starts with a byte field holding nothing. -/
  | nothingFirst
  /-- A byte field holding nothing was written after other fields. -/
  | nothingJoined
  /-- A value written as a single byte is outside `0 .. 255`. -/
  | byteRange
  /-- A value is too large for its unsigned field. -/
  | tooLarge
  /-- A negative value for an unsigned field. -/
  | negative
  /-- A size that does not fit a machine index. -/
  | indexOverflow
  /-- A byte string too large to be allocated. -/
  | bytesTooLarge
  /-- The body written differs in length from the length the message reports. -/
  | lengthMismatch (kind : Kind) (wrote reported : Int)
  /-- Fewer than eight bytes for a header. -/
  | headerTooShort (got : Nat)
  /-- A payload type code outside two bytes. -/
  | payloadTypeRange (code : Int)
  /-- A protocol version text that is no numeral. -/
  | versionSyntax (text : List Glyph)
  /-- A protocol version numeral outside `0 .. 255`. -/
  | versionRange (text : List Glyph)
  /-- A message built without some fields that have no default. -/
  | missingFields (kind : Kind) (fields : List String)
  /-- A description of a message or of a field value that does not parse. -/
  | malformed (reason : String)
  deriving DecidableEq, Repr

namespace Error

/-- The names of missing fields as a sentence lists them. -/
def listNames : List String → String
  | [] => ""
  | [a] => s!"'{a}'"
  | [a, b] => s!"'{a}' and '{b}'"
  | a :: rest =>
    let last := rest.getLast?.getD a
    String.intercalate ", " ((a :: rest).dropLast.map (fun n => s!"'{n}'")) ++ s!", and '{last}'"

/-- The words of an error. -/
def message : Error → String
  | payloadLength value expected =>
    s!"Payload length in header does not match expected payload type length: {value}, expected: {expected}"
  | unknownActivationType value => s!"Unknown activation type value: {Hex.literal 4 value}"
  | unknownResponseCode value =>
    s!"Unknown routing activation response code value: {Hex.literal 4 value}"
  | unexpectedPayloadType code _ => s!"Unexpected payload type found: {Hex.literal 6 code}"
  | bufferTooSmall => "Buffer too small: borrowed data cannot be resized in place"
  | truncated got wanted => s!"Timeout or truncated message: got {got} of {wanted} bytes"
  | shortWrite wrote total => s!"Short write: wrote {wrote} of {total} bytes"
  | fieldRange field value width =>
    s!"{field} does not fit {width} byte(s): {Hex.literal 0 value}"
  | fieldWidth field width got => s!"{field} must be {width} bytes, got {got}"
  | gidNotSet gid => s!"gid {Hex.encode gid} means 'not set', use None instead"
  | widthOfNothing => "object of type 'NoneType' has no len()"
  | nothingFirst => "unsupported operand type(s) for +: 'NoneType' and 'bytes'"
  | nothingJoined => "can't concat NoneType to bytes"
  | byteRange => "bytes must be in range(0, 256)"
  | tooLarge => "int too big to convert"
  | negative => "can't convert negative int to unsigned"
  | indexOverflow => "cannot fit 'int' into an index-sized integer"
  | bytesTooLarge => "byte string is too large"
  | lengthMismatch kind wrote reported =>
    s!"{kind.name} wrote {wrote} bytes, length() reported {reported}"
  | headerTooShort got => s!"Header needs 8 bytes, got {got}"
  | payloadTypeRange code => s!"Payload type code out of range: {code}"
  | versionSyntax text => s!"Invalid DoIP protocol version: {Quoted.quoteGlyphs text}"
  | versionRange text => s!"DoIP protocol version out of range 0..255: {Quoted.quoteGlyphs text}"
  | missingFields kind fields =>
    let count := fields.length
    let noun := if count = 1 then "argument" else "arguments"
    s!"{kind.name}.__init__() missing {count} required positional {noun}: {listNames fields}"
  | malformed reason => reason

/-- Whether an error is one of the protocol's own causes, as opposed to a field value that
cannot be written. -/
def isProtocol : Error → Bool
  | payloadLength .. | unknownActivationType _ | unknownResponseCode _
  | unexpectedPayloadType .. | bufferTooSmall | truncated .. | shortWrite .. => true
  | _ => false

end Error

end DoipWire
