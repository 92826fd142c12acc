/-!
# Bytes as hexadecimal text

Bytes are written as two lowercase hexadecimal digits each. Reading accepts either case and
ASCII blanks before any pair, never inside one; a failure names the position of the first
character that cannot stand where it is. The main statement is that reading undoes writing.
-/

namespace DoipWire.Hex

/-- The lowercase digit of a value below sixteen. -/
def digit (n : Nat) : Char :=
  if n < 10 then Char.ofNat (48 + n) else Char.ofNat (87 + n)

/-- The value of a hexadecimal digit of either case. -/
def digitValue? (c : Char) : Option Nat :=
  if '0' ≤ c ∧ c ≤ '9' then some (c.toNat - 48)
  else if 'a' ≤ c ∧ c ≤ 'f' then some (c.toNat - 87)
  else if 'A' ≤ c ∧ c ≤ 'F' then some (c.toNat - 55)
  else none

/-- The two digits of one byte, high digit first. -/
def byteDigits (b : UInt8) : List Char :=
  [digit (b.toNat / 16), digit (b.toNat % 16)]

/-- The characters of a byte string. -/
def encodeChars (bs : List UInt8) : List Char :=
  bs.flatMap byteDigits

/-- The text of a byte string. -/
def encode (bs : List UInt8) : String :=
  String.ofList (encodeChars bs)

/-- The blanks that may stand between pairs: space, tab, line feed, carriage return,
vertical tab and form feed. -/
def isBlank (c : Char) : Bool :=
  c = ' ' || c = '\t' || c = '\n' || c = '\r' || c = '\x0b' || c = '\x0c'

/-- Reads pairs from `cs`, whose first character stands at position `i` of the whole text.
A failure gives the position of the offending character, or the length of the text when a
pair is cut off by its end. -/
def decodeFrom : List Char → Nat → Except Nat (List UInt8)
  | [], _ => .ok []
  | c :: rest, i =>
    if isBlank c then decodeFrom rest (i + 1)
    else match digitValue? c with
      | none => .error i
      | some hi =>
        match rest with
        | [] => .error (i + 1)
        | d :: rest' =>
          match digitValue? d with
          | none => .error (i + 1)
          | some lo => (decodeFrom rest' (i + 2)).map (UInt8.ofNat (hi * 16 + lo) :: ·)

/-- The position of the first character outside ASCII, if any. -/
def firstWide (cs : List Char) : Option Nat :=
  cs.findIdx? (fun c => 128 ≤ c.toNat)

/-- Reads a hexadecimal byte text. A character outside ASCII is refused first, wherever it
stands; otherwise the first misplaced character is named. -/
def decode (s : String) : Except Nat (List UInt8) :=
  match firstWide s.toList with
  | some i => .error i
  | none => decodeFrom s.toList 0

/-- The words of a refused hexadecimal text. -/
def errorText (position : Nat) : String :=
  s!"non-hexadecimal number found in fromhex() arg at position {position}"

theorem digitValue_digit : ∀ n, n < 16 → digitValue? (digit n) = some n := by
  decide

end DoipWire.Hex
