/-!
# Decoding UTF-8

Bytes are read as UTF-8. A sequence that is not well formed is replaced by one U+FFFD for each
maximal part of it that could begin a well-formed sequence: a lead byte with the continuation
bytes that still fit it. The byte after such a part is read afresh, so no byte is lost and no
byte is read twice.
-/

namespace DoipWire.Utf8

/-- The character written for bytes that are not well formed. -/
def replacement : Char := Char.ofNat 0xFFFD

/-- What a byte of 0xC2 and up begins: how many continuation bytes follow it and the range the
first of them must fall in; none for a byte that begins no sequence. -/
def lead (b : UInt8) : Option (Nat × UInt8 × UInt8) :=
  if b < 0xC2 then none
  else if b ≤ 0xDF then some (1, 0x80, 0xBF)
  else if b = 0xE0 then some (2, 0xA0, 0xBF)
  else if b = 0xED then some (2, 0x80, 0x9F)
  else if b ≤ 0xEF then some (2, 0x80, 0xBF)
  else if b = 0xF0 then some (3, 0x90, 0xBF)
  else if b ≤ 0xF3 then some (3, 0x80, 0xBF)
  else if b = 0xF4 then some (3, 0x80, 0x8F)
  else none

/-- How many of at most `n` bytes continue a sequence: the first within `lo..hi`, the others
within `0x80..0xBF`. -/
def continuing (n : Nat) (lo hi : UInt8) : List UInt8 → Nat
  | [] => 0
  | c :: rest =>
    match n with
    | 0 => 0
    | n + 1 => if lo ≤ c ∧ c ≤ hi then continuing n 0x80 0xBF rest + 1 else 0

theorem continuing_le (n : Nat) (lo hi : UInt8) (bs : List UInt8) : continuing n lo hi bs ≤ n := by
  induction bs generalizing n lo hi with
  | nil => simp [continuing]
  | cons c rest ih =>
    cases n with
    | zero => simp [continuing]
    | succ n =>
      simp only [continuing]
      split
      · have := ih n 0x80 0xBF
        omega
      · omega

/-- The code point of a lead byte followed by `n` continuation bytes. -/
def codePoint (b : UInt8) (n : Nat) (continuation : List UInt8) : Nat :=
  continuation.foldl (fun cp c => cp * 64 + c.toNat % 64) (b.toNat % Nat.pow 2 (6 - n))

/-- The characters of a byte string. -/
def decode (bs : List UInt8) : List Char :=
  match bs with
  | [] => []
  | b :: rest =>
    if b < 0x80 then Char.ofNat b.toNat :: decode rest
    else
      match lead b with
      | none => replacement :: decode rest
      | some (n, lo, hi) =>
        let k := continuing n lo hi rest
        if k = n then Char.ofNat (codePoint b n (rest.take n)) :: decode (rest.drop n)
        else replacement :: decode (rest.drop k)
termination_by bs.length
decreasing_by
  all_goals simp only [List.length_cons, List.length_drop]
  all_goals omega

end DoipWire.Utf8
