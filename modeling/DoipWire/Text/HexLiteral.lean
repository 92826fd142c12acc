import DoipWire.Text.Hex

/-!
# Integers as hexadecimal literals

A literal is a minus sign for a negative value, the marker `0x`, then the lowercase digits of
the magnitude. A least width counts sign and marker too and is reached by zeros between the
marker and the digits, so `3` at width four is `0x03` and `-1` stays `-0x1`.
-/

namespace DoipWire.Hex

/-- The lowercase digits of a natural number, most significant first; zero has one digit. -/
def natDigits (n : Nat) : List Char :=
  Nat.toDigits 16 n

/-- The literal of `v`, padded with zeros after the marker up to `width` characters in all. -/
def literal (width : Nat) (v : Int) : String :=
  let sign := if v < 0 then "-" else ""
  let digits := natDigits v.natAbs
  let pad := width - (sign.length + 2 + digits.length)
  sign ++ "0x" ++ String.ofList (List.replicate pad '0' ++ digits)

end DoipWire.Hex
