import DoipWire.Text.Glyph
import DoipWire.Text.Hex
import DoipWire.Text.Printable

/-!
# Quoted text

A text is shown between single quotes, or between double quotes when it holds a single quote
and no double quote. Inside, the backslash and the chosen quote are escaped, tab, line feed and
carriage return take their letter escapes, and any other character that is not printable is
written by its code point: two hexadecimal digits below 256, four below 65536, eight above.
A lone surrogate is never printable, so it is written by its code point too.
-/

namespace DoipWire.Quoted

/-- The single quote. -/
def apostrophe : Char := Char.ofNat 39

/-- The quote character chosen for a text. -/
def quoteFor (cs : List Char) : Char :=
  if cs.contains apostrophe && !cs.contains '"' then '"' else apostrophe

/-- `n` as exactly `width` lowercase hexadecimal digits. -/
def fixedHex (width n : Nat) : List Char :=
  (List.range width).reverse.map (fun i => Hex.digit (n / Nat.pow 16 i % 16))

/-- How one character is written inside quotes `q`. -/
def escapeChar (q c : Char) : List Char :=
  if c = '\\' then ['\\', '\\']
  else if c = q then ['\\', q]
  else if c = '\t' then ['\\', 't']
  else if c = '\n' then ['\\', 'n']
  else if c = '\r' then ['\\', 'r']
  else if Unicode.isPrintable c then [c]
  else if c.toNat < 0x100 then '\\' :: 'x' :: fixedHex 2 c.toNat
  else if c.toNat < 0x10000 then '\\' :: 'u' :: fixedHex 4 c.toNat
  else '\\' :: 'U' :: fixedHex 8 c.toNat

/-- How one glyph is written inside quotes `q`. -/
def escapeGlyph (q : Char) : Glyph → List Char
  | .char c => escapeChar q c
  | .surrogate n => '\\' :: 'u' :: fixedHex 4 n

/-- The quoted form of a text that may hold lone surrogates. -/
def quoteGlyphs (gs : List Glyph) : String :=
  let q := quoteFor (gs.map Glyph.toChar)
  String.ofList (q :: gs.flatMap (escapeGlyph q) ++ [q])

/-- The quoted form of a text. -/
def quote (s : String) : String := quoteGlyphs (Glyph.ofString s)

end DoipWire.Quoted
