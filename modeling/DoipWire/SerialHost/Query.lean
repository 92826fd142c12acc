import DoipWire.Text.Glyph
import DoipWire.Text.Hex
import DoipWire.SerialHost.Utf8

/-!
# Form-encoded queries

The query of a URL is a list of fields separated by `&`; empty fields are skipped. A field is a
name and a value split at its first `=`, the value empty when there is none. In both, a plus
sign stands for a space, and then a percent sign with two hexadecimal digits stands for a byte;
the bytes of each stretch of ASCII text are read as UTF-8, while characters outside ASCII, lone
surrogates among them, stand for themselves. The fields of one name are gathered in order, names
in the order they first appear.
-/

namespace DoipWire.Query

/-- The bytes an ASCII stretch stands for: a percent sign with two hexadecimal digits is one
byte, any other character its own byte. -/
def unescape : List Char → List UInt8
  | [] => []
  | '%' :: h :: l :: rest =>
    match Hex.digitValue? h, Hex.digitValue? l with
    | some a, some b => UInt8.ofNat (a * 16 + b) :: unescape rest
    | _, _ => 37 :: unescape (h :: l :: rest)
  | c :: rest => UInt8.ofNat c.toNat :: unescape rest

/-- Decodes the percent escapes of a text, stretch of ASCII by stretch of ASCII. -/
def unquoteGlyphs (gs : List Glyph) : List Glyph :=
  (Utf8.decode (unescape ((gs.takeWhile Glyph.isAscii).map Glyph.toChar))).map .char ++
    match _h : gs.dropWhile Glyph.isAscii with
    | [] => []
    | g :: rest => g :: unquoteGlyphs rest
termination_by gs.length
decreasing_by
  have split := congrArg List.length
    (List.takeWhile_append_dropWhile (p := Glyph.isAscii) (l := gs))
  rw [_h, List.length_append, List.length_cons] at split
  omega

/-- A name or value of a field, decoded. -/
def decodePart (gs : List Glyph) : List Glyph :=
  unquoteGlyphs (gs.map fun g => if Glyph.is '+' g then .char ' ' else g)

/-- The fields of a query, decoded, in order; a field without `=` has an empty value. -/
def fields (query : List Glyph) : List (List Glyph × List Glyph) :=
  (Glyph.pieces '&' query).filterMap fun item =>
    if item.isEmpty then none
    else
      let (n, v) := Glyph.splitFirst '=' item
      some (decodePart n, decodePart (v.getD []))

/-- Adds a field to the values gathered so far. -/
def gather (acc : List (List Glyph × List (List Glyph))) (field : List Glyph × List Glyph) :
    List (List Glyph × List (List Glyph)) :=
  if acc.any (·.1 == field.1) then
    acc.map fun (n, vs) => if n == field.1 then (n, vs ++ [field.2]) else (n, vs)
  else acc ++ [(field.1, [field.2])]

/-- The values of each name of a query, names in the order they first appear. -/
def options (query : List Glyph) : List (List Glyph × List (List Glyph)) :=
  (fields query).foldl gather []

end DoipWire.Query
