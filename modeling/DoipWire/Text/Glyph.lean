/-!
# Glyphs

Text that arrives from outside, such as a string of an interchange format, is a sequence of code
points, and one of them may be a surrogate code point standing alone, which is no character. A
glyph is one such code point: a character, or a lone surrogate. Where a character string is
needed, a lone surrogate becomes the replacement character, which is neither a digit, a blank
nor part of any name, so it is refused wherever the surrogate would be; only the quoted form of a
text shows the surrogate itself.
-/

namespace DoipWire

/-- One code point of a text from outside: a character, or a surrogate code point that stands
alone. -/
inductive Glyph where
  | char (c : Char)
  | surrogate (code : Nat)
  deriving DecidableEq, Repr

namespace Glyph

/-- Whether a code point is a surrogate, `0xD800 .. 0xDFFF`. -/
def isSurrogate (n : Nat) : Bool := 0xD800 ≤ n && n < 0xE000

/-- The glyph of a code point below `0x110000`. -/
def ofCode (n : Nat) : Glyph := if isSurrogate n then surrogate n else char (Char.ofNat n)

/-- The code point of a glyph. -/
def code : Glyph → Nat
  | char c => c.toNat
  | surrogate n => n

/-- The character a glyph stands for in a character string: the replacement character for a
lone surrogate. -/
def toChar : Glyph → Char
  | char c => c
  | surrogate _ => Char.ofNat 0xFFFD

/-- The glyphs of a character string. -/
def ofString (s : String) : List Glyph := s.toList.map char

/-- A text of glyphs as a character string. -/
def toText (gs : List Glyph) : String := String.ofList (gs.map toChar)

/-- Whether a glyph is the character `c`. -/
def is (c : Char) (g : Glyph) : Bool := g == char c

/-- Whether a glyph is an ASCII character. -/
def isAscii (g : Glyph) : Bool := g.code < 128

/-- The glyphs before the first one that is `c`, and those after it, if there is one. -/
def splitFirst (c : Char) (gs : List Glyph) : List Glyph × Option (List Glyph) :=
  match gs.dropWhile (!is c ·) with
  | _ :: rest => (gs.takeWhile (!is c ·), some rest)
  | [] => (gs, none)

/-- The pieces of a text between the glyphs that are `c`; there is one more piece than there
are such glyphs. -/
def pieces (c : Char) : List Glyph → List (List Glyph)
  | [] => [[]]
  | g :: rest =>
    match pieces c rest with
    | [] => [[g]]
    | p :: ps => if is c g then [] :: p :: ps else (g :: p) :: ps

/-- The glyphs after the last one that is `c`, or all of them. -/
def afterLast (c : Char) (gs : List Glyph) : List Glyph :=
  (gs.reverse.takeWhile (!is c ·)).reverse

/-- Whether a text starts with the characters of `s`. -/
def startsWith (gs : List Glyph) (s : String) : Bool := (ofString s).isPrefixOf gs

/-- The pieces joined, with the characters of `sep` between two of them. -/
def joinWith (sep : String) : List (List Glyph) → List Glyph
  | [] => []
  | [p] => p
  | p :: ps => p ++ ofString sep ++ joinWith sep ps

theorem toText_ofString (s : String) : toText (ofString s) = s := by
  simp [toText, ofString, toChar, List.map_map, Function.comp_def]

theorem code_ofCode_char (c : Char) : (ofCode c.toNat).code = c.toNat := by
  have h := c.valid
  unfold ofCode isSurrogate
  split
  · rfl
  · simp [code]

end Glyph

end DoipWire
