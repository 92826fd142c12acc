import DoipWire.Text.Numeral
import DoipWire.Text.Quoted

/-!
# Refused patterns

A pattern is refused for a fault of its spelling, reported with the position in the pattern
where the fault was seen (and, for a pattern of several lines, the line and column of that
position); for a fault found when the parsed pattern is compiled, without a position; for a
repetition count too large to be stored or with too many digits to be read; or for asking for
both ASCII and Unicode matching of the whole pattern.
-/

namespace DoipWire.Regex

/-- Why a pattern is refused. -/
inductive RegexError where
  /-- A fault of spelling: its words, the pattern, and the position of the fault. -/
  | spelling (words : List Glyph) (pattern : List Glyph) (position : Nat)
  /-- A fault of the parsed pattern found when it is compiled. -/
  | compile (words : String)
  /-- A repetition count of the greatest count or more. -/
  | countTooLarge
  /-- A repetition count with more digits than a numeral may have. -/
  | countDigits (count : Nat)
  /-- The whole pattern asks for both ASCII and Unicode matching. -/
  | incompatibleFlags
  deriving DecidableEq, Repr

/-- Where a position falls in a pattern of several lines: its line and its column, both counted
from one. -/
def lineAndColumn (pattern : List Glyph) (position : Nat) : Nat × Nat :=
  let before := pattern.take position
  let line := (before.filter (Glyph.is '\n')).length + 1
  let column := (before.reverse.takeWhile (!Glyph.is '\n' ·)).length + 1
  (line, column)

/-- The words of a refusal. -/
def RegexError.message : RegexError → List Glyph
  | .spelling words pattern position =>
    let placed := words ++ Glyph.ofString s!" at position {position}"
    if pattern.any (Glyph.is '\n') then
      let (line, column) := lineAndColumn pattern position
      placed ++ Glyph.ofString s!" (line {line}, column {column})"
    else placed
  | .compile words => Glyph.ofString words
  | .countTooLarge => Glyph.ofString "the repetition number is too large"
  | .countDigits count => Glyph.ofString (Numeral.limitWords count)
  | .incompatibleFlags => Glyph.ofString "ASCII and UNICODE flags are incompatible"

end DoipWire.Regex
