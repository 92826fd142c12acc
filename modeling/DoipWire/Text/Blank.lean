/-!
# Blank characters

A character is blank when its bidirectional class is a separator or whitespace, or its general
category is a space separator: the ASCII controls from tab to carriage return and the four
information separators, the space, next line, and the spaces of the wider repertoire.
-/

namespace DoipWire.Unicode

/-- Whether a character is blank. -/
def isBlank (c : Char) : Bool :=
  let n := c.toNat
  (0x09 ≤ n ∧ n ≤ 0x0D) || (0x1C ≤ n ∧ n ≤ 0x20) || n = 0x85 || n = 0xA0 || n = 0x1680 ||
    (0x2000 ≤ n ∧ n ≤ 0x200A) || n = 0x2028 || n = 0x2029 || n = 0x202F || n = 0x205F ||
    n = 0x3000

theorem isBlank_of_isWhitespace (c : Char) (h : c.isWhitespace = true) : isBlank c = true := by
  simp only [Char.isWhitespace, Bool.or_eq_true, decide_eq_true_eq] at h
  simp only [isBlank]
  rcases h with ((h | h) | h) | h <;> subst h <;> decide

end DoipWire.Unicode
