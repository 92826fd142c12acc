import DoipWire.SerialHost.Regex.Error

/-!
# Reading a pattern

A pattern is read token by token: a backslash and the glyph after it form one token, and any
other glyph is a token of its own; a backslash that ends the pattern is refused as soon as the
reader comes to it. The reader always holds the next token, so the position it tells is where
that token starts, and a fault is reported at that position less an offset that points back to
where the faulty text began.

Beside its place in the pattern, the reader keeps the flags of the whole pattern and what it has
learned of the groups: the width of each closed group, the names given to groups, how many groups
were opened before the look-behind being read, and the conditional references by number, which
are checked once the whole pattern is read.
-/

namespace DoipWire.Regex

/-- A token of a pattern: one glyph, or a backslash and the glyph after it. -/
inductive Token where
  | plain (g : Glyph)
  | escaped (g : Glyph)
  deriving DecidableEq, Repr

namespace Token

/-- The number of glyphs of a token. -/
def length : Token → Nat
  | plain _ => 1
  | escaped _ => 2

/-- The glyphs of a token as written. -/
def glyphs : Token → List Glyph
  | plain g => [g]
  | escaped g => [.char '\\', g]

/-- Whether a token is the plain character `c`. -/
def isChar (c : Char) : Token → Bool
  | plain g => Glyph.is c g
  | escaped _ => false

/-- The character of a plain token. -/
def char? : Token → Option Char
  | plain (.char c) => some c
  | _ => none

end Token

/-- What is known of the groups of a pattern while it is read. -/
structure Groups where
  /-- The least and greatest width of each group, none while it is open; the first entry
  stands for the whole pattern, which is never closed. -/
  widths : Array (Option (Nat × Nat))
  /-- The names given to groups, with their numbers. -/
  names : List (List Glyph × Nat)
  /-- Inside a look-behind, the number of groups opened before it. -/
  lookbehindFrom : Option Nat
  /-- Conditional references by number, each with the position it was written at, in the order
  they were first written. -/
  references : List (Nat × Nat)

/-- The state of reading a pattern. -/
structure Scanner where
  pattern : Array Glyph
  /-- The position after the next token. -/
  index : Nat
  next : Option Token
  flags : Nat
  groups : Groups

/-- A step of reading a pattern, which may refuse it. -/
abbrev Scan := StateT Scanner (Except RegexError)

namespace Scan

/-- Refuses the pattern for a fault seen `offset` glyphs before the next token. -/
def fail {α : Type} (words : List Glyph) (offset : Nat) : Scan α := do
  let s ← get
  let position := s.index - (s.next.map Token.length).getD 0 - offset
  throw (.spelling words s.pattern.toList position)

/-- Refuses the pattern with words of plain text. -/
def failWith {α : Type} (words : String) (offset : Nat) : Scan α := fail (Glyph.ofString words) offset

/-- Reads the token at the index as the next token. -/
def advance : Scan Unit := do
  let s ← get
  match s.pattern[s.index]? with
  | none => set { s with next := none }
  | some g =>
    if Glyph.is '\\' g then
      match s.pattern[s.index + 1]? with
      | some h => set { s with index := s.index + 2, next := some (.escaped h) }
      | none =>
        throw (.spelling (Glyph.ofString "bad escape (end of pattern)") s.pattern.toList
          (s.pattern.size - 1))
    else set { s with index := s.index + 1, next := some (.plain g) }

/-- The next token, left unread. -/
def peek : Scan (Option Token) := do pure (← get).next

/-- Whether the next token is the plain character `c`. -/
def nextIs (c : Char) : Scan Bool := do pure (((← peek).map (Token.isChar c)).getD false)

/-- Reads the next token. -/
def take : Scan (Option Token) := do
  let t ← peek
  advance
  pure t

/-- Reads the next token if it is the plain character `c`. -/
def accept (c : Char) : Scan Bool := do
  if ← nextIs c then
    advance
    pure true
  else pure false

/-- The position of the next token. -/
def tell : Scan Nat := do
  let s ← get
  pure (s.index - (s.next.map Token.length).getD 0)

/-- Goes back or on to a position. -/
def seek (i : Nat) : Scan Unit := do
  modify fun s => { s with index := i }
  advance

/-- Reads at most `n` plain characters that satisfy `p`. -/
def takeChars (p : Char → Bool) : Nat → Scan (List Char)
  | 0 => pure []
  | n + 1 => do
    match (← peek).bind Token.char? with
    | some c =>
      if p c then
        advance
        pure (c :: (← takeChars p n))
      else pure []
    | none => pure []

/-- Reads the glyphs up to the plain character `terminator`, which is read too, after `acc`;
`what` names what is read, for the refusals of an empty or unterminated text. -/
def takeUntil (terminator : Char) (what : String) : Nat → List Glyph → Scan (List Glyph)
  | 0, acc => pure acc
  | fuel + 1, acc => do
    match ← take with
    | none =>
      if acc.isEmpty then failWith ("missing " ++ what) 0
      else failWith s!"missing {terminator}, unterminated name" acc.length
    | some t =>
      if t.isChar terminator then
        if acc.isEmpty then failWith ("missing " ++ what) 1 else pure acc
      else takeUntil terminator what fuel (acc ++ t.glyphs)

/-- Reads a name up to `terminator`. -/
def takeName (terminator : Char) (what : String) : Scan (List Glyph) := do
  takeUntil terminator what ((← get).pattern.size + 1) []

/-- The number of groups opened so far, the whole pattern counted. -/
def groupCount : Scan Nat := do pure (← get).groups.widths.size

/-- The widths of a closed group. -/
def closedWidths (gid : Nat) : Scan (Option (Nat × Nat)) := do
  pure ((← get).groups.widths[gid]?).join

/-- Inside a look-behind, refuses a reference to a group that is open or that was opened in the
same look-behind. -/
def checkLookbehind (gid : Nat) : Scan Unit := do
  match (← get).groups.lookbehindFrom with
  | none => pure ()
  | some first =>
    if (← closedWidths gid).isNone then failWith "cannot refer to an open group" 0
    if first ≤ gid then failWith "cannot refer to group defined in the same lookbehind subpattern" 0

/-- Opens a group, with a name or not, and gives its number; a name may be given only once. -/
def openGroup (name : Option (List Glyph)) : Scan Nat := do
  let s ← get
  let gid := s.groups.widths.size
  match name with
  | some n =>
    match (s.groups.names.find? (·.1 == n)).map (·.2) with
    | some old =>
      failWith s!"redefinition of group name {Quoted.quoteGlyphs n} as group {gid}; was group {old}"
        (n.length + 1)
    | none =>
      set { s with groups := { s.groups with widths := s.groups.widths.push none,
                                             names := s.groups.names ++ [(n, gid)] } }
  | none => set { s with groups := { s.groups with widths := s.groups.widths.push none } }
  pure gid

/-- Closes a group with its widths. -/
def closeGroup (gid : Nat) (widths : Nat × Nat) : Scan Unit :=
  modify fun s => { s with groups := { s.groups with widths := s.groups.widths.set! gid (some widths) } }

/-- The number of the group of a name. -/
def groupNamed (name : List Glyph) : Scan (Option Nat) := do
  pure (((← get).groups.names.find? (·.1 == name)).map (·.2))

/-- Notes a conditional reference by number at a position, unless one was noted before. -/
def noteReference (gid position : Nat) : Scan Unit :=
  modify fun s =>
    if s.groups.references.any (·.1 == gid) then s
    else { s with groups := { s.groups with references := s.groups.references ++ [(gid, position)] } }

end Scan

end DoipWire.Regex
