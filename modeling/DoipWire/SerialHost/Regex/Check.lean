import DoipWire.SerialHost.Regex.Scanner
import DoipWire.SerialHost.Regex.Alphabetic
import DoipWire.SerialHost.Regex.CharName
import DoipWire.SerialHost.Regex.Identifier

/-!
# Checking a pattern

A pattern is an alternation of sequences of items: characters, sets, positions, groups,
look-arounds, references to groups and conditional parts, each item perhaps repeated. Checking
reads it once, left to right, and refuses it at the first fault, as the pattern compiler does:

* a repeat sign must follow an item that is neither a position nor itself repeated;
* escapes must be known, numbers in them complete and in range, and references to groups must
  name closed groups;
* a set must be closed, and its ranges must run upwards between two characters;
* a group name must be an identifier given once, and flags may be set for the whole pattern only
  at its start;
* once read, the whole pattern must not ask for both ASCII and Unicode matching, no closing
  parenthesis may be left over, and every conditional reference by number must name a group.

Compiling the parsed pattern then refuses a look-behind whose width is not fixed or that looks
back too far, and any repeat when templates are asked for. To find these faults, reading keeps
for every part its least and greatest width, capped at `maxWidth`, and its first fault in the
order of compiling, which is the order of writing.
-/

namespace DoipWire.Regex

open Scan

/-- Repetition counts must stay below this; as an upper bound it stands for none. -/
def maxRepeat : Nat := 4294967295

/-- Group numbers must stay below this. -/
def maxGroups : Nat := 1073741823

/-- Widths are counted up to this bound. -/
def maxWidth : Nat := Nat.pow 2 64

/-- The greatest width a look-behind may look back over. -/
def maxLookBehind : Nat := 4294967295

/-- The flag of templates. -/
def templateFlag : Nat := 1

/-- The flag of locale-dependent matching. -/
def localeFlag : Nat := 4

/-- The flag of Unicode matching. -/
def unicodeFlag : Nat := 32

/-- The flag of verbose patterns, where blanks and comments are skipped. -/
def verboseFlag : Nat := 64

/-- The flag of debugging output. -/
def debugFlag : Nat := 128

/-- The flag of ASCII matching. -/
def asciiFlag : Nat := 256

/-- The flag of matching without regard to case, which every pattern here is checked with. -/
def ignoreCaseFlag : Nat := 2

/-- The flags that choose how characters are classed; at most one may be set. -/
def typeFlags : Nat := asciiFlag ||| localeFlag ||| unicodeFlag

/-- The flags that apply to the whole pattern only. -/
def globalFlags : Nat := debugFlag ||| templateFlag

/-- The flag a letter names in an inline group of flags. -/
def flagOf? : Char → Option Nat
  | 'i' => some ignoreCaseFlag
  | 'L' => some localeFlag
  | 'm' => some 8
  | 's' => some 16
  | 'x' => some verboseFlag
  | 'a' => some asciiFlag
  | 't' => some templateFlag
  | 'u' => some unicodeFlag
  | _ => none

/-- Whether `flags` has one of the flags `f`. -/
def hasFlag (flags f : Nat) : Bool := flags &&& f != 0

/-- The flag a token names, if it names one. -/
def Token.flag? (t : Token) : Option Nat := t.char?.bind flagOf?

/-- Whether a token is a letter. -/
def Token.isLetter : Token → Bool
  | .plain (.char c) => Unicode.isLetter c
  | _ => false

/-- What a repeat sign finds before it. -/
inductive Kind where
  /-- A position, such as the start of a line, which cannot be repeated. -/
  | position
  /-- An item already repeated. -/
  | repetition
  | other
  deriving DecidableEq, Repr

/-- A fault found when a parsed pattern is compiled. -/
inductive Fault where
  /-- A look-behind whose least width is more than it may look back over. -/
  | tooFarBehind
  /-- A look-behind whose least and greatest widths differ. -/
  | variableBehind
  /-- A repeat of the named kind, while templates are asked for. -/
  | templateRepeat (name : String)
  deriving DecidableEq, Repr

/-- The words of a compile fault. -/
def Fault.words : Fault → String
  | .tooFarBehind => "looks too much behind"
  | .variableBehind => "look-behind requires fixed-width pattern"
  | .templateRepeat name => s!"internal: unsupported template operator {name}"

/-- An item of a sequence: what a repeat sign finds in it, its least and greatest width, and its
first compile fault. -/
structure Item where
  kind : Kind
  lo : Nat
  hi : Nat
  fault : Option Fault
  deriving DecidableEq, Repr

/-- A part of a pattern, such as the body of a group: its least and greatest width, capped, and
its first compile fault. -/
structure Part where
  lo : Nat
  hi : Nat
  fault : Option Fault
  deriving DecidableEq, Repr

/-- The part a sequence of items makes. -/
def Part.ofItems (items : List Item) : Part :=
  ⟨min ((items.map (·.lo)).foldr (· + ·) 0) maxWidth,
    min ((items.map (·.hi)).foldr (· + ·) 0) maxWidth, items.findSome? (·.fault)⟩

/-- The part alternatives make: one alternative is itself; of several, the least width is the
least of theirs, the greatest the greatest. -/
def Part.ofAlternatives : List Part → Part
  | [p] => p
  | ps => ⟨ps.foldl (fun m p => min m p.lo) maxWidth, ps.foldl (fun m p => max m p.hi) 0,
      ps.findSome? (·.fault)⟩

/-- An item matching one character. -/
def Item.unit : Item := ⟨.other, 1, 1, none⟩

/-- An item matching a position. -/
def Item.position : Item := ⟨.position, 0, 0, none⟩

/-- An item made of a part, such as a group. -/
def Item.ofPart (p : Part) : Item := ⟨.other, p.lo, p.hi, p.fault⟩

/-- An item repeated from `least` to `most` times (`maxRepeat` for no bound), by a repeat of
kind `name`. -/
def Item.repeated (body : Item) (least most : Nat) (name : String) (template : Bool) : Item :=
  let lo := min body.lo maxWidth
  let hi := min body.hi maxWidth
  ⟨.repetition, lo * least, if most = maxRepeat && hi != 0 then maxWidth else hi * most,
    if template then some (.templateRepeat name) else body.fault⟩

/-- A look-behind of a part: its compile faults come before those of the part. -/
def Item.lookBehind (p : Part) : Item :=
  let own := if maxLookBehind < p.lo then some Fault.tooFarBehind
    else if p.lo != p.hi then some .variableBehind else none
  ⟨.other, 0, 0, own.orElse fun _ => p.fault⟩

/-- A conditional part: the first part when a group matched, the other (or nothing) when not. -/
def Item.conditional (yes : Part) (no : Option Part) : Item :=
  match no with
  | some n => ⟨.other, min yes.lo n.lo, max yes.hi n.hi, yes.fault.orElse fun _ => n.fault⟩
  | none => ⟨.other, 0, yes.hi, yes.fault⟩

/-- Whether a character is a digit of base `b` (at most ten). -/
def isDigitOf (b : Nat) (c : Char) : Bool := '0' ≤ c && c.toNat < 48 + b

/-- Whether a character is a hexadecimal digit. -/
def isHexDigit (c : Char) : Bool :=
  c.isDigit || ('a' ≤ c && c ≤ 'f') || ('A' ≤ c && c ≤ 'F')

/-- The value of digits of base `b`. -/
def digitsValue (b : Nat) (cs : List Char) : Nat :=
  cs.foldl (fun n c => n * b + (if c.isDigit then c.toNat - 48 else c.toLower.toNat - 87)) 0

/-- Whether a character is an ASCII letter. -/
def isAsciiLetter (c : Char) : Bool := c.toNat < 128 && c.isAlpha

/-- The code point of an escape that gives one by number or by name (`x`, `u`, `U`, `N`), read
after the backslash and `c`; none, reading nothing, for another escape. -/
def codeEscape (c : Char) : Scan (Option Nat) := do
  let hex := fun (letter : Char) (count : Nat) => do
    let ds ← takeChars isHexDigit count
    if ds.length != count then
      fail (Glyph.ofString ("incomplete escape \\" ++ String.ofList (letter :: ds))) (ds.length + 2)
    pure ds
  match c with
  | 'x' => pure (some (digitsValue 16 (← hex 'x' 2)))
  | 'u' => pure (some (digitsValue 16 (← hex 'u' 4)))
  | 'U' =>
    let ds ← hex 'U' 8
    let n := digitsValue 16 ds
    -- past the last code point there is no character
    if 0x10FFFF < n then failWith ("bad escape \\" ++ String.ofList ('U' :: ds)) 10
    pure (some n)
  | 'N' =>
    if !(← accept '{') then failWith "missing \x7b" 0
    let name ← takeName '}' "character name"
    -- a name with a lone surrogate cannot even be looked up
    if name.any fun g => match g with | .surrogate _ => true | .char _ => false then
      failWith "bad escape \\N" 2
    match Unicode.lookupName (Glyph.toText name) with
    | some n => pure (some n)
    | none =>
      failWith s!"undefined character name {Quoted.quoteGlyphs name}" (name.length + 4)
  | _ => pure none

/-- The item an escape stands for in a sequence, read after the backslash and the glyph `g`. -/
def escapeItem (g : Glyph) : Scan Item := do
  match g with
  | .surrogate _ => pure Item.unit
  | .char c =>
    if "AbBZ".contains c then pure Item.position
    else if "dDsSwWafnrtv\\".contains c then pure Item.unit
    else match ← codeEscape c with
    | some _ => pure Item.unit
    | none =>
      if c = '0' then
        let _ ← takeChars (isDigitOf 8) 2
        pure Item.unit
      else if isDigitOf 10 c then
        -- an octal escape of three digits, or a reference to a group
        let second ← match (← peek).bind Token.char? with
          | some d => if d.isDigit then do advance; pure (some d) else pure none
          | none => pure none
        match second with
        | some d =>
          let third ← match (← peek).bind Token.char? with
            | some e =>
              if isDigitOf 8 c && isDigitOf 8 d && isDigitOf 8 e then do advance; pure (some e)
              else pure none
            | none => pure none
          match third with
          | some e =>
            let ds := [c, d, e]
            if 0o377 < digitsValue 8 ds then
              failWith s!"octal escape value \\{String.ofList ds} outside of range 0-0o377" 4
            pure Item.unit
          | none => groupReference [c, d]
        | none => groupReference [c]
      else if isAsciiLetter c then failWith ("bad escape \\" ++ String.singleton c) 2
      else pure Item.unit
where
  /-- A reference to the group numbered by `ds`. -/
  groupReference (ds : List Char) : Scan Item := do
    let gid := digitsValue 10 ds
    if gid < (← groupCount) then
      match ← closedWidths gid with
      | none => failWith "cannot refer to an open group" (ds.length + 1)
      | some (lo, hi) =>
        checkLookbehind gid
        pure ⟨.other, lo, hi, none⟩
    else failWith s!"invalid group reference {gid}" ds.length

/-- What a member of a set stands for: a character, or a category such as the digits. -/
inductive Member where
  | char (code : Nat)
  | category

/-- The member an escape stands for in a set, read after the backslash and the glyph `g`. -/
def memberEscape (g : Glyph) : Scan Member := do
  match g with
  | .surrogate n => pure (.char n)
  | .char c =>
    match c with
    | 'a' => pure (.char 7)
    | 'b' => pure (.char 8)
    | 'f' => pure (.char 12)
    | 'n' => pure (.char 10)
    | 'r' => pure (.char 13)
    | 't' => pure (.char 9)
    | 'v' => pure (.char 11)
    | '\\' => pure (.char 92)
    | _ =>
      if "dDsSwW".contains c then pure .category
      else match ← codeEscape c with
      | some n => pure (.char n)
      | none =>
        if isDigitOf 8 c then
          let ds := c :: (← takeChars (isDigitOf 8) 2)
          let n := digitsValue 8 ds
          if 0o377 < n then
            failWith s!"octal escape value \\{String.ofList ds} outside of range 0-0o377" (ds.length + 1)
          pure (.char n)
        else if c.isDigit || isAsciiLetter c then failWith ("bad escape \\" ++ String.singleton c) 2
        else pure (.char c.toNat)

/-- The member a token stands for in a set. -/
def member (t : Token) : Scan Member :=
  match t with
  | .escaped g => memberEscape g
  | .plain g => pure (.char g.code)

/-- Reads the members of a set after its opening bracket at `here`, `count` of them read so
far, at most `fuel` of them. -/
def setMembers (here : Nat) : Nat → Nat → Scan Unit
  | 0, _ => pure ()
  | fuel + 1, count => do
    let unterminated := fun (_ : Unit) => do
      failWith "unterminated character set" ((← tell) - here)
    match ← take with
    | none => unterminated ()
    | some this =>
      if this.isChar ']' && count != 0 then pure ()
      else
        let first ← member this
        if ← accept '-' then
          match ← take with
          | none => unterminated ()
          | some that =>
            if that.isChar ']' then pure ()
            else
              let second ← member that
              let bad := fun (_ : Unit) =>
                fail (Glyph.ofString "bad character range " ++ this.glyphs ++ [.char '-'] ++ that.glyphs)
                  (this.length + 1 + that.length)
              match first, second with
              | .char lo, .char hi =>
                if hi < lo then bad () else setMembers here fuel (count + 1)
              | _, _ => bad ()
        else setMembers here fuel (count + 1)

/-- Reads a set after its opening bracket. -/
def readSet : Scan Item := do
  let here := (← tell) - 1
  let _ ← accept '^'
  setMembers here ((← get).pattern.size + 1) 0
  pure Item.unit

/-- Reads a repetition count of digits. -/
def count (ds : List Char) : Scan Nat := do
  if Numeral.maxDecimalDigits < ds.length then throw (.countDigits ds.length)
  let n := digitsValue 10 ds
  if maxRepeat ≤ n then throw .countTooLarge
  pure n

/-- Reads the bounds of a repeat sign `sign` read just before `here`: none when a brace does not
start a count and stands for itself. -/
def bounds (sign : Char) (here : Nat) : Scan (Option (Nat × Nat)) := do
  match sign with
  | '?' => pure (some (0, 1))
  | '*' => pure (some (0, maxRepeat))
  | '+' => pure (some (1, maxRepeat))
  | _ =>
    if ← nextIs '}' then pure none
    else
      let size := (← get).pattern.size
      let lo ← takeChars Char.isDigit size
      let hi ← if ← accept ',' then takeChars Char.isDigit size else pure lo
      if !(← accept '}') then
        seek here
        pure none
      else
        let least ← if lo.isEmpty then pure 0 else count lo
        if hi.isEmpty then pure (some (least, maxRepeat))
        else
          let most ← count hi
          if most < least then failWith "min repeat greater than max repeat" ((← tell) - here)
          pure (some (least, most))

/-- Applies the repeat sign `sign`, read just before `here`, to the last of `items` (the last
first), or reads a brace that stands for itself. -/
def readRepeat (sign : Char) (here : Nat) (items : List Item) : Scan (List Item) := do
  match ← bounds sign here with
  | none => pure (Item.unit :: items)
  | some (least, most) =>
    let offset := (← tell) - here + 1
    match items with
    | [] => failWith "nothing to repeat" offset
    | last :: rest =>
      if last.kind = .position then failWith "nothing to repeat" offset
      if last.kind = .repetition then failWith "multiple repeat" offset
      let lazy ← accept '?'
      let possessive ← if lazy then pure false else accept '+'
      let name := if lazy then "MIN_REPEAT" else if possessive then "POSSESSIVE_REPEAT" else "MAX_REPEAT"
      let template := hasFlag (← get).flags templateFlag
      pure (last.repeated least most name template :: rest)

/-- Refuses a group name that is not an identifier. -/
def checkGroupName (name : List Glyph) : Scan Unit := do
  if !Unicode.isIdentifier name then
    failWith s!"bad character in group name {Quoted.quoteGlyphs name}" (name.length + 1)

/-- Reads flags after `(?`, the first of them `first`: none for flags of the whole pattern,
which end with `)`, or the flags a group turns on and off, which end with `:`. -/
def readFlags (first : Token) : Scan (Option (Nat × Nat)) := do
  let fuel := (← get).pattern.size + 1
  let (added, last) ← if first.isChar '-' then pure (0, first) else addFlags fuel 0 first
  if last.isChar ')' then
    modify fun s => { s with flags := s.flags ||| added }
    return none
  if hasFlag added globalFlags then failWith "bad inline flags: cannot turn on global flag" 1
  let removed ← if last.isChar '-' then
      match ← take with
      | none => failWith "missing flag" 0
      | some t =>
        if t.flag?.isNone then failWith (if t.isLetter then "unknown flag" else "missing flag") t.length
        removeFlags fuel 0 t
    else pure 0
  if hasFlag removed globalFlags then failWith "bad inline flags: cannot turn off global flag" 1
  if added &&& removed != 0 then failWith "bad inline flags: flag turned on and off" 1
  pure (some (added, removed))
where
  /-- Turns on the flag of `t` and those after it, up to `)`, `-` or `:`. -/
  addFlags : Nat → Nat → Token → Scan (Nat × Token)
    | 0, added, t => pure (added, t)
    | fuel + 1, added, t => do
      let flag := t.flag?.getD 0
      if t.isChar 'L' then failWith "bad inline flags: cannot use 'L' flag with a str pattern" 0
      let added := added ||| flag
      if hasFlag flag typeFlags && added &&& typeFlags != flag then
        failWith "bad inline flags: flags 'a', 'u' and 'L' are incompatible" 0
      match ← take with
      | none => failWith "missing -, : or )" 0
      | some t =>
        if t.isChar ')' || t.isChar '-' || t.isChar ':' then pure (added, t)
        else if t.flag?.isNone then
          failWith (if t.isLetter then "unknown flag" else "missing -, : or )") t.length
        else addFlags fuel added t
  /-- Turns off the flag of `t` and those after it, up to `:`. -/
  removeFlags : Nat → Nat → Token → Scan Nat
    | 0, removed, _ => pure removed
    | fuel + 1, removed, t => do
      let flag := t.flag?.getD 0
      if hasFlag flag typeFlags then
        failWith "bad inline flags: cannot turn off flags 'a', 'u' and 'L'" 0
      let removed := removed ||| flag
      match ← take with
      | none => failWith "missing :" 0
      | some t =>
        if t.isChar ':' then pure removed
        else if t.flag?.isNone then
          failWith (if t.isLetter then "unknown flag" else "missing :") t.length
        else removeFlags fuel removed t

/-- How the parts nested in a sequence are read, one level deeper: an alternation, as in a
group, or a single sequence, as in a branch of a conditional part; each with the verbose
setting. -/
structure Nested where
  alternation : Bool → Scan Part
  sequence : Bool → Scan (List Item)

/-- What reading after an opening parenthesis gives: an item, nothing (a comment), or flags for
the whole pattern. -/
inductive Opened where
  | item (i : Item)
  | comment
  | globalFlags

/-- Reads a conditional part after `(?(`, the group opened at `start`. -/
def readConditional (inner : Nested) (verbose : Bool) (start : Nat) : Scan Item := do
  let name ← takeName ')' "group name"
  let gid ← if Unicode.isIdentifier name then
      match ← groupNamed name with
      | some gid => pure gid
      | none => failWith s!"unknown group name {Quoted.quoteGlyphs name}" (name.length + 1)
    else
      let bad := fun (_ : Unit) =>
        failWith s!"bad character in group name {Quoted.quoteGlyphs name}" (name.length + 1)
      let n ← match Numeral.parse .decimal (Glyph.toText name) with
        | .ok n => if n < 0 then bad () else pure n.toNat
        | .error _ => bad ()
      if n = 0 then failWith "bad group number" (name.length + 1)
      if maxGroups ≤ n then failWith s!"invalid group reference {n}" (name.length + 1)
      noteReference n ((← tell) - name.length - 1)
      pure n
  checkLookbehind gid
  let yes ← inner.sequence verbose
  let no ← if ← accept '|' then do
      let no ← inner.sequence verbose
      if ← nextIs '|' then failWith "conditional backref with more than two branches" 0
      pure (some (Part.ofItems no.reverse))
    else pure none
  if !(← accept ')') then failWith "missing ), unterminated subpattern" ((← tell) - start)
  pure (Item.conditional (Part.ofItems yes.reverse) no)

/-- Reads a look-around after `(?` and its sign (`=` or `!` ahead, `<` behind), the group
opened at `start`. -/
def readLook (inner : Nested) (verbose : Bool) (start : Nat) (behind : Bool) : Scan Item := do
  let outer := (← get).groups.lookbehindFrom
  if behind then
    match ← take with
    | none => failWith "unexpected end of pattern" 0
    | some t =>
      if !(t.isChar '=' || t.isChar '!') then
        fail (Glyph.ofString "unknown extension ?<" ++ t.glyphs) (t.length + 2)
    if outer.isNone then
      let opened ← groupCount
      modify fun s => { s with groups := { s.groups with lookbehindFrom := some opened } }
  let p ← inner.alternation verbose
  if behind && outer.isNone then
    modify fun s => { s with groups := { s.groups with lookbehindFrom := none } }
  if !(← accept ')') then failWith "missing ), unterminated subpattern" ((← tell) - start)
  pure (if behind then Item.lookBehind p else Item.ofPart p)

/-- Skips a comment after `(?#`, the group opened at `start`, up to its closing parenthesis. -/
def skipComment (start : Nat) : Nat → Scan Unit
  | 0 => pure ()
  | fuel + 1 => do
    if (← peek).isNone then failWith "missing ), unterminated comment" ((← tell) - start)
    match ← take with
    | some t => if t.isChar ')' then pure () else skipComment start fuel
    | none => pure ()

/-- Reads what follows an opening parenthesis, read just before the position `start + 1`; `first`
when flags for the whole pattern may still be set. -/
def readGroup (inner : Nested) (verbose first : Bool) (start : Nat) (sequenceEmpty : Bool) :
    Scan Opened := do
  let mut capture := true
  let mut name : Option (List Glyph) := none
  let mut added := 0
  let mut removed := 0
  if ← accept '?' then
    match ← take with
    | none => failWith "unexpected end of pattern" 0
    | some t =>
      if t.isChar 'P' then
        if ← accept '<' then
          let n ← takeName '>' "group name"
          checkGroupName n
          name := some n
        else if ← accept '=' then
          let n ← takeName ')' "group name"
          checkGroupName n
          match ← groupNamed n with
          | none => failWith s!"unknown group name {Quoted.quoteGlyphs n}" (n.length + 1)
          | some gid =>
            match ← closedWidths gid with
            | none => failWith "cannot refer to an open group" (n.length + 1)
            | some (lo, hi) =>
              checkLookbehind gid
              return .item ⟨.other, lo, hi, none⟩
        else
          match ← take with
          | none => failWith "unexpected end of pattern" 0
          | some u => fail (Glyph.ofString "unknown extension ?P" ++ u.glyphs) (u.length + 2)
      else if t.isChar ':' then capture := false
      else if t.isChar '#' then
        skipComment start ((← get).pattern.size + 1)
        return .comment
      else if t.isChar '=' || t.isChar '!' then return .item (← readLook inner verbose start false)
      else if t.isChar '<' then return .item (← readLook inner verbose start true)
      else if t.isChar '(' then return .item (← readConditional inner verbose start)
      else if t.isChar '>' then capture := false
      else if t.flag?.isSome || t.isChar '-' then
        match ← readFlags t with
        | none =>
          if !first || !sequenceEmpty then
            failWith "global flags not at the start of the expression" ((← tell) - start)
          return .globalFlags
        | some (a, r) =>
          added := a
          removed := r
          capture := false
      else fail (Glyph.ofString "unknown extension ?" ++ t.glyphs) (t.length + 1)
  let gid ← if capture then some <$> openGroup name else pure none
  let subVerbose := (verbose || hasFlag added verboseFlag) && !hasFlag removed verboseFlag
  let p ← inner.alternation subVerbose
  if !(← accept ')') then failWith "missing ), unterminated subpattern" ((← tell) - start)
  if let some g := gid then closeGroup g (p.lo, p.hi)
  pure (.item (Item.ofPart p))

/-- The characters skipped between items of a verbose pattern. -/
def isVerboseBlank (c : Char) : Bool :=
  c = ' ' || c = '\t' || c = '\n' || c = '\r' || c.toNat = 11 || c.toNat = 12

/-- Skips a comment of a verbose pattern up to the end of its line. -/
def skipLine : Nat → Scan Unit
  | 0 => pure ()
  | fuel + 1 => do
    match ← take with
    | none => pure ()
    | some t => if t.isChar '\n' then pure () else skipLine fuel

/-- Reads the items of a sequence up to `|`, `)` or the end, after `items` (the last first), at
most `fuel` of them; `first` when flags for the whole pattern may still be set. -/
def sequence (inner : Nested) : Nat → Bool → Bool → List Item → Scan (List Item)
  | 0, _, _, items => pure items
  | fuel + 1, verbose, first, items => do
    match ← peek with
    | none => pure items
    | some this =>
      if this.isChar '|' || this.isChar ')' then return items
      advance
      match this with
      | .escaped g => sequence inner fuel verbose first ((← escapeItem g) :: items)
      | .plain (.surrogate _) => sequence inner fuel verbose first (Item.unit :: items)
      | .plain (.char c) =>
        if verbose && isVerboseBlank c then sequence inner fuel verbose first items
        else if verbose && c = '#' then
          skipLine ((← get).pattern.size + 1)
          sequence inner fuel verbose first items
        else if c = '[' then sequence inner fuel verbose first ((← readSet) :: items)
        else if c = '*' || c = '+' || c = '?' || c = '{' then
          let items ← readRepeat c (← tell) items
          sequence inner fuel verbose first items
        else if c = '(' then
          match ← readGroup inner verbose first ((← tell) - 1) items.isEmpty with
          | .item i => sequence inner fuel verbose first (i :: items)
          | .comment => sequence inner fuel verbose first items
          | .globalFlags =>
            let verbose := hasFlag (← get).flags verboseFlag
            sequence inner fuel verbose first items
        else if c = '^' || c = '$' then sequence inner fuel verbose first (Item.position :: items)
        else sequence inner fuel verbose first (Item.unit :: items)

/-- Reads the alternatives of an alternation, after `parts`, at most `fuel` of them; `top` for
the whole pattern, whose first alternative may start with flags for the whole pattern and whose
verbose setting follows those flags. -/
def alternation (inner : Nested) (top : Bool) : Nat → Bool → List Part → Scan Part
  | 0, _, parts => pure (Part.ofAlternatives parts)
  | fuel + 1, verbose, parts => do
    let size := (← get).pattern.size
    let items ← sequence inner (size + 1) verbose (top && parts.isEmpty) []
    let parts := parts ++ [Part.ofItems items.reverse]
    if ← accept '|' then
      let flags := (← get).flags
      let verbose := if top then hasFlag flags verboseFlag else verbose
      alternation inner top fuel verbose parts
    else pure (Part.ofAlternatives parts)

/-- The readers of nested parts, for at most `depth` levels of nesting. -/
def nestedAt : Nat → Nested
  | 0 => ⟨fun _ => pure ⟨0, 0, none⟩, fun _ => pure []⟩
  | depth + 1 =>
    let inner := nestedAt depth
    ⟨fun verbose => do alternation inner false ((← get).pattern.size + 1) verbose [],
     fun verbose => do sequence inner ((← get).pattern.size + 1) verbose false []⟩

/-- Checks a pattern read with the flags `flags`. -/
def check (pattern : List Glyph) (flags : Nat) : Except RegexError Unit := do
  let size := pattern.length
  let read : Scan Part := do
    advance
    let p ← alternation (nestedAt (size + 1)) true (size + 1) (hasFlag flags verboseFlag) []
    let s ← get
    if hasFlag s.flags asciiFlag && hasFlag s.flags unicodeFlag then throw .incompatibleFlags
    if s.next.isSome then failWith "unbalanced parenthesis" 0
    match s.groups.references.find? (·.1 ≥ s.groups.widths.size) with
    | some (gid, position) =>
      throw (.spelling (Glyph.ofString s!"invalid group reference {gid}") pattern position)
    | none => pure p
  let start : Scanner := ⟨pattern.toArray, 0, none, flags, ⟨#[none], [], none, []⟩⟩
  let (p, _) ← read.run start
  match p.fault with
  | some f => throw (.compile f.words)
  | none => pure ()

end DoipWire.Regex
