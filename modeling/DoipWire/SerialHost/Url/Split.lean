import DoipWire.SerialHost.Url.Host

/-!
# Splitting URLs

Splitting first drops the controls and spaces that lead the text and every tab, carriage return
and line feed in it. A scheme is the text before the first colon when it starts with an ASCII
letter and holds only ASCII letters, digits, `+`, `-` and `.`; it is kept in lowercase. After a
scheme, or from the start, `//` opens the authority, which runs to the first `/`, `?` or `#`; its
brackets are checked at once. The fragment follows the first `#` of the rest, the query the
first `?` before it, and the path is what remains. Last, an authority outside ASCII is refused
when one of its characters has a compatibility form holding `/`, `?`, `#`, `@` or `:`.
-/

namespace DoipWire.Url

/-- The characters above ASCII whose compatibility form holds a delimiter of URLs: the double
question and exclamation marks, the account and care-of signs, the double colon equals, and the
small, vertical and full-width forms of the delimiters. -/
def delimiterForms : List Nat :=
  [0x2047, 0x2048, 0x2049, 0x2100, 0x2101, 0x2105, 0x2106, 0x2A74, 0xFE13, 0xFE16, 0xFE55, 0xFE56,
   0xFE5F, 0xFE6B, 0xFF03, 0xFF0F, 0xFF1A, 0xFF1F, 0xFF20]

/-- A character that may stand in a scheme. -/
def isSchemeChar (g : Glyph) : Bool :=
  match g with
  | .char c => c.toNat < 128 && (c.isAlphanum || c = '+' || c = '-' || c = '.')
  | .surrogate _ => false

/-- The text a URL is split from: leading controls and spaces dropped, and tabs and line breaks
removed everywhere. -/
def cleaned (s : List Glyph) : List Glyph :=
  (s.dropWhile (·.code ≤ 32)).filter fun g => !Glyph.is '\t' g && !Glyph.is '\r' g && !Glyph.is '\n' g

/-- The scheme and the rest of a cleaned text. -/
def splitScheme (gs : List Glyph) : List Glyph × List Glyph :=
  match Glyph.splitFirst ':' gs with
  | (name, some rest) =>
    let letterFirst := match name.head? with
      | some (.char c) => c.toNat < 128 && c.isAlpha
      | _ => false
    if letterFirst && name.all isSchemeChar then (name.map fun g => .char g.toChar.toLower, rest)
    else ([], gs)
  | (_, none) => ([], gs)

/-- Checks the characters of an authority. -/
def checkNormalized (authority : List Glyph) : Except UrlError Unit :=
  if authority.any fun g => delimiterForms.contains g.code then
    .error (.delimiterUnderNormalization authority)
  else .ok ()

/-- Splits a text into a URL. -/
def split (s : List Glyph) : Except UrlError Url := do
  let (scheme, rest) := splitScheme (cleaned s)
  let ends := fun (g : Glyph) => Glyph.is '/' g || Glyph.is '?' g || Glyph.is '#' g
  let (authority, rest) := match rest with
    | .char '/' :: .char '/' :: more => (more.takeWhile (!ends ·), more.dropWhile (!ends ·))
    | more => ([], more)
  let opens := authority.any (Glyph.is '[')
  let closes := authority.any (Glyph.is ']')
  if opens != closes then throw .misplacedBracket
  if opens then Host.checkBracketedAuthority authority
  let (beforeFragment, fragment) := Glyph.splitFirst '#' rest
  let (path, query) := Glyph.splitFirst '?' beforeFragment
  checkNormalized authority
  pure ⟨scheme, authority, path, query.getD [], fragment.getD []⟩

end DoipWire.Url
