import DoipWire.Text.Quoted

/-!
# URLs

A URL splits into a scheme, an authority (the part after `//` naming the host), a path, a query
and a fragment. Splitting refuses an authority whose brackets are out of place, a host between
brackets that is no IPv6 address or future address form, and an authority with characters whose
compatibility form holds a delimiter of URLs.
-/

namespace DoipWire

/-- The parts of a URL, each without its delimiters. -/
structure Url where
  scheme : List Glyph
  authority : List Glyph
  path : List Glyph
  query : List Glyph
  fragment : List Glyph
  deriving DecidableEq, Repr

/-- Why a text cannot be split into a URL. -/
inductive UrlError where
  /-- A bracket of the authority without its partner, or with text before the opening one or
  after the closing one other than a port. -/
  | misplacedBracket
  /-- A bracketed host of the future address form that is not spelled as one. -/
  | futureAddress
  /-- An IPv4 address between brackets. -/
  | bracketedIpv4
  /-- A bracketed host that is no address. -/
  | notAnAddress (host : List Glyph)
  /-- An authority with characters whose compatibility form holds a delimiter. -/
  | delimiterUnderNormalization (authority : List Glyph)
  deriving DecidableEq, Repr

/-- The words of a refusal. -/
def UrlError.message : UrlError → List Glyph
  | .misplacedBracket => Glyph.ofString "Invalid IPv6 URL"
  | .futureAddress => Glyph.ofString "IPvFuture address is invalid"
  | .bracketedIpv4 => Glyph.ofString "An IPv4 address cannot be in brackets"
  | .notAnAddress host =>
    Glyph.ofString s!"{Quoted.quoteGlyphs host} does not appear to be an IPv4 or IPv6 address"
  | .delimiterUnderNormalization authority =>
    let q := String.singleton Quoted.apostrophe
    Glyph.ofString ("netloc " ++ q) ++ authority ++
      Glyph.ofString (q ++ " contains invalid characters under NFKC normalization")

end DoipWire
