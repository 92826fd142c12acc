import DoipWire.SerialHost.Url.Basic

/-!
# Hosts

An IPv4 address is four octets split by dots, each one to three ASCII digits, without a leading
zero unless it is `0`, and at most 255. An IPv6 address may end in a zone, a `%` and a nonempty
name without another `%`; before it stand hextets of one to four hexadecimal digits split by
colons, where a last part with a dot is an IPv4 address standing for two hextets. Without `::`
there are eight hextets; one `::` stands for at least one zero hextet, and a colon may begin or
end the address only as part of it. Neither address holds a `/`.

A host between brackets must be an IPv6 address, or, when it starts with `v`, the future address
form: `v`, hexadecimal digits, a dot, and at least one more character, none a line feed.
-/

namespace DoipWire.Host

/-- An ASCII digit. -/
def isDigit (c : Char) : Bool := '0' ≤ c && c ≤ '9'

/-- A hexadecimal digit of either case. -/
def isHexDigit (c : Char) : Bool :=
  isDigit c || ('a' ≤ c && c ≤ 'f') || ('A' ≤ c && c ≤ 'F')

/-- The value of a run of ASCII digits. -/
def decimalValue (cs : List Char) : Nat := cs.foldl (fun n c => n * 10 + (c.toNat - 48)) 0

/-- An octet of an IPv4 address. -/
def isOctet (cs : List Char) : Bool :=
  !cs.isEmpty && cs.all isDigit && cs.length ≤ 3 && (cs = ['0'] || cs.head? != some '0') &&
    decimalValue cs ≤ 255

/-- Whether a text is an IPv4 address. -/
def isIpv4 (s : String) : Bool :=
  let octets := s.splitOn "."
  !s.contains '/' && octets.length = 4 && octets.all (isOctet ·.toList)

/-- A hextet of an IPv6 address. -/
def isHextet (s : String) : Bool :=
  !s.isEmpty && s.toList.all isHexDigit && s.length ≤ 4

/-- Whether the parts between the colons of an address spell eight hextets, with at most one
empty part inside standing for a run of zero hextets. -/
def hextetsValid (parts : List String) : Bool :=
  let n := parts.length
  let inner := (List.range n).filter fun i => 0 < i ∧ i + 1 < n ∧ parts[i]?.getD "" = ""
  match inner with
  | [] =>
    n = 8 && parts.all isHextet
  | [skip] =>
    let firstEmpty := parts.head?.getD "" = ""
    let lastEmpty := parts.getLast?.getD "" = ""
    let hi := skip - (if firstEmpty then 1 else 0)
    let lo := n - skip - 1 - (if lastEmpty then 1 else 0)
    (!firstEmpty || hi = 0) && (!lastEmpty || lo = 0) && hi + lo < 8 &&
      (parts.take hi).all isHextet && (parts.drop (n - lo)).all isHextet
  | _ => false

/-- Whether a text is an IPv6 address. -/
def isIpv6 (s : String) : Bool :=
  let (addr, zoneValid) := match s.splitOn "%" with
    | [a] => (a, true)
    | [a, zone] => (a, !zone.isEmpty)
    | a :: _ => (a, false)
    | [] => ("", false)
  let parts := addr.splitOn ":"
  let last := parts.getLast?.getD ""
  let hextets :=
    if last.contains '.' then
      if isIpv4 last then some (parts.dropLast ++ ["0", "0"]) else none
    else some parts
  let shaped := match hextets with
    | some ps => ps.length ≤ 9 && hextetsValid ps
    | none => false
  !s.contains '/' && zoneValid && !addr.isEmpty && 3 ≤ parts.length && shaped

/-- The version of an IP address. -/
inductive IpVersion where
  | v4
  | v6
  deriving DecidableEq, Repr

/-- The version of the IP address a text spells, if it spells one. -/
def ipVersion? (s : String) : Option IpVersion :=
  if isIpv4 s then some .v4 else if isIpv6 s then some .v6 else none

/-- Whether a text is the future address form. -/
def isFutureAddress (s : String) : Bool :=
  match s.toList with
  | 'v' :: rest =>
    let digits := rest.takeWhile isHexDigit
    match rest.dropWhile isHexDigit with
    | '.' :: tail => !digits.isEmpty && !tail.isEmpty && !tail.contains '\n'
    | _ => false
  | _ => false

/-- Checks a host that stood between brackets. -/
def checkBracketed (host : List Glyph) : Except UrlError Unit :=
  let text := Glyph.toText host
  if text.startsWith "v" then
    if isFutureAddress text then .ok () else .error .futureAddress
  else match ipVersion? text with
    | some .v6 => .ok ()
    | some .v4 => .error .bracketedIpv4
    | none => .error (.notAnAddress host)

/-- Checks an authority that holds both brackets: after any user information, the opening
bracket must start the host, and the closing one may be followed only by a port; the host is
then checked as a bracketed host. An authority whose brackets stand in the user information has
its host, up to a colon, checked instead. -/
def checkBracketedAuthority (authority : List Glyph) : Except UrlError Unit := do
  let hostAndPort := Glyph.afterLast '@' authority
  match Glyph.splitFirst '[' hostAndPort with
  | (before, some bracketed) =>
    if !before.isEmpty then throw .misplacedBracket
    let (host, port) := Glyph.splitFirst ']' bracketed
    let port := port.getD []
    if !port.isEmpty && !Glyph.startsWith port ":" then throw .misplacedBracket
    checkBracketed host
  | (_, none) => checkBracketed (Glyph.splitFirst ':' hostAndPort).1

end DoipWire.Host
