import RequestLog.Text.Lowercase
import RequestLog.Url.Address

/-!
The parts of a URL. Blank and control characters at its start and line breaks and tabs anywhere are
dropped first. A URL is refused if the brackets in its authority enclose no address or stand beside
other text, or if a character of the authority turns into a delimiter when it is normalised.
-/
namespace RequestLog.Url

open RequestLog.Text

/-- The parts of a URL that decide what a log shows of it. -/
structure Parts where
  scheme : List Char
  authority : List Char
  path : List Char
deriving DecidableEq, Repr

/-- Whether a character is dropped at the start of a URL. -/
def isLeadingJunk (c : Char) : Bool :=
  Nat.ble c.toNat 32

/-- Whether a character is dropped anywhere in a URL. -/
def isDropped (c : Char) : Bool :=
  c == '\t' || c == '\r' || c == '\n'

/-- A URL without the characters that are dropped from it. -/
def clean (cs : List Char) : List Char :=
  (cs.dropWhile isLeadingJunk).filter (! isDropped ·)

def isSchemeChar (c : Char) : Bool :=
  c.toNat < 128 && (c.isAlphanum || c == '+' || c == '-' || c == '.')

/-- The scheme at the front of a URL, in lower case, with what follows its colon. -/
def splitScheme (cs : List Char) : List Char × List Char :=
  let scheme := cs.takeWhile (· != ':')
  match cs.drop scheme.length, scheme with
  | ':' :: rest, c :: _ =>
    if c.isAlpha && scheme.all isSchemeChar then (scheme.map Char.toLower, rest) else ([], cs)
  | _, _ => ([], cs)

def endsAuthority (c : Char) : Bool :=
  c == '/' || c == '?' || c == '#'

/-- The authority at the front of a text, with what follows it. -/
def splitAuthority : List Char → List Char × List Char
  | '/' :: '/' :: rest =>
    (rest.takeWhile (! endsAuthority ·), rest.dropWhile (! endsAuthority ·))
  | cs => ([], cs)

/-- The text behind the last at sign. -/
def hostPart (cs : List Char) : List Char :=
  (cs.reverse.takeWhile (· != '@')).reverse

/-- Whether the brackets of an authority, if it has any, enclose an address alone, with nothing
behind them but what a colon starts. -/
def bracketsFit (authority : List Char) : Bool :=
  if authority.contains '[' || authority.contains ']' then
    authority.contains '[' && authority.contains ']' &&
      match hostPart authority with
      | '[' :: inner =>
        let host := inner.takeWhile (· != ']')
        let after := inner.drop (host.length + 1)
        (after == [] || after.head? == some ':') && isBracketed host
      | host =>
        ! host.contains '[' && isBracketed (host.takeWhile (· != ':'))
  else true

/-- The characters whose compatibility form has a delimiter of URLs in it. -/
def hazards : List Nat :=
  [0x2047, 0x2048, 0x2049, 0x2100, 0x2101, 0x2105, 0x2106, 0x2A74, 0xFE13, 0xFE16, 0xFE55, 0xFE56,
   0xFE5F, 0xFE6B, 0xFF03, 0xFF0F, 0xFF1A, 0xFF1F, 0xFF20]

/-- Whether a character turns into a delimiter when it is normalised. -/
def isHazard (c : Char) : Bool :=
  hazards.contains c.toNat

/-- The path in the part of a URL behind its authority: what comes before a question mark or a hash
sign. -/
def pathOf (cs : List Char) : List Char :=
  cs.takeWhile fun c => c != '?' && c != '#'

def split? (cs : List Char) : Option Parts :=
  let s := splitScheme (clean cs)
  let a := splitAuthority s.2
  if bracketsFit a.1 && ! a.1.any isHazard then some ⟨s.1, a.1, pathOf a.2⟩ else none

/-- What a log shows of a URL: the path of an absolute one, and any other one as it is. -/
def shown (cs : List Char) : List Char :=
  match split? cs with
  | none => cs
  | some parts =>
    if parts.scheme = [] ∨ parts.authority = [] then cs
    else if parts.path = [] then ['/']
    else parts.path

end RequestLog.Url
