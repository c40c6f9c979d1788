import BrokerClient.Endpoint.Address
import BrokerClient.Endpoint.Domain
/-!
The part of url parsing that decides whether a url is accepted, and its scheme and host. Blanks
and controls around the url are dropped and tabs and line breaks inside it are ignored. The
scheme is lowercased; `http`, `https`, `ws`, `wss`, `ftp` and `file` are special: their host is
a domain or an address and may not be empty, and backslashes count as slashes. Other schemes
have an opaque host, which may be empty but may not hold a delimiter.
-/

namespace BrokerClient.Endpoint

/-- Why a url is refused. -/
inductive UrlError where
  | relativeWithoutBase
  | emptyHost
  | invalidPort
  | invalidIpv4
  | invalidIpv6
  | invalidDomainCharacter
  | invalidDomain
  deriving DecidableEq, Repr

/-- The text of a refused url. -/
def UrlError.message : UrlError → String
  | .relativeWithoutBase => "relative URL without a base"
  | .emptyHost => "empty host"
  | .invalidPort => "invalid port number"
  | .invalidIpv4 => "invalid IPv4 address"
  | .invalidIpv6 => "invalid IPv6 address"
  | .invalidDomainCharacter => "invalid domain character"
  | .invalidDomain => "invalid international domain name"

/-- What matters of an accepted url: its lowercased scheme and its host, if it has one. -/
structure Url where
  scheme : String
  host : Option String
  deriving DecidableEq, Repr

/-- Whether a scheme is special. -/
def isSpecial (scheme : String) : Bool :=
  ["http", "https", "ws", "wss", "ftp", "file"].contains scheme

/-- The host of an opaque url: an IPv6 address in brackets, or any text without a delimiter. -/
def opaqueHost (s : List Char) : Except UrlError String :=
  match s with
  | '[' :: inner =>
    if s.getLast? != some ']' then .error .invalidIpv6
    else if isIpv6 inner.dropLast then .ok (String.ofList s) else .error .invalidIpv6
  | _ =>
    if s.any (fun c => "\x00\t\n\r #/:<>?@[\\]^|".toList.contains c) then
      .error .invalidDomainCharacter
    else .ok (String.ofList s)

/-- The host of a special url: an IPv6 address in brackets, or a domain that, after
percent-decoding and mapping, is nonempty and, when it ends in a number, is an IPv4 address. -/
def specialHost (s : List Char) : Except UrlError String :=
  match s with
  | '[' :: inner =>
    if s.getLast? != some ']' then .error .invalidIpv6
    else if isIpv6 inner.dropLast then .ok (String.ofList s) else .error .invalidIpv6
  | _ =>
    let decoded := Text.Utf8.decodeLossy (percentDecode (Text.Utf8.encode (String.ofList s)))
    match domainToAscii decoded with
    | none => .error .invalidDomain
    | some ascii =>
      if ascii.isEmpty then .error .emptyHost
      else if endsInNumber ascii then
        (if isIpv4 ascii then .ok (String.ofList ascii) else .error .invalidIpv4)
      else .ok (String.ofList ascii)

/-- Reads a port after its colon: digits up to a delimiter, at most 65535. -/
def checkPort (s : List Char) : Except UrlError Unit :=
  let digits := s.takeWhile Char.isDigit
  let after := s.drop digits.length
  let value := digits.foldl (fun v c => 10 * v + (c.toNat - 48)) 0
  if digits.length > 0 && value > 65535 then .error .invalidPort
  else match after with
    | [] => .ok ()
    | c :: _ => if "/\\?#".toList.contains c then .ok () else .error .invalidPort

/-- The index of the last `@` before the end of the authority, if any. -/
def lastAt (s : List Char) (special : Bool) : Option Nat :=
  let authority := s.takeWhile fun c => !("/?#".toList.contains c || (special && c == '\\'))
  let idx := authority.length - 1 - (authority.reverse.findIdx? (· == '@')).getD authority.length
  if authority.contains '@' then some idx else none

/-- The host text: up to a colon outside brackets or a delimiter. -/
def hostText (s : List Char) (special : Bool) : List Char × List Char :=
  let rec go : List Char → Bool → List Char → List Char × List Char
    | [], _, acc => (acc.reverse, [])
    | c :: rest, inside, acc =>
      if (c == ':' && !inside) || c == '/' || c == '?' || c == '#' || (special && c == '\\') then
        (acc.reverse, c :: rest)
      else go rest (if c == '[' then true else if c == ']' then false else inside) (c :: acc)
  go s false []

/-- Reads the authority of a url after its slashes and gives the host. -/
def authority (s : List Char) (special : Bool) : Except UrlError (Option String) := do
  -- the user information ends at the last `@`
  let (hasUser, rest) ← match lastAt s special with
    | none => pure (false, s)
    | some 0 =>
      let rest := s.drop 1
      match rest with
      | c :: _ =>
        if "/?#".toList.contains c || (special && c == '\\') then throw .emptyHost
        else pure (false, rest)
      | [] => pure (false, rest)
    | some i => pure (s.take i != [':'], s.drop (i + 1))
  let (host, after) := hostText rest special
  if special && host.isEmpty then throw .emptyHost
  let h ← if special then specialHost host else opaqueHost host
  if h.isEmpty && after.head? == some ':' then throw .emptyHost
  match after with
  | ':' :: port => checkPort port
  | _ => pure ()
  if h.isEmpty && hasUser then throw .emptyHost
  return (if h.isEmpty then none else some h)

/-- The host of a `file` url: after two slashes, up to a delimiter; a drive letter or an empty
text is no host. -/
def fileHost (s : List Char) : Except UrlError (Option String) :=
  let isSlash (c : Char) := c == '/' || c == '\\'
  match s with
  | a :: b :: rest =>
    if isSlash a && isSlash b then
      let host := rest.takeWhile fun c => !(isSlash c || c == '?' || c == '#')
      let drive := match host with
        | [d, m] => d.isAlpha && (m == ':' || m == '|')
        | _ => false
      if drive || host.isEmpty then .ok none
      else do
        let h ← specialHost host
        pure (if h == "localhost" then none else some h)
    else .ok none
  | _ => .ok none

/-- The scheme of a url and what follows its colon, when it starts with one: a letter, then
letters, digits, `+`, `-` or `.`, then a colon. -/
def splitScheme (s : List Char) : Option (String × List Char) :=
  match s with
  | c :: _ =>
    if !c.isAlpha then none
    else
      let name := s.takeWhile fun c => c.isAlphanum || c == '+' || c == '-' || c == '.'
      match s.drop name.length with
      | ':' :: rest => some (String.ofList (name.map Char.toLower), rest)
      | _ => none
  | [] => none

/-- The characters of a url that parsing reads: blanks and controls around it dropped, and tabs
and line breaks inside it. -/
def Url.clean (input : String) : List Char :=
  let cs := input.toList
  let trimmed := ((cs.dropWhile (·.toNat ≤ 0x20)).reverse.dropWhile (·.toNat ≤ 0x20)).reverse
  trimmed.filter fun c => c != '\t' && c != '\n' && c != '\r'

/-- Parses a url far enough to know its scheme and host, or why it is refused. -/
def Url.parse (input : String) : Except UrlError Url := do
  match splitScheme (Url.clean input) with
  | none => throw .relativeWithoutBase
  | some (scheme, rest) =>
    if scheme == "file" then
      return ⟨scheme, ← fileHost rest⟩
    else if isSpecial scheme then
      let afterSlashes := rest.dropWhile fun c => c == '/' || c == '\\'
      return ⟨scheme, ← authority afterSlashes true⟩
    else
      match rest with
      | '/' :: '/' :: more => return ⟨scheme, ← authority more false⟩
      | _ => return ⟨scheme, none⟩

end BrokerClient.Endpoint
