import Outreach.Url.Host

/-!
# Addresses

An address has a scheme, a user, a host, the number of a service, a path, a query and a fragment,
and may lack any of them. It is read into its normal form: the scheme and the host in small letters,
no service number that the scheme implies, no steps "here" and "up" in the path, and escapes where
characters are not plain. An address without scheme or host is relative; it is put on the root of
another one, where its fragment is dropped.
-/

namespace Outreach

/-- An address in its normal form. -/
structure Url where
  scheme : List Char
  user : List Char
  host : List Char
  /-- The number of the service at the host. -/
  service : Option Int
  path : List Char
  query : Option (List Char)
  fragment : Option (List Char)
  deriving DecidableEq, Repr

namespace Url

/-- No address and no part of one is longer. -/
def longest : Nat := 65536

/-- A control character of ASCII, which no address holds. -/
def isControl (c : Char) : Bool := c.toNat < 0x20 || c.toNat = 0x7f

/-- A character of the name of a scheme. -/
def isSchemeChar (c : Char) : Bool := c.isAlphanum || c = '+' || c = '.' || c = '-'

/-- Cuts the scheme from an address: a letter and more characters, or nothing, before a colon. -/
def cutScheme (cs : List Char) : List Char × List Char :=
  let name := cs.takeWhile isSchemeChar
  match cs.drop name.length with
  | ':' :: rest => if (name.take 1).all Char.isAlpha then (name, rest) else ([], cs)
  | _ => ([], cs)

/-- Cuts what follows two slashes, up to the path, from an address. -/
def cutAuthority : List Char → List Char × List Char
  | '/' :: '/' :: rest =>
    let authority := rest.takeWhile fun c => c ≠ '/' && c ≠ '?' && c ≠ '#'
    (authority, rest.drop authority.length)
  | cs => ([], cs)

/-- Cuts the user, which the last "at" ends, from an authority. -/
def cutUser (cs : List Char) : List Char × List Char :=
  if cs.contains '@' then
    let rest := (cs.reverse.takeWhile (· ≠ '@')).reverse
    ((cs.take (cs.length - rest.length)).dropLast, rest)
  else ([], cs)

/-- Cuts the host from the service number: what stands in brackets, or else what
precedes the first colon. -/
def cutHost (cs : List Char) : List Char × List Char :=
  if cs.head? = some '[' && cs.contains ']' then
    let rest := (cs.reverse.takeWhile (· ≠ ']')).reverse
    (cs.take (cs.length - rest.length), rest)
  else
    let host := cs.takeWhile (· ≠ ':')
    (host, cs.drop host.length)

/-- The service numbers that schemes imply. -/
def impliedServices : List (String × Int) :=
  [("ftp", 21), ("http", 80), ("https", 443), ("ws", 80), ("wss", 443)]

/-- Reads a service number after its colon; the one that a scheme in small
letters implies is dropped. -/
def readService (scheme cs : List Char) : Except Fault (Option Int) :=
  let text := match cs with
    | ':' :: rest => rest
    | cs => cs
  if text.isEmpty then .ok none
  else match Decimal.readWhole? (String.ofList text) with
    | some number =>
      .ok (if impliedServices.lookup (String.ofList scheme) = some number then none
        else some number)
    | none => .error .malformed

/-- The parts of a path with "here" and "up" resolved, the parts so far in reverse. -/
def resolveParts : List (List Char) → List (List Char) → List (List Char)
  | done, [] => done.reverse
  | done, part :: rest =>
    if part = ['.'] then resolveParts done rest
    else if part = ['.', '.'] then
      resolveParts (if done = [] ∨ done = [[]] then done else done.tail) rest
    else resolveParts (part :: done) rest

/-- A path with "here" and "up" resolved. -/
def resolved (path : List Char) : List Char := ['/'].intercalate (resolveParts [] (cutAt '/' path))

/-- The address is absolute when it has a scheme and a host. -/
def isAbsolute (url : Url) : Bool := !url.scheme.isEmpty && !url.host.isEmpty

/-- The user, host or service number is given. -/
def hasAuthority (url : Url) : Bool := !url.user.isEmpty || !url.host.isEmpty || url.service.isSome

/-- Sets the path and the query of an address. Beside a scheme or an authority the path is resolved;
without them it begins neither with a colon nor with two slashes. -/
def withPath (url : Url) (path : List Char) (query : Option (List Char)) : Except Fault Url := do
  let path ←
    if !url.scheme.isEmpty || url.hasAuthority then pure (resolved path)
    else if [':'].isPrefixOf path || ['/', '/'].isPrefixOf path then throw .malformed
    else pure path
  let path ← escape isPathPlain path
  let query ← query.mapM (escape isQueryPlain)
  return { url with path := path, query := query }

/-- Reads the scheme and the authority of an address, and gives what follows them. -/
def readStart (cs : List Char) : Except Fault (Url × List Char) := do
  let (scheme, rest) := cutScheme cs
  let (authority, rest) := cutAuthority rest
  let (user, authority) := cutUser authority
  let (host, service) := cutHost authority
  let user ← escape isUserPlain user
  let host ← readHost host
  let service ← readService scheme service
  return (⟨scheme.map Char.toLower, user, host, service, [], none, none⟩, rest)

/-- What follows a sign, if the text begins with it. -/
def after? (sign : Char) : List Char → Option (List Char)
  | c :: rest => if c = sign then some rest else none
  | [] => none

/-- Reads an address. -/
def read (text : String) : Except Fault Url := do
  let cs := text.toList
  if cs.length > longest || cs.any isControl then throw .malformed
  let (start, rest) ← readStart cs
  let path := rest.takeWhile fun c => c ≠ '?' && c ≠ '#'
  let rest := rest.drop path.length
  let query := (after? '?' rest).map (·.takeWhile (· ≠ '#'))
  let fragment := after? '#' (rest.dropWhile (· ≠ '#'))
  let url ← start.withPath path query
  return { url with fragment := (← fragment.mapM (escape isFragmentPlain)) }

/-- Puts a relative address on the root of another one. -/
def onRoot (root url : Url) : Except Fault Url := do
  let path := '/' :: url.path.dropWhile (· = '/')
  if path.length > longest || (url.query.getD []).length > longest then throw .malformed
  root.withPath path url.query

/-- The address that a text stands for where relative ones are put on a root. -/
def readOn (root : Url) (text : String) : Except Fault Url := do
  let url ← read text
  let url ← if url.isAbsolute then pure url else root.onRoot url
  if url.host.all Punycode.isPlain then return url else throw .unencodable

/-- The authority as it is written; a host with colons stands in brackets. -/
def authority (url : Url) : List Char :=
  (if url.user.isEmpty then [] else url.user ++ ['@']) ++
    (if url.host.contains ':' then '[' :: url.host ++ [']'] else url.host) ++
    (match url.service with
      | some number => ':' :: (Decimal.writeInt number).toList
      | none => [])

/-- The address as it is written. -/
def text (url : Url) : String :=
  String.ofList <|
    (if url.scheme.isEmpty then [] else url.scheme ++ [':']) ++
      (if url.authority.isEmpty then [] else '/' :: '/' :: url.authority) ++ url.path ++
      (match url.query with
        | some query => '?' :: query
        | none => []) ++
      (match url.fragment with
        | some fragment => '#' :: fragment
        | none => [])

end Url

end Outreach
