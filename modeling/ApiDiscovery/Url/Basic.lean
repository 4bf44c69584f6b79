import ApiDiscovery.Url.Host

/-!
# Addresses

An address is read once, corrected where it can be, and written in the one form
in which it is sent.  Slashes of both kinds separate the path of an address that
is understood, its dot segments are resolved, and characters that may not stand
in a part of it are percent-encoded.  What names a user is dropped.
-/

namespace ApiDiscovery

/-- An address in parts; `authority` is the host and, unless it is the usual one, the port. -/
structure Url where
  scheme : List Char
  authority : Option (List Char × Option Nat)
  path : List Char
  query : Option (List Char)
  fragment : Option (List Char)
deriving DecidableEq, Repr

namespace Url

open Text

def text (url : Url) : List Char :=
  let authority :=
    match url.authority with
    | none => []
    | some (host, none) => '/' :: '/' :: host
    | some (host, some port) => '/' :: '/' :: host ++ ':' :: Nat.toDigits 10 port
  url.scheme ++ ':' :: authority ++ url.path ++
    (url.query.elim [] ('?' :: ·)) ++ (url.fragment.elim [] ('#' :: ·))

/-! ## Schemes -/

def specialPorts : List (String × Option Nat) := [
  ("http", some 80), ("https", some 443), ("ws", some 80), ("wss", some 443), ("ftp", some 21),
  ("file", none)]

def isSpecial (scheme : List Char) : Bool :=
  specialPorts.any fun (name, _) => name.toList == scheme

def usualPort (scheme : List Char) : Option Nat :=
  (specialPorts.find? fun (name, _) => name.toList == scheme).bind (·.2)

def splitScheme (text : List Char) : Option (List Char × List Char) :=
  match text with
  | [] => none
  | c :: _ =>
      if !c.isAlpha then none
      else
        match splitFirst ':' text with
        | none => none
        | some (scheme, rest) =>
            if scheme.all fun c => c.isAlphanum || c == '+' || c == '-' || c == '.' then
              some (scheme.map Char.toLower, rest)
            else none

/-! ## Encoding -/

def encodeIf (encoded : Char → Bool) (text : List Char) : List Char :=
  text.flatMap fun c =>
    if encoded c then (String.utf8EncodeChar c).flatMap Percent.triple else [c]

/-- Control characters and everything outside ASCII. -/
def isControl (c : Char) : Bool := c.toNat < 0x20 || 0x7F ≤ c.toNat

def inFragment (c : Char) : Bool := isControl c || " \"<>`".toList.contains c

def inPath (c : Char) : Bool := inFragment c || "#?\x7b\x7d".toList.contains c

/-- Characters encoded in a query, the quote only where the scheme is understood. -/
def inQuery (special : Bool) (c : Char) : Bool :=
  isControl c || " \"#<>".toList.contains c || (special && c == '\'')

/-! ## Authority -/

/-- A port, if digits below the limit are given; the usual one is not kept. -/
def portOf (scheme digits : List Char) : Option (Option Nat) :=
  if digits.isEmpty then some none
  else if digits.all Char.isDigit then
    match numberInBase 10 digits with
    | none => none
    | some port =>
        if 65535 < port then none
        else if usualPort scheme = some port then some none
        else some (some port)
  else none

/-- The host and the digits of the port: a colon inside brackets does not part them. -/
def splitPort (inBrackets : Bool) : List Char → List Char × List Char
  | [] => ([], [])
  | c :: rest =>
      if c = ':' ∧ !inBrackets then ([], rest)
      else
        let inside := if c = '[' then true else if c = ']' then false else inBrackets
        (c :: (splitPort inside rest).1, (splitPort inside rest).2)

/-- The host and the port of an authority, what names a user being dropped. -/
def authorityOf (scheme written : List Char) : Option (List Char × Option Nat) :=
  let behindUser :=
    match splitLast '@' written with
    | none => written
    | some (_, behind) => behind
  let (host, digits) := splitPort false behindUser
  match portOf scheme digits with
  | none => none
  | some port =>
      if isSpecial scheme then (specialHost host).map (·, port)
      else if host.any isForbiddenInHost then none
      else some (encodeIf isControl host, port)

/-! ## Paths -/

/-- The ways to write the segment that stays in place. -/
def isHere (segment : List Char) : Bool :=
  [".", "%2e"].any fun form => form.toList == segment.map Char.toLower

/-- The ways to write the segment that goes up. -/
def isUp (segment : List Char) : Bool :=
  ["..", ".%2e", "%2e.", "%2e%2e"].any fun form => form.toList == segment.map Char.toLower

/-- Segments with the dot segments resolved; a final one leaves a slash at the end. -/
def resolveDots : List (List Char) → List (List Char) → List (List Char)
  | done, [] => done
  | done, segment :: rest =>
      let next := if isUp segment then done.dropLast else if isHere segment then done
        else done ++ [segment]
      if rest.isEmpty && (isUp segment || isHere segment) then next ++ [[]]
      else resolveDots next rest

def pathOf (special : Bool) (written : List Char) : List Char :=
  let slashes := if special then written.map fun c => if c = '\\' then '/' else c else written
  let segments := (splitAll '/' slashes).tail
  '/' :: joinWith ['/'] ((resolveDots [] segments).map (encodeIf inPath))

/-! ## Reading -/

/-- The parts of a text before a character that ends them, and from that character on. -/
def spanUntil (ends : List Char) (text : List Char) : List Char × List Char :=
  (text.takeWhile (!ends.contains ·), text.dropWhile (!ends.contains ·))

def splitParts (text : List Char) : List Char × Option (List Char) × Option (List Char) :=
  let (beforeFragment, fragment) := spanUntil ['#'] text
  let (path, query) := spanUntil ['?'] beforeFragment
  (path, (if query.isEmpty then none else some query.tail),
    if fragment.isEmpty then none else some fragment.tail)

def assemble (scheme : List Char) (authority : Option (List Char × Option Nat))
    (rest : List Char) : Url :=
  let special := isSpecial scheme
  let (path, query, fragment) := splitParts rest
  let startsWithSlash := path.head? == some '/' || (special && path.head? == some '\\')
  { scheme, authority
    path :=
      if startsWithSlash then pathOf special path
      else if special then pathOf special ('/' :: path)
      else encodeIf isControl path
    query := query.map (encodeIf (inQuery special))
    fragment := fragment.map (encodeIf inFragment) }

def behindScheme (scheme rest : List Char) : Option Url :=
  let special := isSpecial scheme
  let isSlash (c : Char) : Bool := c == '/' || (special && c == '\\')
  let slashes := (rest.takeWhile isSlash).length
  let ends := if special then ['/', '\\', '?', '#'] else ['/', '?', '#']
  if scheme = "file".toList then
    if 2 ≤ slashes then
      let (host, behind) := spanUntil ends (rest.drop 2)
      if host.isEmpty || host.map Char.toLower = "localhost".toList then
        some (assemble scheme (some ([], none)) behind)
      else (specialHost host).map fun host => assemble scheme (some (host, none)) behind
    else some (assemble scheme (some ([], none)) rest)
  else if special then
    let (written, behind) := spanUntil ends (rest.drop slashes)
    (authorityOf scheme written).map fun authority => assemble scheme (some authority) behind
  else if 2 ≤ slashes then
    let (written, behind) := spanUntil ends (rest.drop 2)
    (authorityOf scheme written).map fun authority => assemble scheme (some authority) behind
  else some (assemble scheme none rest)

/-- A text without blanks around it and without tabs and line breaks. -/
def tidy (text : List Char) : List Char :=
  let isEdge (c : Char) : Bool := c.toNat ≤ 0x20
  let trimmed := ((text.dropWhile isEdge).reverse.dropWhile isEdge).reverse
  trimmed.filter fun c => c != '\t' && c != '\n' && c != '\r'

def parse? (text : String) : Option Url :=
  match splitScheme (tidy text.toList) with
  | none => none
  | some (scheme, rest) => behindScheme scheme rest

def hasHost (url : Url) : Bool := url.authority.any fun (host, _) => !host.isEmpty

def longest : Nat := 65534

def isHttp (url : Url) : Bool :=
  (url.scheme == "http".toList || url.scheme == "https".toList) && url.hasHost &&
    !url.authority.any (fun (host, _) => host.any fun c => "\"\x7b\x7d`".toList.contains c) &&
    decide (url.text.length ≤ longest)

end Url

end ApiDiscovery
