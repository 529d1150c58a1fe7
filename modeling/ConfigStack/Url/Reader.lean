import ConfigStack.Url.Basic
import ConfigStack.Url.Domain
import ConfigStack.Url.Percent

/-!
# Reading URLs

`Url.parse` reads an absolute URL and normalises it: letters of scheme and domain become small, dot
segments are resolved, characters a part may not have are percent-encoded, and a default port is
left out. Control characters and blanks around the text, and tabs and line ends in it, do not
count. A dot segment never removes a drive letter.

The special schemes are those of the web. Their URLs always have a host, and a backslash in them
is a slash. A `file` URL may have a host, which a drive letter at the front of its path replaces.
Other URLs have a host if two slashes follow the scheme, though an empty one may be; if no slash
does they have a bare path.
-/
namespace ConfigStack.Url

inductive ParseError where
  | relativeWithoutBase
  | emptyHost
  | invalidDomain
  | invalidPort
  | invalidIpv4
  | invalidIpv6
  | forbiddenHostCharacter
  deriving DecidableEq, Repr

def ParseError.message : ParseError → String
  | .relativeWithoutBase => "relative URL without a base"
  | .emptyHost => "empty host"
  | .invalidDomain => "invalid international domain name"
  | .invalidPort => "invalid port number"
  | .invalidIpv4 => "invalid IPv4 address"
  | .invalidIpv6 => "invalid IPv6 address"
  | .forbiddenHostCharacter => "invalid domain character"

/-- How the URLs of a scheme are read. -/
inductive Kind where
  | special
  | file
  | other
  deriving DecidableEq, Repr

def kindOf (scheme : String) : Kind :=
  if ["http", "https", "ws", "wss", "ftp"].contains scheme then .special
  else if scheme = "file" then .file
  else .other

def defaultPort (scheme : String) : Option Nat :=
  if scheme = "http" ∨ scheme = "ws" then some 80
  else if scheme = "https" ∨ scheme = "wss" then some 443
  else if scheme = "ftp" then some 21
  else none

/-- A slash, or a backslash where it counts as one. -/
def Kind.isSlash (k : Kind) (c : Char) : Bool :=
  c = '/' || (c = '\\' && k ≠ .other)

/-- A character at which the host part ends. -/
def Kind.endsAuthority (k : Kind) (c : Char) : Bool :=
  k.isSlash c || c = '?' || c = '#'

/-! ### Scheme -/

def isSchemeChar (c : Char) : Bool :=
  c.isAlphanum || c = '+' || c = '-' || c = '.'

/-- The scheme, in small letters, and what follows its colon. -/
def cutScheme (cs : List Char) : Option (String × List Char) :=
  match cs with
  | c :: _ =>
    if c.isAlpha then
      match cs.dropWhile isSchemeChar with
      | ':' :: rest => some (Text.lowered (String.ofList (cs.takeWhile isSchemeChar)), rest)
      | _ => none
    else none
  | [] => none

/-! ### Host -/

/-- A host of a special or a `file` URL. -/
def readHost (cs : List Char) : Except ParseError Host :=
  match cs with
  | '[' :: rest =>
    if rest.getLast? = some ']' then
      match readIpv6 rest.dropLast with
      | some pieces => .ok (.ipv6 pieces)
      | none => .error .invalidIpv6
    else .error .invalidIpv6
  | cs =>
    match (Text.decodeUtf8 (decodeBytes cs)).bind domainToAscii with
    | none => .error .invalidDomain
    | some name =>
      if name.isEmpty then .error .emptyHost
      else if endsInNumber name then
        match readIpv4 name with
        | some address => .ok (.ipv4 address)
        | none => .error .invalidIpv4
      else .ok (.domain (String.ofList name))

/-- The characters that the host of another URL may not have. -/
def forbiddenInHost : List Char :=
  ['\x00', '\t', '\n', '\r', ' ', '#', '/', ':', '<', '>', '?', '@', '[', '\\', ']', '^', '|']

/-- A host of a URL that is neither special nor `file`; it may be empty. -/
def readBareHost (cs : List Char) : Except ParseError Host :=
  match cs with
  | '[' :: _ => readHost cs
  | cs =>
    if cs.any forbiddenInHost.contains then .error .forbiddenHostCharacter
    else .ok (.domain (String.ofList (encode .bare cs)))

/-- A host and port cut at the first colon outside brackets. -/
def cutHost (inBrackets : Bool) : List Char → List Char × List Char
  | [] => ([], [])
  | c :: rest =>
    if c = ':' && !inBrackets then ([], c :: rest)
    else
      let inside := if c = '[' then true else if c = ']' then false else inBrackets
      let (host, after) := cutHost inside rest
      (c :: host, after)

/-- A port, after its colon, up to a character that ends it; the default port is none. -/
def readPort (scheme : String) (cs : List Char) : Except ParseError (Option Nat × List Char) :=
  let digits := cs.takeWhile Char.isDigit
  let rest := cs.dropWhile Char.isDigit
  let port := (readBase 10 digits).getD 0
  if 65535 < port then .error .invalidPort
  else
    match rest with
    | [] => .ok (if digits.isEmpty || some port = defaultPort scheme then none else some port, [])
    | c :: _ =>
      if c = '\\' then
        .ok (if digits.isEmpty || some port = defaultPort scheme then none else some port, rest)
      else .error .invalidPort

/-! ### Path -/

/-- A segment that names the segment itself. -/
def isSingleDot (s : String) : Bool :=
  ["." , "%2e"].contains (Text.lowered s)

/-- A segment that names the one before. -/
def isDoubleDot (s : String) : Bool :=
  ["..", ".%2e", "%2e.", "%2e%2e"].contains (Text.lowered s)

/-- A letter and a colon or a bar. -/
def isDriveLetter (s : String) : Bool :=
  match s.toList with
  | [letter, mark] => letter.isAlpha && (mark = ':' || mark = '|')
  | _ => false

/-- The path without its last segment, which stays if it is a drive letter. -/
def shorten (path : List String) : List String :=
  match path.getLast? with
  | some last => if isDriveLetter last then path else path.dropLast
  | none => path

/-- The path with one segment more; `last` says that no slash follows it. The first segment of a
`file` path is written with a colon if it is a drive letter. -/
def pushSegment (k : Kind) (path : List String) (segment : String) (last : Bool) : List String :=
  if isDoubleDot segment then
    let shorter := shorten path
    if last then shorter ++ [""] else shorter
  else if isSingleDot segment then
    if last then path ++ [""] else path
  else if k = .file && path.isEmpty && isDriveLetter segment then
    [String.ofList (segment.toList.take 1 ++ [':'])]
  else path ++ [segment]

def pushSegments (k : Kind) (path : List String) : List String → List String
  | [] => path
  | [segment] => pushSegment k path segment true
  | segment :: rest => pushSegments k (pushSegment k path segment false) rest

/-- The pieces of a path between its slashes. -/
def cutSegments (k : Kind) (cs : List Char) : List (List Char) :=
  Text.pieces '/' (cs.map fun c => if k.isSlash c then '/' else c)

def withoutEmptyFront (path : List String) : List String :=
  match path.dropWhile (· = "") with
  | [] => [""]
  | rest => rest

/-- The segments of a path, after its first slash. -/
def readSegments (k : Kind) (cs : List Char) : List String :=
  let path :=
    pushSegments k [] ((cutSegments k cs).map fun s => String.ofList (encode .path s))
  if k = .file then withoutEmptyFront path else path

/-- The path of a URL with a host: one that is not special may have none. -/
def readPath (k : Kind) (cs : List Char) : Path :=
  match cs with
  | [] => .segments (if k = .other then [] else [""])
  | c :: rest => .segments (readSegments k (if k.isSlash c then rest else c :: rest))

/-! ### The parts together -/

/-- A text cut before its query and its fragment. -/
structure Cut where
  path : List Char
  query : Option (List Char)
  fragment : Option (List Char)

def Cut.of (cs : List Char) : Cut :=
  let beforeFragment := cs.takeWhile (· ≠ '#')
  let path := beforeFragment.takeWhile (· ≠ '?')
  { path
    query :=
      if beforeFragment.contains '?' then some (beforeFragment.drop (path.length + 1)) else none
    fragment :=
      if cs.contains '#' then some (cs.drop (beforeFragment.length + 1)) else none }

def Cut.queryText (c : Cut) (k : Kind) : Option String :=
  c.query.map fun q =>
    String.ofList (encode (if k = .other then .query else .specialQuery) q)

def Cut.fragmentText (c : Cut) : Option String :=
  c.fragment.map fun f => String.ofList (encode .fragment f)

/-- The user part before the last `@`: a name, and a password after its first colon. -/
def readCredentials (cs : List Char) : String × String :=
  let name := cs.takeWhile (· ≠ ':')
  (String.ofList (encode .userinfo name),
    String.ofList (encode .userinfo (cs.drop (name.length + 1))))

/-- The host part cut at its last `@`, if it has one. -/
def cutCredentials (cs : List Char) : Option (List Char) × List Char :=
  if cs.contains '@' then
    let hostSize := (cs.reverse.takeWhile (· ≠ '@')).length
    (some (cs.take (cs.length - hostSize - 1)), cs.drop (cs.length - hostSize))
  else (none, cs)

/-- A URL from its host part on. -/
def readWithAuthority (scheme : String) (k : Kind) (cs : List Char) : Except ParseError Url := do
  let authority := cs.takeWhile fun c => !k.endsAuthority c
  let after := cs.dropWhile fun c => !k.endsAuthority c
  let (user?, hostAndPort) := cutCredentials authority
  if user? = some [] && hostAndPort.isEmpty && !after.isEmpty then throw .emptyHost
  let (username, password) := readCredentials (user?.getD [])
  let (hostChars, portChars) := cutHost false hostAndPort
  let host ←
    if k = .special then
      if hostChars.isEmpty then throw .emptyHost else readHost hostChars
    else readBareHost hostChars
  if hostChars.isEmpty && !portChars.isEmpty then throw .emptyHost
  let (port, rest) ←
    match portChars with
    | _ :: port => readPort scheme port
    | [] => pure (none, [])
  if hostChars.isEmpty && !(username = "" && password = "") then throw .emptyHost
  let cut := Cut.of (rest ++ after)
  return {
    scheme, username, password, port
    host := some host
    path := readPath k cut.path
    query := cut.queryText k
    fragment := cut.fragmentText }

/-- A URL of a special scheme, after the colon: however many slashes there are, the host follows. -/
def readSpecial (scheme : String) (cs : List Char) : Except ParseError Url :=
  readWithAuthority scheme .special (cs.dropWhile Kind.special.isSlash)

/-- A `file` URL from a given host on. A drive letter at the front of the path takes the place of
the host. -/
def fileUrl (host : Option Host) (cs : List Char) : Url :=
  let cut := Cut.of cs
  let segments :=
    readSegments .file
      (match cut.path with
        | c :: rest => if Kind.file.isSlash c then rest else c :: rest
        | [] => [])
  let drive := (segments.head?.map isDriveLetter).getD false
  { scheme := "file"
    host := if drive then none else host
    path := .segments segments
    query := cut.queryText .file
    fragment := cut.fragmentText }

/-- A `file` URL, after the colon. Two slashes begin a host, unless a drive letter stands in its
place; the host of this machine is none. -/
def readFile (cs : List Char) : Except ParseError Url :=
  match cs with
  | a :: b :: rest =>
    if Kind.file.isSlash a && Kind.file.isSlash b then
      let name := rest.takeWhile fun c => !Kind.file.endsAuthority c
      if name.isEmpty || isDriveLetter (String.ofList name) then .ok (fileUrl none rest)
      else do
        let host ← readHost name
        .ok (fileUrl (if host = .domain "localhost" then none else some host)
          (rest.drop name.length))
    else .ok (fileUrl none cs)
  | cs => .ok (fileUrl none cs)

/-- A URL of another scheme, after the colon. -/
def readOther (scheme : String) (cs : List Char) : Except ParseError Url :=
  match cs with
  | '/' :: '/' :: rest => readWithAuthority scheme .other rest
  | cs =>
    let cut := Cut.of cs
    .ok {
      scheme
      path :=
        match cut.path with
        | '/' :: rest => .segments (readSegments .other rest)
        | text => .bare (String.ofList (encode .bare text))
      query := cut.queryText .other
      fragment := cut.fragmentText }

/-- A control character or a blank at an end of the text. -/
def isPadding (c : Char) : Bool := c.toNat ≤ 0x20

/-- A tab or a line end, which does not count anywhere. -/
def isIgnored (c : Char) : Bool := c = '\t' || c = '\n' || c = '\r'

def parse (text : String) : Except ParseError Url :=
  let trimmed := Text.dropEndWhile isPadding (text.toList.dropWhile isPadding)
  match cutScheme (trimmed.filter fun c => !isIgnored c) with
  | none => .error .relativeWithoutBase
  | some (scheme, rest) =>
    match kindOf scheme with
    | .special => readSpecial scheme rest
    | .file => readFile rest
    | .other => readOther scheme rest

end ConfigStack.Url
