/-
This file takes written references apart, puts them together and resolves them against a base.
-/
import PathStore.Text.Quoted
import PathStore.Url.IpAddress

namespace PathStore.Url

/-- A reference in pieces; an absent piece is empty. -/
structure Reference where
  scheme : List Char := []
  authority : List Char := []
  path : List Char := []
  parameters : List Char := []
  query : List Char := []
  fragment : List Char := []
  deriving DecidableEq, Repr

namespace Reference

/-- Why the host that a reference names cannot be told. -/
inductive Fault where
  | brackets
  | bracketedHost (host : String)
  | bracketedVersion4
  | futureAddress
  | equivalents (authority : String)
  deriving DecidableEq, Repr

def Fault.message : Fault → String
  | .brackets => "Invalid IPv6 URL"
  | .bracketedHost host => Text.quoted host ++ " does not appear to be an IPv4 or IPv6 address"
  | .bracketedVersion4 => "An IPv4 address cannot be in brackets"
  | .futureAddress => "IPvFuture address is invalid"
  | .equivalents authority =>
      "netloc '" ++ authority ++ "' contains invalid characters under NFKC normalization"

/-- The characters before the first that satisfies a test, and the rest. -/
def splitBefore (test : Char → Bool) (characters : List Char) : List Char × List Char :=
  (characters.takeWhile (!test ·), characters.dropWhile (!test ·))

/-- The characters before a mark, and those after it. -/
def splitAt (mark : Char) (characters : List Char) : List Char × List Char :=
  ((splitBefore (· = mark) characters).1, (splitBefore (· = mark) characters).2.drop 1)

def isAsciiLetter (character : Char) : Bool :=
  ('a' ≤ character ∧ character ≤ 'z') || ('A' ≤ character ∧ character ≤ 'Z')

def isSchemeCharacter (character : Char) : Bool :=
  isAsciiLetter character || Numeral.isDigit character || "+-.".toList.contains character

/-- The scheme in small letters, if one stands before the first colon, and the rest. -/
def takeScheme (default characters : List Char) : List Char × List Char :=
  match splitBefore (· = ':') characters with
  | (first :: more, _ :: rest) =>
      if isAsciiLetter first && more.all isSchemeCharacter then ((first :: more).map Char.toLower, rest)
      else (default, characters)
  | _ => (default, characters)

/-- The host and port after two slashes, with what may stand before an at sign, and the rest. -/
def takeAuthority : List Char → List Char × List Char
  | '/' :: '/' :: rest => splitBefore (fun character => "/?#".toList.contains character) rest
  | characters => ([], characters)

/-- A letter, hexadecimal digits, a dot and more. -/
def isFutureAddress (host : List Char) : Bool :=
  let digits := (host.drop 1).takeWhile fun digit => (Bytes.hexValue? digit).isSome
  let rest := host.drop (digits.length + 1)
  !digits.isEmpty && rest.head? = some '.' && 2 ≤ rest.length

/-- Fails unless a host may stand in brackets. -/
def checkBracketedHost (host : List Char) : Except Fault Unit :=
  if host.head? = some 'v' then if isFutureAddress host then .ok () else .error .futureAddress
  else if IpAddress.isVersion4 host then .error .bracketedVersion4
  else if IpAddress.isVersion6 host then .ok ()
  else .error (.bracketedHost (String.ofList host))

/-- The characters after the last at sign. -/
def afterUser (authority : List Char) : List Char := (authority.reverse.takeWhile (· != '@')).reverse

/-- Fails if an authority holds brackets, but not as it should. -/
def checkBrackets (authority : List Char) : Except Fault Unit := do
  if authority.contains '[' || authority.contains ']' then
    if !authority.contains '[' || !authority.contains ']' then throw .brackets
    let hostAndPort := afterUser authority
    if hostAndPort.contains '[' then
      let (before, bracketed) := splitAt '[' hostAndPort
      let (host, port) := splitAt ']' bracketed
      if !before.isEmpty || (!port.isEmpty && port.head? != some ':') then throw .brackets
      checkBracketedHost host
    else checkBracketedHost (splitAt ':' hostAndPort).1

/-- The characters that are equivalent to texts with a mark that ends or divides an authority. -/
def equivalentsOfMarks : List Nat :=
  [0x2047, 0x2048, 0x2049, 0x2100, 0x2101, 0x2105, 0x2106, 0x2A74, 0xFE13, 0xFE16, 0xFE55, 0xFE56, 0xFE5F, 0xFE6B,
   0xFF03, 0xFF0F, 0xFF1A, 0xFF1F, 0xFF20]

/-- The schemes in which parameters may follow the last segment of a path. -/
def parameterSchemes : List String :=
  ["", "ftp", "hdl", "prospero", "http", "imap", "https", "shttp", "rtsp", "rtsps", "rtspu", "sip", "sips", "mms",
    "sftp", "tel"]

/-- The schemes in which a reference can leave out what it shares with its base. -/
def relativeSchemes : List String :=
  ["", "ftp", "http", "gopher", "nntp", "imap", "wais", "file", "https", "shttp", "mms", "prospero", "rtsp", "rtsps",
    "rtspu", "sftp", "svn", "svn+ssh", "ws", "wss"]

/-- The schemes in which an authority comes before the path. -/
def authoritySchemes : List String :=
  ["", "ftp", "http", "gopher", "nntp", "telnet", "imap", "wais", "file", "mms", "https", "shttp", "snews", "prospero",
    "rtsp", "rtsps", "rtspu", "rsync", "svn", "svn+ssh", "sftp", "nfs", "git", "git+ssh", "ws", "wss"]

def isOneOf (schemes : List String) (scheme : List Char) : Bool := schemes.contains (String.ofList scheme)

/-- A path without the parameters that follow its last segment, and those parameters. -/
def splitParameters (path : List Char) : List Char × List Char :=
  let last := (path.reverse.takeWhile (· != '/')).reverse
  (path.take (path.length - last.length) ++ (splitAt ';' last).1, (splitAt ';' last).2)

/-- The characters of a written reference that count: neither blanks in front nor tabs and line breaks. -/
def significant (characters : List Char) : List Char :=
  (characters.dropWhile (· ≤ ' ')).filter fun character => !"\t\r\n".toList.contains character

/-- The pieces of a written reference, whose scheme is the given one if it names none. -/
def read (default characters : List Char) : Except Fault Reference := do
  let (scheme, rest) := takeScheme default (significant characters)
  let (authority, rest) := takeAuthority rest
  checkBrackets authority
  let (rest, fragment) := splitAt '#' rest
  let (path, query) := splitAt '?' rest
  if authority.any fun character => equivalentsOfMarks.contains character.toNat then
    throw (.equivalents (String.ofList authority))
  let (path, parameters) := if isOneOf parameterSchemes scheme then splitParameters path else (path, [])
  return { scheme, authority, path, parameters, query, fragment }

/-- A piece after the mark that leads it, if it is there. -/
def led (mark : Char) (piece : List Char) : List Char := if piece.isEmpty then [] else mark :: piece

/-- The path after its authority, which only a path that begins with one slash can do without. -/
def placed (reference : Reference) (path : List Char) : List Char :=
  let scheme := reference.scheme
  if !reference.authority.isEmpty || (!scheme.isEmpty && isOneOf authoritySchemes scheme) ||
      ['/', '/'].isPrefixOf path then
    '/' :: '/' :: reference.authority ++ if path.isEmpty || path.head? = some '/' then path else '/' :: path
  else path

/-- The written form of a reference. -/
def write (reference : Reference) : List Char :=
  (if reference.scheme.isEmpty then [] else reference.scheme ++ [':']) ++
    reference.placed (reference.path ++ led ';' reference.parameters) ++
    led '?' reference.query ++ led '#' reference.fragment

/-- The segments with a slash between neighbours. -/
def joinSegments : List (List Char) → List Char
  | [] => []
  | [segment] => segment
  | segment :: rest => segment ++ '/' :: joinSegments rest

/-- The segments of a reference after those of the directory of its base. -/
def mergeSegments (basePath path : List Char) : List (List Char) :=
  if path.head? = some '/' then Text.splitList '/' path
  else
    let whole := Text.splitList '/' basePath
    let directory := if whole.getLast? = some [] then whole else whole.dropLast
    let segments := directory ++ Text.splitList '/' path
    segments.take 1 ++ (segments.drop 1).dropLast.filter (!·.isEmpty) ++ (segments.drop 1).drop (segments.length - 2)

/-- The segments that remain of a reference; a double dot at the root is dropped. -/
def climbSegments (kept : List (List Char)) : List (List Char) → List (List Char)
  | [] => kept.reverse
  | segment :: rest =>
      if segment = ['.', '.'] then climbSegments kept.tail rest
      else if segment = ['.'] then climbSegments kept rest
      else climbSegments (segment :: kept) rest

/-- The path of a reference, resolved against the path of its base. -/
def resolvePath (basePath path : List Char) : List Char :=
  let segments := mergeSegments basePath path
  let resolved := climbSegments [] segments
  let final := if segments.getLast? = some ['.'] || segments.getLast? = some ['.', '.'] then resolved ++ [[]]
    else resolved
  let joined := joinSegments final
  if joined.isEmpty then ['/'] else joined

/-- The reference once it is completed by its base, which has the same scheme. -/
def completed (base reference : Reference) : Reference :=
  let sharing := isOneOf authoritySchemes reference.scheme
  if sharing && !reference.authority.isEmpty then reference
  else
    let authority := if sharing then base.authority else reference.authority
    if reference.path.isEmpty && reference.parameters.isEmpty then
      { reference with
        authority
        path := base.path
        parameters := base.parameters
        query := if reference.query.isEmpty then base.query else reference.query }
    else { reference with authority, path := resolvePath base.path reference.path }

/-- What a written reference denotes when it is found at a base. -/
def resolve (base reference : List Char) : Except Fault (List Char) :=
  if base.isEmpty then .ok reference
  else if reference.isEmpty then .ok base
  else do
    let origin ← read [] base
    let target ← read origin.scheme reference
    if target.scheme ≠ origin.scheme || !isOneOf relativeSchemes target.scheme then return reference
    else return (origin.completed target).write

end Reference
end PathStore.Url
