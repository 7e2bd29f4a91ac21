/-
This file holds URLs in normal form.
-/
import PathStore.Url.Escape
import PathStore.Url.HostName
import PathStore.Url.Reference

namespace PathStore.Url

open Reference (splitBefore isSchemeCharacter isAsciiLetter)

/-- The components of a URL as they are written. -/
structure Parts where
  scheme : Option (List Char)
  authority : Option (List Char)
  path : List Char
  query : Option (List Char)
  fragment : Option (List Char)

/-- The scheme before a colon, which may be empty, and the rest. -/
def splitScheme (characters : List Char) : Option (List Char) × List Char :=
  let scheme := characters.takeWhile isSchemeCharacter
  match scheme, characters.drop scheme.length with
  | [], ':' :: rest => (some [], rest)
  | first :: _, ':' :: rest => if isAsciiLetter first then (some scheme, rest) else (none, characters)
  | _, _ => (none, characters)

def splitAuthority : List Char → Option (List Char) × List Char
  | '/' :: '/' :: rest =>
      let (authority, rest) := splitBefore (fun character => character = '/' || character = '?' || character = '#') rest
      (some authority, rest)
  | characters => (none, characters)

/-- The components of a written URL. -/
def Parts.ofList (characters : List Char) : Parts :=
  let (scheme, rest) := splitScheme characters
  let (authority, rest) := splitAuthority rest
  let (path, rest) := splitBefore (fun character => character = '?' || character = '#') rest
  let (query, rest) := match rest with
    | '?' :: rest => let (query, rest) := splitBefore (· = '#') rest; (some query, rest)
    | rest => (none, rest)
  let fragment := match rest with
    | '#' :: rest => some rest
    | _ => none
  ⟨scheme, authority, path, query, fragment⟩

/-- Why a text is no URL. -/
inductive Invalid where
  | tooLong
  | control (character : Char) (position : Nat)
  | longComponent (name : String)
  | controlInComponent (name : String) (character : Char) (position : Nat)
  | port (text : String)
  | addressV4 (host : String)
  | addressV6 (host : String)
  | hostName (host : String)
  | doubleSlash
  | leadingColon
  | unrootedPath
  deriving DecidableEq, Repr

def Invalid.message : Invalid → String
  | .tooLong => "URL too long"
  | .control character position =>
      "Invalid non-printable ASCII character in URL, " ++ Text.quoted (String.singleton character) ++
        " at position " ++ toString position ++ "."
  | .longComponent name => "URL component '" ++ name ++ "' too long"
  | .controlInComponent name character position =>
      "Invalid non-printable ASCII character in URL " ++ name ++ " component, " ++
        Text.quoted (String.singleton character) ++ " at position " ++ toString position ++ "."
  | .port text => "Invalid port: " ++ Text.quoted text
  | .addressV4 host => "Invalid IPv4 address: " ++ Text.quoted host
  | .addressV6 host => "Invalid IPv6 address: " ++ Text.quoted host
  | .hostName host => "Invalid IDNA hostname: " ++ Text.quoted host
  | .doubleSlash => "Relative URLs cannot have a path starting with '//'"
  | .leadingColon => "Relative URLs cannot have a path starting with ':'"
  | .unrootedPath => "For absolute URLs, path must be empty or begin with '/'"

/-- A URL in normal form. -/
structure Address where
  scheme : String
  userInfo : String
  host : String
  port : Option Int
  path : String
  query : Option String
  fragment : Option String
  deriving DecidableEq, Repr

/-- The printable ASCII characters other than the listed ones. -/
def isSafeExcept (unsafeCharacters : String) (character : Char) : Bool :=
  0x20 ≤ character.toNat ∧ character.toNat < 0x7F ∧ !unsafeCharacters.toList.contains character

def fragmentSafe : Char → Bool := isSafeExcept " \"<>\u0060"
def querySafe : Char → Bool := isSafeExcept " \"#<>"
def pathSafe : Char → Bool := isSafeExcept " \"#<>?\u0060\x7b\x7d"
def userInfoSafe : Char → Bool := isSafeExcept " \"#<>?\u0060\x7b\x7d/;=@[\\]^|"

def hostSafe (character : Char) : Bool := "!$&'()*+,;=\"\u0060\x7b\x7d%|\\".toList.contains character

/-- The characters with escapes for the unsafe ones, where escapes that are there already stay. -/
def normalizeEscapes (isSafe : Char → Bool) : List Char → List Char
  | [] => []
  | '%' :: high :: low :: rest =>
      if (Bytes.hexValue? high).isSome && (Bytes.hexValue? low).isSome then
        '%' :: high :: low :: normalizeEscapes isSafe rest
      else escapeUnless isSafe ['%'] ++ normalizeEscapes isSafe (high :: low :: rest)
  | character :: rest => escapeUnless isSafe [character] ++ normalizeEscapes isSafe rest

/-- The segments that remain when dots are dropped and each double dot removes the one before it. -/
def resolveSegments (kept : List (List Char)) : List (List Char) → List (List Char)
  | [] => kept.reverse
  | segment :: rest =>
      if segment = ['.'] then resolveSegments kept rest
      else if segment = ['.', '.'] then
        resolveSegments (if kept = [] ∨ kept = [[]] then kept else kept.tail) rest
      else resolveSegments (segment :: kept) rest

/-- The path without its dot segments. -/
def removeDots (path : List Char) : List Char :=
  let segments := Text.splitList '/' path
  if segments.contains ['.'] || segments.contains ['.', '.'] then
    Reference.joinSegments (resolveSegments [] segments)
  else path

def defaultPort? (scheme : String) : Option Int :=
  match scheme with
  | "ftp" => some 21
  | "http" | "ws" => some 80
  | "https" | "wss" => some 443
  | _ => none

/-- The port that a text spells, without the default of the scheme. -/
def normalPort (scheme : String) (text : List Char) : Except Invalid (Option Int) :=
  if text.isEmpty then .ok none
  else
    match Numeral.integer? (String.ofList text) with
    | none => .error (.port (String.ofList text))
    | some port => .ok (if defaultPort? scheme = some port then none else some port)

/-- Four runs of digits with dots between them. -/
def looksLikeVersion4 (host : List Char) : Bool :=
  let groups := Text.splitList '.' host
  groups.length = 4 && groups.all fun group => !group.isEmpty && group.all Numeral.isDigit

/-- Whether a host stands in brackets. -/
def isBracketed (host : List Char) : Bool := 2 ≤ host.length && host.head? = some '[' && host.getLast? = some ']'

def normalHost (host : List Char) : Except Invalid String :=
  if host.isEmpty then .ok ""
  else if looksLikeVersion4 host then
    if IpAddress.isVersion4 host then .ok (String.ofList host) else .error (.addressV4 (String.ofList host))
  else if isBracketed host then
    let inner := (host.drop 1).dropLast
    if IpAddress.isVersion6 inner then .ok (String.ofList inner) else .error (.addressV6 (String.ofList host))
  else if host.all (·.toNat < 0x80) then
    .ok (String.ofList (normalizeEscapes hostSafe (host.map Char.toLower)))
  else
    match HostName.encode (Text.lowercase host) with
    | .ok encoded => .ok (String.ofList encoded)
    | .error _ => .error (.hostName (String.ofList host))

/-- The user before the last at sign, and the host and port after it. -/
def splitUserInfo (authority : List Char) : List Char × List Char :=
  if authority.contains '@' then
    let after := Reference.afterUser authority
    (authority.take (authority.length - after.length - 1), after)
  else ([], authority)

/-- The host and the text of the port. -/
def splitPort (hostAndPort : List Char) : List Char × List Char :=
  let host :=
    if hostAndPort.head? = some '[' && hostAndPort.contains ']' then
      (hostAndPort.reverse.dropWhile (· != ']')).reverse
    else hostAndPort.takeWhile (· != ':')
  match hostAndPort.drop host.length with
  | ':' :: port => (host, port)
  | port => (host, port)

/-- A component with escapes for its unsafe characters. -/
def escaped (isSafe : Char → Bool) (component : List Char) : String :=
  String.ofList (normalizeEscapes isSafe component)

/-- Fails if a path does not fit what comes before it. -/
def checkPath (hasScheme hasAuthority : Bool) (path : List Char) : Except Invalid Unit := do
  if hasAuthority && !path.isEmpty && path.head? != some '/' then throw .unrootedPath
  if !hasScheme && !hasAuthority then
    if ['/', '/'].isPrefixOf path then throw .doubleSlash
    if [':'].isPrefixOf path then throw .leadingColon

/-- The normal form of the given components, where another host may take the place of that of the authority. -/
def Address.ofParts (parts : Parts) (otherHost : Option (List Char) := none) : Except Invalid Address := do
  let scheme := parts.scheme.getD []
  let (userInfo, hostAndPort) := splitUserInfo (parts.authority.getD [])
  let (writtenHost, portText) := splitPort hostAndPort
  let userInfo := escaped userInfoSafe userInfo
  let host ← normalHost (otherHost.getD writtenHost)
  let port ← normalPort (String.ofList scheme) portText
  let hasAuthority := userInfo ≠ "" || host ≠ "" || port.isSome
  checkPath (!scheme.isEmpty) hasAuthority parts.path
  return {
    scheme := String.ofList (scheme.map Char.toLower)
    userInfo, host, port
    path := escaped pathSafe (if !scheme.isEmpty || hasAuthority then removeDots parts.path else parts.path)
    query := parts.query.map (escaped querySafe)
    fragment := parts.fragment.map (escaped fragmentSafe) }

/-- The position of the first control character. -/
def findControl? (position : Nat) : List Char → Option (Char × Nat)
  | [] => none
  | character :: rest =>
      if character.toNat < 0x20 ∨ character.toNat = 0x7F then some (character, position)
      else findControl? (position + 1) rest

/-- The most characters of a URL and of each of its components. -/
def longestUrl : Nat := 65536

/-- The normal form of a written URL. -/
def Address.read (text : String) : Except Invalid Address := do
  let characters := text.toList
  if longestUrl < characters.length then throw .tooLong
  match findControl? 0 characters with
  | some (character, position) => throw (.control character position)
  | none => Address.ofParts (Parts.ofList characters)

/-- The host, in brackets if it holds colons, and the port after it. -/
def Address.authority (address : Address) : String :=
  (if address.userInfo = "" then "" else address.userInfo ++ "@") ++
    (if address.host.toList.contains ':' then "[" ++ address.host ++ "]" else address.host) ++
    (match address.port with
      | some port => ":" ++ toString port
      | none => "")

/-- The written form of a URL. -/
def Address.write (address : Address) : String :=
  (if address.scheme = "" then "" else address.scheme ++ ":") ++
    (if address.authority = "" then "" else "//" ++ address.authority) ++ address.path ++
    (match address.query with
      | some query => "?" ++ query
      | none => "") ++
    (match address.fragment with
      | some fragment => "#" ++ fragment
      | none => "")

/-- A URL that names a scheme and a host stands on its own. -/
def Address.isAbsolute (address : Address) : Bool := address.scheme ≠ "" && address.host ≠ ""

/-- The name of the host, beyond ASCII if it stands for such a name. -/
def Address.hostName (address : Address) : Except HostName.Fault String :=
  if HostName.mark.isPrefixOf address.host.toList then
    (HostName.decode address.host.toList).map String.ofList
  else .ok address.host

/-- The port of a request for a URL, as far as its scheme tells one. -/
def Address.servicePort (address : Address) : Option Int :=
  address.port.or (if address.scheme = "http" then some 80 else if address.scheme = "https" then some 443 else none)

/-- Two URLs have the same origin if scheme, host and port agree. -/
def Address.sameOrigin (first second : Address) : Except HostName.Fault Bool := do
  if first.scheme ≠ second.scheme then return false
  return (← first.hostName) = (← second.hostName) && first.servicePort = second.servicePort

/-- Fails if a component is too long or holds a control character. -/
def checkComponent (name : String) (component : List Char) : Except Invalid Unit :=
  if longestUrl < component.length then .error (.longComponent name)
  else
    match findControl? 0 component with
    | some (character, position) => .error (.controlInComponent name character position)
    | none => .ok ()

/-- Fails if one of the components is too long or holds a control character. -/
def Parts.check (parts : Parts) : Except Invalid Unit := do
  checkComponent "scheme" (parts.scheme.getD [])
  checkComponent "authority" (parts.authority.getD [])
  checkComponent "path" parts.path
  checkComponent "query" (parts.query.getD [])
  checkComponent "fragment" (parts.fragment.getD [])

/-- The components of a URL in normal form. -/
def Address.parts (address : Address) : Parts :=
  ⟨some address.scheme.toList, some address.authority.toList, address.path.toList, address.query.map String.toList,
    address.fragment.map String.toList⟩

/-- The URL with the given host in place of its own. -/
def Address.withHost (address : Address) (host : String) : Except Invalid Address := do
  let characters := host.toList
  let written := if characters.contains ':' && !isBracketed characters then '[' :: characters ++ [']'] else characters
  address.parts.check
  checkComponent "host" written
  Address.ofParts address.parts (some written)

/-- The URL with the given fragment in place of its own. -/
def Address.withFragment (address : Address) (fragment : String) : Except Invalid Address := do
  let parts := { address.parts with fragment := some fragment.toList }
  parts.check
  Address.ofParts parts

/-- A URL that does not stand on its own becomes a path below the root. -/
def Address.rooted (address : Address) : Except Invalid Address := do
  if address.isAbsolute then return address
  let path := '/' :: address.path.toList.dropWhile (· = '/')
  let parts : Parts := ⟨none, none, path, address.query.map String.toList, none⟩
  parts.check
  Address.ofParts parts

end PathStore.Url
