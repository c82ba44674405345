import Mathlib.Data.List.Basic
import Mathlib.Tactic.Common

/-!
# WHATWG URLs

The URL record of the URL standard with its getters and its serializer, and the URL parser for
absolute URLs with a special scheme. A query or a fragment is optional, and one that is present may
be empty; the getters `search` and `hash` do not tell the two apart, the serializer does.

The host parser and the parsing of the other schemes are parameters.
-/

namespace Whatwg

/-- A path: a list of segments, or the text of a URL that has none. -/
inductive UrlPath where
  | segments (segments : List (List Char))
  | text (text : List Char)
deriving DecidableEq, Repr

/-- A URL record. The host is serialized. -/
structure Url where
  scheme : List Char
  username : List Char := []
  password : List Char := []
  host : Option (List Char) := none
  port : Option ℕ := none
  path : UrlPath
  query : Option (List Char) := none
  fragment : Option (List Char) := none
deriving DecidableEq, Repr

/-- What the standard leaves to other standards, or is not needed here: the host parser, the parser
of URLs whose scheme is not special, and the origin of these. -/
structure UrlPlatform where
  parseHost : List Char → Option (List Char)
  parseOther : List Char → List Char → Option Url
  otherOrigin : Url → List Char

/-! ## Percent-encode sets -/

/-- A digit or a letter `A` to `F`. -/
def hexDigit (n : ℕ) : Char := if n < 10 then Char.ofNat (0x30 + n) else Char.ofNat (0x37 + n)

/-- Percent-encode the bytes of a character. -/
def percentEncode (c : Char) : List Char :=
  (String.utf8EncodeChar c).flatMap fun byte =>
    ['%', hexDigit (byte.toNat / 16), hexDigit (byte.toNat % 16)]

/-- UTF-8 percent-encode with a percent-encode set. -/
def encode (set : Char → Bool) (text : List Char) : List Char :=
  text.flatMap fun c => if set c then percentEncode c else [c]

/-- The C0 control percent-encode set. -/
def controlSet (c : Char) : Bool := c.val < 0x20 || 0x7e < c.val

/-- The fragment percent-encode set. -/
def fragmentSet (c : Char) : Bool := controlSet c || [' ', '\x22', '<', '>', '\x60'].contains c

/-- The query percent-encode set. -/
def querySet (c : Char) : Bool := controlSet c || [' ', '\x22', '#', '<', '>'].contains c

/-- The special-query percent-encode set. -/
def specialQuerySet (c : Char) : Bool := querySet c || c == '\x27'

/-- The path percent-encode set. -/
def pathSet (c : Char) : Bool := querySet c || ['?', '^', '\x60', '\x7b', '\x7d'].contains c

/-- The userinfo percent-encode set. -/
def userinfoSet (c : Char) : Bool :=
  pathSet c || ['/', ':', ';', '=', '@', '[', '\x5c', ']', '|'].contains c

/-! ## The parser -/

/-- The special schemes with their default ports; `file` is left out. -/
def defaultPort (scheme : List Char) : Option ℕ :=
  if scheme = "ftp".toList then some 21
  else if scheme = "http".toList ∨ scheme = "ws".toList then some 80
  else if scheme = "https".toList ∨ scheme = "wss".toList then some 443
  else none

/-- The characters that separate the segments of a special URL. -/
def isSlash (c : Char) : Bool := c == '/' || c == '\x5c'

def isQueryOrFragment (c : Char) : Bool := c == '?' || c == '#'

def isTabOrNewline (c : Char) : Bool := c == '\t' || c == '\n' || c == '\r'

/-- What the parser strips from both ends. -/
def isControlOrSpace (c : Char) : Bool := c.val ≤ 0x20

/-- The input without the characters that the parser ignores. -/
def preprocess (input : List Char) : List Char :=
  (((input.dropWhile isControlOrSpace).reverse.dropWhile isControlOrSpace).reverse).filter
    fun c => !isTabOrNewline c

/-- The scheme state: the scheme in lower case, and what follows its colon. -/
def parseScheme (input : List Char) : Option (List Char × List Char) :=
  let isSchemeChar := fun c : Char => c.isAlphanum || c == '+' || c == '-' || c == '.'
  match input with
  | c :: _ =>
    if c.isAlpha then
      match input.dropWhile isSchemeChar with
      | ':' :: rest => some ((input.takeWhile isSchemeChar).map Char.toLower, rest)
      | _ => none
    else none
  | [] => none

/-- A single-dot path segment. -/
def isSingleDot (segment : List Char) : Bool :=
  ["." , "%2e"].any fun dot => segment.map Char.toLower == dot.toList

/-- A double-dot path segment. -/
def isDoubleDot (segment : List Char) : Bool :=
  ["..", ".%2e", "%2e.", "%2e%2e"].any fun dots => segment.map Char.toLower == dots.toList

/-- The end of a segment in the path state. -/
def pushSegment (path : List (List Char)) (segment : List Char) (last : Bool) :
    List (List Char) :=
  if isDoubleDot segment then if last then path.dropLast ++ [[]] else path.dropLast
  else if isSingleDot segment then if last then path ++ [[]] else path
  else path ++ [segment]

/-- The path state, from the segments as they are written. -/
def pushSegments (path : List (List Char)) : List (List Char) → List (List Char)
  | [] => path
  | [segment] => pushSegment path (encode pathSet segment) true
  | segment :: segments =>
    pushSegments (pushSegment path (encode pathSet segment) false) segments

/-- The path start state of a special URL. -/
def parsePath (input : List Char) : List (List Char) :=
  let input :=
    match input with
    | c :: rest => if isSlash c then rest else input
    | [] => []
  pushSegments [] (input.splitOnP isSlash)

/-- The port state: digits up to the end. -/
def parsePort (scheme text : List Char) : Option (Option ℕ) :=
  if text.all Char.isDigit then
    let port := text.foldl (fun n c => 10 * n + (c.toNat - 0x30)) 0
    if 65535 < port then none
    else if text.isEmpty ∨ some port = defaultPort scheme then some none
    else some (some port)
  else none

/-- The host state: the host, and what follows the first colon outside brackets. -/
def splitPort (brackets : Bool) : List Char → List Char × Option (List Char)
  | [] => ([], none)
  | c :: rest =>
    if c = ':' ∧ brackets = false then ([], some rest)
    else
      let brackets := if c = '[' then true else if c = ']' then false else brackets
      let (host, port) := splitPort brackets rest
      (c :: host, port)

/-- The authority state: the user name and the password before the last `@`, and what follows it. -/
def splitCredentials (authority : List Char) : List Char × List Char × List Char :=
  let reversed := authority.reverse
  let hostAndPort := (reversed.takeWhile (· ≠ '@')).reverse
  match reversed.dropWhile (· ≠ '@') with
  | [] => ([], [], hostAndPort)
  | _ :: credentials =>
    let credentials := credentials.reverse
    let username := credentials.takeWhile (· ≠ ':')
    (encode userinfoSet username,
      encode userinfoSet ((credentials.drop (username.length + 1))), hostAndPort)

/-- From the path start state to the end: path, query and fragment. -/
def parseRest (input : List Char) :
    List (List Char) × Option (List Char) × Option (List Char) :=
  let path := parsePath (input.takeWhile fun c => !isQueryOrFragment c)
  match input.dropWhile fun c => !isQueryOrFragment c with
  | '?' :: rest =>
    let query := encode specialQuerySet (rest.takeWhile (· ≠ '#'))
    match rest.dropWhile (· ≠ '#') with
    | _ :: fragment => (path, some query, some (encode fragmentSet fragment))
    | [] => (path, some query, none)
  | _ :: fragment => (path, none, some (encode fragmentSet fragment))
  | [] => (path, none, none)

/-- The states after the scheme, for a special scheme. -/
def parseSpecial (platform : UrlPlatform) (scheme input : List Char) : Option Url :=
  let isAuthority := fun c => !(isSlash c || isQueryOrFragment c)
  let input := input.dropWhile isSlash
  let (username, password, hostAndPort) := splitCredentials (input.takeWhile isAuthority)
  let (host, port) := splitPort false hostAndPort
  if host.isEmpty then none
  else do
    let host ← platform.parseHost host
    let port ← parsePort scheme (port.getD [])
    let (path, query, fragment) := parseRest (input.dropWhile isAuthority)
    pure { scheme, username, password, host := some host, port, path := .segments path, query
           fragment }

/-- The URL parser, without a base URL. -/
def parse (platform : UrlPlatform) (input : List Char) : Option Url :=
  match parseScheme (preprocess input) with
  | none => none
  | some (scheme, rest) =>
    if (defaultPort scheme).isSome then parseSpecial platform scheme rest
    else (platform.parseOther scheme rest).map fun url => { url with scheme }

/-! ## The serializer, the getters and the pathname setter -/

namespace Url

/-- The path serializer, and the `pathname` getter. -/
def pathname (url : Url) : List Char :=
  match url.path with
  | .segments segments => segments.flatMap fun segment => '/' :: segment
  | .text text => text

def protocol (url : Url) : List Char := url.scheme ++ [':']

def hostname (url : Url) : List Char := url.host.getD []

/-- The `port` getter. -/
def portText (url : Url) : List Char := (url.port.map (Nat.toDigits 10)).getD []

/-- The `search` getter: empty for an empty query too. -/
def search (url : Url) : List Char :=
  match url.query with
  | none | some [] => []
  | some query => '?' :: query

/-- The `hash` getter: empty for an empty fragment too. -/
def hash (url : Url) : List Char :=
  match url.fragment with
  | none | some [] => []
  | some fragment => '#' :: fragment

/-- The host with the port that follows it. -/
def hostAndPort (url : Url) : List Char :=
  match url.port with
  | none => url.hostname
  | some port => url.hostname ++ ':' :: Nat.toDigits 10 port

/-- The `origin` getter. -/
def origin (platform : UrlPlatform) (url : Url) : List Char :=
  if (defaultPort url.scheme).isSome then url.scheme ++ "://".toList ++ url.hostAndPort
  else platform.otherOrigin url

/-- The user name and the password, where the URL includes credentials. -/
def credentials (url : Url) : List Char :=
  if url.username.isEmpty && url.password.isEmpty then []
  else url.username ++ (if url.password.isEmpty then [] else ':' :: url.password) ++ ['@']

/-- What the serializer puts between the scheme and the path. -/
def authority (url : Url) : List Char :=
  match url.host, url.path with
  | some _, _ => "//".toList ++ url.credentials ++ url.hostAndPort
  | none, .segments ([] :: _ :: _) => "/.".toList
  | none, _ => []

/-- The URL serializer, `href` and `toString`. -/
def href (url : Url) : List Char :=
  url.protocol ++ url.authority ++ url.pathname ++
    (url.query.map fun query => '?' :: query).getD [] ++
    (url.fragment.map fun fragment => '#' :: fragment).getD []

/-- The `pathname` setter of a URL with a special scheme. -/
def setPathname (url : Url) (value : List Char) : Url :=
  match url.path with
  | .segments _ => { url with path := .segments (parsePath (value.filter fun c => !isTabOrNewline c)) }
  | .text _ => url

end Url

end Whatwg
