import Mjpeg.Url.Host

/-!
# URLs

A URL is read into its components, and rendered from them in normal form: scheme and domain
name in lower case, no default port, no dot segments in the path, and percent-encoding where a
character may not stand for itself.

The schemes of the web take any number of slashes or backslashes before the host and always
have one. Other schemes have a host only behind two slashes; a URL of theirs without a slash
behind the scheme has an opaque rest.

`redacted` renders a URL with three asterisks for its password.
-/

namespace Mjpeg

/-- A URL in its components, each as it is rendered. -/
structure Url where
  scheme : List Char
  username : List Char
  password : Option (List Char)
  host : Option (List Char)
  /-- The port, unless it is the default one. -/
  port : Option Nat
  path : List Char
  query : Option (List Char)
  fragment : Option (List Char)
  deriving Repr, DecidableEq

namespace Url

/-! ### Rendering -/

/-- The user name and password before the host. -/
def renderUserinfo (u : Url) : List Char :=
  match u.password with
  | some password => u.username ++ ':' :: password ++ ['@']
  | none => if u.username.isEmpty then [] else u.username ++ ['@']

/-- The text of a URL. Two slashes at the start of the path could be taken for the start of an
authority where there is none, so a dot segment precedes them there. -/
def render (u : Url) : String :=
  let authority := match u.host with
    | none => if ['/', '/'].isPrefixOf u.path then ['/', '.'] else []
    | some host =>
      ['/', '/'] ++ u.renderUserinfo ++ host ++
        match u.port with
        | none => []
        | some port => ':' :: (toString port).toList
  let query := match u.query with
    | none => []
    | some query => '?' :: query
  let fragment := match u.fragment with
    | none => []
    | some fragment => '#' :: fragment
  String.ofList (u.scheme ++ [':'] ++ authority ++ u.path ++ query ++ fragment)

/-- The text of a URL with its password masked. -/
def redacted (u : Url) : String :=
  render { u with password := u.password.map fun _ => ['*', '*', '*'] }

/-! ### Schemes -/

/-- The schemes of the web, whose addresses always have a host. -/
def isWebScheme (scheme : List Char) : Bool :=
  ["http", "https", "ws", "wss", "ftp"].contains (String.ofList scheme)

/-- The port that is left out. -/
def defaultPort? (scheme : List Char) : Option Nat :=
  match String.ofList scheme with
  | "http" | "ws" => some 80
  | "https" | "wss" => some 443
  | "ftp" => some 21
  | _ => none

/-- A character of a scheme behind the first. -/
def isSchemeChar (c : Char) : Bool := c.isAlphanum || c == '+' || c == '-' || c == '.'

/-- The scheme in lower case, and what stands behind its colon. -/
def splitScheme? (cs : List Char) : Option (List Char × List Char) :=
  match cs.head?, cs.dropWhile isSchemeChar with
  | some c, ':' :: rest =>
    if c.isAlpha then some ((cs.takeWhile isSchemeChar).map Char.toLower, rest) else none
  | _, _ => none

/-! ### Authority -/

/-- The characters that end an authority. -/
def endsAuthority (web : Bool) (c : Char) : Bool :=
  c == '/' || c == '?' || c == '#' || (web && c == '\\')

/-- The text before the last `@` and behind it. -/
def splitLastAt (cs : List Char) : Option (List Char × List Char) :=
  if cs.contains '@' then
    let behind := (cs.reverse.takeWhile (· != '@')).reverse
    some (cs.take (cs.length - behind.length - 1), behind)
  else none

/-- The user name and the password of a userinfo. An empty password is none. -/
def parseUserinfo (cs : List Char) : List Char × Option (List Char) :=
  let username := cs.takeWhile (· != ':')
  match cs.dropWhile (· != ':') with
  | [] | [_] => (encode userinfoSet username, none)
  | _ :: password => (encode userinfoSet username, some (encode userinfoSet password))

/-- The host and what stands behind it: a colon within brackets belongs to the host. -/
def splitHost (inBrackets : Bool) : List Char → List Char × List Char
  | [] => ([], [])
  | c :: cs =>
    if c == ':' && !inBrackets then ([], c :: cs)
    else
      let inBrackets := if c == '[' then true else if c == ']' then false else inBrackets
      let (host, rest) := splitHost inBrackets cs
      (c :: host, rest)

/-- The port behind a host, which has 16 bits, and the text behind it, which is none or starts
with a backslash. No digits are no port. -/
def parsePort (scheme : List Char) : List Char → Except ParseError (Option Nat × List Char)
  | [] => .ok (none, [])
  | _ :: cs =>
    let digits := cs.takeWhile (· != '\\')
    let rest := cs.dropWhile (· != '\\')
    match numeral? 10 digits with
    | none => .error .invalidPort
    | some n =>
      if n ≥ UInt16.size then .error .invalidPort
      else if digits.isEmpty || defaultPort? scheme = some n then .ok (none, rest)
      else .ok (some n, rest)

/-- The host and the port of an authority, and the text behind them. -/
def parseHostAndPort (scheme cs : List Char) :
    Except ParseError (List Char × Option Nat × List Char) := do
  let (host, behind) := splitHost false cs
  let web := isWebScheme scheme
  if host.isEmpty && (web || !behind.isEmpty) then throw .emptyHost
  let host ← if web then parseWebHost host else parseOpaqueHost host
  return (host, ← parsePort scheme behind)

/-! ### Path -/

/-- One dot, of which each may be percent-encoded. -/
def isDot (cs : List Char) : Bool :=
  [".", "%2e"].contains (String.ofList (cs.map Char.toLower))

/-- Two dots, of which each may be percent-encoded. -/
def isDoubleDot (cs : List Char) : Bool :=
  ["..", "%2e.", ".%2e", "%2e%2e"].contains (String.ofList (cs.map Char.toLower))

/-- A segment that names a drive: a letter and a colon, or a bar that stands for one. -/
def isDrive : List Char → Bool
  | [letter, mark] => letter.isAlpha && (mark == ':' || mark == '|')
  | _ => false

/-- The segments without the last one, which comes first. A drive is never left out. -/
def leaveOut : List (List Char) → List (List Char)
  | [] => []
  | segment :: before =>
    if isDrive (segment.takeWhile (· != '\\')) then segment :: before else before

/-- The segments of a path with the dot segments carried out: a dot stands for nothing, two
dots for leaving out the segment before. At the end both leave an empty segment. `before` holds
the segments so far, the last one first. -/
def resolveSegments (before : List (List Char)) : List (List Char) → List (List Char)
  | [] => before.reverse
  | [segment] =>
    if isDoubleDot segment then ([] :: leaveOut before).reverse
    else if isDot segment then ([] :: before).reverse
    else (encode pathSet segment :: before).reverse
  | segment :: segments =>
    if isDoubleDot segment then resolveSegments (leaveOut before) segments
    else if isDot segment then resolveSegments before segments
    else resolveSegments (encode pathSet segment :: before) segments

/-- The segments of a path. -/
def parseSegments (web : Bool) (cs : List Char) : List (List Char) :=
  let isSlash := fun c => c == '/' || (web && c == '\\')
  let segments := match cs with
    | [] => [[]]
    | c :: rest => Text.splitAll isSlash (if isSlash c then rest else c :: rest)
  resolveSegments [] segments

/-- A slash before each segment. -/
def renderSegments (segments : List (List Char)) : List Char := segments.flatMap ('/' :: ·)

/-- A path behind an authority: a web address always has one. -/
def parsePath (web : Bool) (cs : List Char) : List Char :=
  if cs.isEmpty && !web then [] else renderSegments (parseSegments web cs)

/-! ### Parsing -/

/-- What stands before the first `c`, and what stands behind it if there is one. -/
def cut (c : Char) (cs : List Char) : List Char × Option (List Char) :=
  (cs.takeWhile (· != c),
    match cs.dropWhile (· != c) with
    | [] => none
    | _ :: rest => some rest)

/-- The components from the path on. -/
structure Tail where
  path : List Char
  query : Option (List Char)
  fragment : Option (List Char)

/-- The path as it is written, and the query and the fragment behind it. -/
def splitTail (web : Bool) (cs : List Char) : Tail :=
  let (rest, fragment) := cut '#' cs
  let (path, query) := cut '?' rest
  { path
    query := query.map (encode (if web then '\x27' :: querySet else querySet))
    fragment := fragment.map (encode fragmentSet) }

/-- A URL from what stands behind the slashes before its authority. Where a host may be empty,
it may be so only without a user. -/
def parseAuthority (scheme cs : List Char) : Except ParseError Url := do
  let web := isWebScheme scheme
  let authority := cs.takeWhile fun c => !endsAuthority web c
  let rest := cs.dropWhile fun c => !endsAuthority web c
  -- a lone `@` announces a user and a host and names neither
  if authority == ['@'] && !rest.isEmpty then throw .emptyHost
  let (userinfo, hostAndPort) := (splitLastAt authority).getD ([], authority)
  let (username, password) := parseUserinfo userinfo
  let (host, port, behind) ← parseHostAndPort scheme hostAndPort
  let tail := splitTail web (behind ++ rest)
  if host.isEmpty && (!username.isEmpty || password.isSome) then throw .emptyHost
  return { tail with
    scheme, username, password, host := some host, port, path := parsePath web tail.path }

/-- The segments of the path of a file: a drive is written with a colon, and no empty segment
stands before another. -/
def fileSegments (segments : List (List Char)) : List (List Char) :=
  let named := (segments.map fun s => if isDrive s then s.take 1 ++ [':'] else s).dropWhile
    (·.isEmpty)
  if named.isEmpty then [[]] else named

/-- A URL of the scheme `file`. Two slashes may precede a host; it is empty otherwise, and also
where the path names a drive. -/
def parseFile (scheme cs : List Char) : Except ParseError Url := do
  let isSlash := fun c => c == '/' || c == '\\'
  let (named, rest) :=
    if (cs.take 2).length == 2 && (cs.take 2).all isSlash then
      let cs := cs.drop 2
      let named := cs.takeWhile (!endsAuthority true ·)
      if isDrive named then ([], cs) else (named, cs.drop named.length)
    else ([], cs)
  let host ← if named.isEmpty then pure [] else parseWebHost named
  let tail := splitTail true rest
  let segments := fileSegments (parseSegments true tail.path)
  let host := if host == "localhost".toList || segments.any isDrive then [] else host
  return { tail with
    scheme, username := [], password := none, host := some host, port := none
    path := renderSegments segments }

/-- A text without the blanks and controls around it and the tabs and line ends within. -/
def strip (cs : List Char) : List Char :=
  let isEdge := fun (c : Char) => c.toNat ≤ 0x20
  let inner := ((cs.dropWhile isEdge).reverse.dropWhile isEdge).reverse
  inner.filter fun c => c != '\t' && c != '\n' && c != '\r'

/-- The URL that a text spells. -/
def parse (text : String) : Except ParseError Url :=
  match splitScheme? (strip text.toList) with
  | none => .error .noScheme
  | some (scheme, rest) =>
    if isWebScheme scheme then
      parseAuthority scheme (rest.dropWhile fun c => c == '/' || c == '\\')
    else if scheme == "file".toList then parseFile scheme rest
    else match rest with
      | '/' :: '/' :: rest => parseAuthority scheme rest
      | rest =>
        let tail := splitTail false rest
        let path :=
          if rest.head? = some '/' then renderSegments (parseSegments false tail.path)
          else encode [] tail.path
        .ok { tail with
          scheme, username := [], password := none, host := none, port := none, path }

end Url

end Mjpeg
