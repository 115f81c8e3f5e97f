/-
Addresses: a scheme, an authority with user, password, host and port, a path, a
query and a fragment. Reading and writing follow the rules of browsers, by
which some schemes are special: their slashes may lean either way, they always
have a host, and their default port is left out.
-/

import ArtifactCatalog.Number.Decimal
import ArtifactCatalog.Text.Blank
import ArtifactCatalog.Text.Cut
import ArtifactCatalog.Url.Host
import ArtifactCatalog.Url.Path

namespace ArtifactCatalog

inductive Url.Path where
  /-- The text of an address that names no place in a tree. -/
  | plain (text : List Char)
  | segments (segments : List (List Char))
deriving DecidableEq, Repr

/-- All parts are kept as they are written, without the marks around them. -/
structure Url where
  scheme : List Char
  username : List Char := []
  password : List Char := []
  /-- No host means no authority at all. -/
  host : Option (List Char) := none
  port : Option Nat := none
  path : Url.Path
  query : Option (List Char) := none
  fragment : Option (List Char) := none
deriving DecidableEq, Repr

namespace Url

/-! ### Schemes -/

inductive SchemeKind where
  | file
  | special
  | other
deriving DecidableEq, Repr

/-- The special schemes other than files, with their default ports. -/
def defaultPorts : List (String × Nat) :=
  [("http", 80), ("ws", 80), ("https", 443), ("wss", 443), ("ftp", 21)]

def defaultPort? (scheme : List Char) : Option Nat := defaultPorts.lookup (String.ofList scheme)

def schemeKind (scheme : List Char) : SchemeKind :=
  if scheme = "file".toList then .file
  else if (defaultPort? scheme).isSome then .special
  else .other

def isSchemeChar (c : Char) : Bool :=
  Text.isAsciiLetter c || Text.isAsciiDigit c || c == '+' || c == '-' || c == '.'

def takeScheme? (s : List Char) : Option (List Char × List Char) :=
  let scheme := s.takeWhile isSchemeChar
  match scheme, s.dropWhile isSchemeChar with
  | first :: _, ':' :: rest =>
    if Text.isAsciiLetter first then some (Text.asciiLower scheme, rest) else none
  | _, _ => none

/-! ### Authorities -/

def isSlash (kind : SchemeKind) (c : Char) : Bool := c == '/' || (kind != .other && c == '\\')

def endsAuthority (kind : SchemeKind) (c : Char) : Bool :=
  isSlash kind c || c == '?' || c == '#'

/-- Splits a host from the port behind it; a colon between brackets belongs to
the host. -/
def takeHost (inBrackets : Bool) : List Char → List Char × List Char
  | [] => ([], [])
  | c :: rest =>
    if c = ':' ∧ inBrackets = false then ([], c :: rest)
    else
      let inBrackets := if c = '[' then true else if c = ']' then false else inBrackets
      let (host, port) := takeHost inBrackets rest
      (c :: host, port)

def readHost (kind : SchemeKind) (s : List Char) : Except Fault (List Char) :=
  match kind with
  | .other => opaqueHost s
  | _ => if s.isEmpty then .error .emptyHost else specialHost s

def greatestPort : Nat := 65535

def takePort (scheme : List Char) (s : List Char) : Except Fault (Option Nat × List Char) :=
  let digits := s.takeWhile Text.isAsciiDigit
  let rest := s.dropWhile Text.isAsciiDigit
  let port := Number.ofDigits digits
  if greatestPort < port then .error .invalidPort
  else if rest.head?.any (fun c => c ∉ ['/', '\\', '?', '#']) then .error .invalidPort
  else if digits.isEmpty || defaultPort? scheme == some port then .ok (none, rest)
  else .ok (some port, rest)

def readCredentials (s : List Char) : List Char × List Char :=
  let (username, password) := (Text.cutFirst ':' s).getD (s, [])
  (percentEncode inUserInfo username, percentEncode inUserInfo password)

def readAuthority (kind : SchemeKind) (scheme s : List Char) :
    Except Fault (Url × List Char) := do
  let authority := s.takeWhile (!endsAuthority kind ·)
  let rest := s.dropWhile (!endsAuthority kind ·)
  let (userInfo, hostAndPort) ← match Text.cutLast '@' authority with
    | none => .ok ([], authority)
    | some ([], []) => if rest.isEmpty then .ok ([], []) else .error .emptyHost
    | some parts => .ok parts
  let (username, password) := readCredentials userInfo
  let (hostText, portText) := takeHost false hostAndPort
  let host ← readHost kind hostText
  let (port, rest) ← match portText with
    | [] => .ok (none, rest)
    | _ :: digits => if host.isEmpty then .error .emptyHost else takePort scheme (digits ++ rest)
  if host.isEmpty && !(username.isEmpty && password.isEmpty) then .error .emptyHost
  return ({ scheme, username, password, host := some host, port, path := .segments [] }, rest)

/-! ### Paths, queries and fragments -/

def endsPath (c : Char) : Bool := c == '?' || c == '#'

def withTail (url : Url) (s : List Char) : Url :=
  let special := schemeKind url.scheme != .other
  let readFragment : List Char → Option (List Char)
    | '#' :: fragment => some (percentEncode inFragment fragment)
    | _ => none
  match s with
  | '?' :: rest =>
    { url with
      query := some (percentEncode (inQuery special) (rest.takeWhile (· != '#')))
      fragment := readFragment (rest.dropWhile (· != '#')) }
  | s => { url with fragment := readFragment s }

def withPath (kind : SchemeKind) (url : Url) (s : List Char) : Url :=
  let text := s.takeWhile (!endsPath ·)
  let tail := s.dropWhile (!endsPath ·)
  let path := match text with
    | [] => if kind = .other then [] else [[]]
    | c :: rest =>
      readSegments (kind == .file) (isSlash kind) (if isSlash kind c then rest else c :: rest)
  withTail { url with path := .segments path } tail

/-- A path of a file address begins with one slash, whatever its text begins with. -/
def dropLeadingEmpty : List (List Char) → List (List Char)
  | [] :: second :: rest => dropLeadingEmpty (second :: rest)
  | path => path

/-- An address of a file: a host that is this machine is left out, and so is
one in front of a drive. -/
def readFile (scheme s : List Char) : Except Fault Url := do
  let (host, rest) ← match s with
    | a :: b :: rest =>
      if isSlash .file a && isSlash .file b then
        let hostText := rest.takeWhile (!endsAuthority .file ·)
        let behind := rest.dropWhile (!endsAuthority .file ·)
        if isDriveLetter hostText then .ok ([], rest)
        else if hostText.isEmpty then .ok ([], behind)
        else (specialHost hostText).map fun host =>
          (if host = "localhost".toList then [] else host, behind)
      else .ok ([], s)
    | _ => .ok ([], s)
  let url := withPath .file { scheme, host := some host, path := .segments [] } rest
  match url.path with
  | .segments path =>
    let hasDrive := isDriveOnly (path.take 1)
    return { url with
      host := some (if hasDrive then [] else host), path := .segments (dropLeadingEmpty path) }
  | .plain _ => return url

def readOther (scheme s : List Char) : Except Fault Url :=
  match s with
  | '/' :: '/' :: rest => do
    let (url, rest) ← readAuthority .other scheme rest
    return withPath .other url rest
  | '/' :: _ => .ok (withPath .other { scheme, path := .segments [] } s)
  | _ =>
    let text := percentEncode isControl (s.takeWhile (!endsPath ·))
    .ok (withTail { scheme, path := .plain text } (s.dropWhile (!endsPath ·)))

/-! ### Whole addresses -/

def isTabOrLineBreak (c : Char) : Bool := c.toNat = 9 || c.toNat = 10 || c.toNat = 13

/-- The text that is read: without control characters and spaces at its ends,
and without tabs and line breaks anywhere. -/
def strip (s : List Char) : List Char :=
  (Text.stripWhile (·.toNat ≤ 0x20) s).filter (!isTabOrLineBreak ·)

def read (s : List Char) : Except Fault Url :=
  match takeScheme? (strip s) with
  | none => .error .noScheme
  | some (scheme, rest) =>
    match schemeKind scheme with
    | .file => readFile scheme rest
    | .special => do
      let (url, rest) ← readAuthority .special scheme (rest.dropWhile (isSlash .special))
      return withPath .special url rest
    | .other => readOther scheme rest

def parse (s : String) : Except Fault Url := read s.toList

def pathText (url : Url) : List Char :=
  match url.path with
  | .plain text => text
  | .segments segments =>
    let text := segments.flatMap ('/' :: ·)
    match url.host, segments with
    | none, [] :: _ :: _ => '/' :: '.' :: text
    | _, _ => text

def credentialText (url : Url) : List Char :=
  if url.username.isEmpty && url.password.isEmpty then []
  else
    url.username ++ (if url.password.isEmpty then [] else ':' :: url.password) ++ ['@']

def authorityText (url : Url) : List Char :=
  match url.host with
  | none => []
  | some host =>
    '/' :: '/' :: (url.credentialText ++ host ++
      (match url.port with
        | some port => ':' :: Number.natDigits port
        | none => []))

def write (url : Url) : List Char :=
  url.scheme ++ ':' :: (url.authorityText ++ url.pathText ++
    (match url.query with
      | some query => '?' :: query
      | none => []) ++
    (match url.fragment with
      | some fragment => '#' :: fragment
      | none => []))

def render (url : Url) : String := String.ofList url.write

/-! ### Masking -/

def mask : List Char := "***".toList

def masked (url : Url) : Url := if url.password.isEmpty then url else { url with password := mask }

/-- A text with its password masked. A text that is no address loses all in
front of its last at sign. -/
def maskText (s : List Char) : List Char :=
  match read s with
  | .ok url => url.masked.write
  | .error _ =>
    match Text.cutLast '@' s with
    | some (_, host) => mask ++ '@' :: host
    | none => s

def maskPassword (s : String) : String := String.ofList (maskText s.toList)

end Url

end ArtifactCatalog
