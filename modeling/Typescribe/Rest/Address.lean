import Typescribe.Decimal.Whole
import Typescribe.Fault
import Typescribe.Host.Name
import Typescribe.Text.LowerCase
import Typescribe.Text.Percent

/-!
This module contains the addresses of web resources: how a text is read as one, and how a path is
put behind the address of a server.
-/

namespace Typescribe.Rest

/-- An address. The parts are percent-encoded; an absent query or fragment has no mark either. -/
structure Address where
  scheme : List Char := []
  userInfo : List Char := []
  host : List Char := []
  portNumber : Option Int := none
  path : List Char := []
  query : Option (List Char) := none
  fragment : Option (List Char) := none
deriving DecidableEq, Repr

namespace Address

def fragmentReserved : List Char := [' ', '"', '<', '>', Char.ofNat 0x60]

def queryReserved : List Char := [' ', '"', '#', '<', '>']

def pathReserved : List Char := queryReserved ++ ['?', Char.ofNat 0x60, '{', '}']

def userReserved : List Char := pathReserved ++ ['/', ';', '=', '@', '[', '\\', ']', '^', '|']

/-- A character on its own: percent-encoded if it is reserved or not printable ASCII. -/
def encodeChar (reserved : List Char) (c : Char) : List Char :=
  if 0x20 ≤ c.toNat && c.toNat < 0x7F && !reserved.contains c then [c]
  else (Text.encodeUtf8Char c).flatMap Text.percentByte

/-- A text with its reserved characters percent-encoded; what is encoded already stays. -/
def encode (reserved : List Char) : List Char → List Char
  | [] => []
  | '%' :: high :: low :: rest =>
    if (Text.hexValue? high).isSome && (Text.hexValue? low).isSome then
      '%' :: high :: low :: encode reserved rest
    else
      encodeChar reserved '%' ++ encode reserved (high :: low :: rest)
  | c :: rest => encodeChar reserved c ++ encode reserved rest

/--
The segments of a path without single points; a double point takes the segment before it away.
-/
def dropPoints : (kept : List (List Char)) → List (List Char) → List (List Char)
  | kept, [] => kept.reverse
  | kept, segment :: segments =>
    if segment = ['.'] then dropPoints kept segments
    else if segment = ['.', '.'] then
      dropPoints (if kept = [[]] then kept else kept.tail) segments
    else dropPoints (segment :: kept) segments

def normalPath (path : List Char) : List Char :=
  ['/'].intercalate (dropPoints [] (Text.splitAt '/' path))

def defaultPort? (scheme : List Char) : Option Int :=
  [("ftp", 21), ("http", 80), ("https", 443), ("ws", 80), ("wss", 443)].lookup
    (String.ofList scheme)

/-- The parts of a text that is read as an address, before any of them is looked at. -/
structure Parts where
  scheme : List Char := []
  authority : List Char := []
  path : List Char := []
  query : Option (List Char) := none
  fragment : Option (List Char) := none
deriving DecidableEq, Repr

def splitScheme (cs : List Char) : List Char × List Char :=
  match Text.cutAt ':' cs with
  | some (scheme, rest) =>
    let letters := fun c : Char => c.isAlphanum || c = '+' || c = '.' || c = '-'
    if scheme.isEmpty || (scheme.all letters && (scheme.head?.map Char.isAlpha).getD false) then
      (scheme, rest)
    else ([], cs)
  | none => ([], cs)

def splitAuthority : List Char → List Char × List Char
  | '/' :: '/' :: rest =>
    let inside := fun c : Char => c ≠ '/' && c ≠ '?' && c ≠ '#'
    (rest.takeWhile inside, rest.dropWhile inside)
  | cs => ([], cs)

def splitMarked (mark : Char) (cs : List Char) : List Char × Option (List Char) :=
  match Text.cutAt mark cs with
  | some (before, after) => (before, some after)
  | none => (cs, none)

def Parts.ofText (cs : List Char) : Parts :=
  let (scheme, rest) := splitScheme cs
  let (authority, rest) := splitAuthority rest
  let (rest, fragment) := splitMarked '#' rest
  let (path, query) := splitMarked '?' rest
  { scheme, authority, path, query, fragment }

def cutAtLast (mark : Char) (cs : List Char) : Option (List Char × List Char) :=
  (Text.cutAt mark cs.reverse).map fun (after, before) => (before.reverse, after.reverse)

/-- Splits a host from what follows it: a host in brackets can hold colons. -/
def splitHost (cs : List Char) : List Char × List Char :=
  match cs.head?, cutAtLast ']' cs with
  | some '[', some (inside, rest) => (inside ++ [']'], rest)
  | _, _ => (cs.takeWhile (· ≠ ':'), cs.dropWhile (· ≠ ':'))

/--
Reads a port number behind a colon, as any whole number; nothing stands for the default of the
scheme.
-/
def readPort? (scheme : List Char) (cs : List Char) : Option (Option Int) :=
  let digits := if cs.head? = some ':' then cs.tail else cs
  if digits.isEmpty then some none
  else
    match Decimal.readWhole 10 digits with
    | .number n => some (if defaultPort? scheme = some n then none else some n)
    | _ => none

def hostReserved : List Char := [' ', '#', '/', ':', '<', '>', '?', '@', '[', ']', '^']

/--
The form of a host: a numeric one as it is, without brackets, and a name in lower case and in ASCII.
-/
def normalHost? (host : List Char) : Option (List Char) :=
  if Host.looksLikeNumbers host then
    if Host.isFourNumbers host then some host else none
  else if host.head? = some '[' && host.getLast? = some ']' then
    let inside := host.tail.dropLast
    if Host.isGroupAddress inside then some inside else none
  else if host.all (·.toNat < 0x80) then
    some (encode hostReserved (host.map Char.toLower))
  else Host.asciiName? (Text.lowerCase host)

def isControl (c : Char) : Bool :=
  c.toNat < 0x20 || c.toNat = 0x7F

def maxLength : Nat := 65536

def isSound (cs : List Char) : Bool :=
  cs.length ≤ maxLength && !cs.any isControl

def Parts.areSound (parts : Parts) : Bool :=
  [parts.scheme, parts.authority, parts.path, parts.query.getD [], parts.fragment.getD []].all
    isSound

def pathFits (hasScheme hasHost : Bool) (path : List Char) : Bool :=
  if hasHost then path.isEmpty || path.head? = some '/'
  else hasScheme || !(Text.startsWith ['/', '/'] path || path.head? = some ':')

/-- The address that has the given parts; points are dropped from an absolute path. -/
def ofParts? (parts : Parts) : Option Address := do
  let (userInfo, hostAndPort) := (cutAtLast '@' parts.authority).getD ([], parts.authority)
  let (host, portText) := splitHost hostAndPort
  let host ← normalHost? host
  let portNumber ← readPort? parts.scheme portText
  let hasScheme := !parts.scheme.isEmpty
  let hasHost := !host.isEmpty || !userInfo.isEmpty || portNumber.isSome
  if parts.areSound && pathFits hasScheme hasHost parts.path then
    let path := if hasScheme || hasHost then normalPath parts.path else parts.path
    return {
      scheme := parts.scheme.map Char.toLower
      userInfo := encode userReserved userInfo
      host
      portNumber
      path := encode pathReserved path
      query := parts.query.map (encode queryReserved)
      fragment := parts.fragment.map (encode fragmentReserved) }
  else none

def ofString? (s : String) : Option Address :=
  if isSound s.toList then ofParts? (.ofText s.toList) else none

def marked (mark : Char) : Option (List Char) → List Char
  | none => []
  | some cs => mark :: cs

/-- Path and query as a request sends them; an empty path is a slash. -/
def rawPath (address : Address) : List Char :=
  (if address.path.isEmpty then ['/'] else address.path) ++ marked '?' address.query

def authority (address : Address) : List Char :=
  (if address.userInfo.isEmpty then [] else address.userInfo ++ ['@'])
    ++ (if address.host.contains ':' then '[' :: address.host ++ [']'] else address.host)
    ++ (match address.portNumber with
      | none => []
      | some portNumber => ':' :: (toString portNumber).toList)

def text (address : Address) : String :=
  let authority := address.authority
  String.ofList ((if address.scheme.isEmpty then [] else address.scheme ++ [':'])
    ++ (if authority.isEmpty then [] else ['/', '/'] ++ authority)
    ++ address.path ++ marked '?' address.query ++ marked '#' address.fragment)

/-- The address with a path and a query in one text; all its parts are looked at again. -/
def withRawPath (address : Address) (raw : List Char) : Option Address :=
  let (path, query) := splitMarked '?' raw
  ofParts? {
    scheme := address.scheme
    authority := address.authority
    path
    query
    fragment := address.fragment }

def server? (s : String) : Option Address := do
  let address ← ofString? s
  if address.rawPath.getLast? = some '/' then return address
  else address.withRawPath (address.rawPath ++ ['/'])

/-- The address of a path on a server. A path that is an address of its own stays one. -/
def resolve? (server : Address) (path : String) : Option Address := do
  let address ← ofString? path
  if !address.scheme.isEmpty && !address.host.isEmpty then return address
  else server.withRawPath (server.rawPath ++ address.rawPath.dropWhile (· = '/'))

def checkHost (address : Address) : Except Cause Unit :=
  if Text.startsWith Host.asciiStart address.host && !Host.isAsciiName address.host then
    .error .badHostName
  else if address.host.any (0x80 ≤ ·.toNat) then .error .unencodableText
  else .ok ()

def bareText (address : Address) : List Char :=
  let cs := address.text.toList
  ((cutAtLast '#' cs).map (·.1)).getD cs

def hasType (address : Address) : Bool :=
  match Text.cutAt ':' address.bareText with
  | some (type, _) => !type.isEmpty && !type.contains '/'
  | none => false

/-- What is said about an address without a scheme; a number sign at its end is left out. -/
def unknownTypeText (address : Address) : String :=
  let cs := address.text.toList
  let shown := if cs.getLast? = some '#' then address.bareText else cs
  "unknown url type: " ++ String.ofList (Text.display shown)

end Address

end Typescribe.Rest
