import Storybind.Number.Reading
import Storybind.Value.Display
import Storybind.Web.Address
import Storybind.Web.Host

/-!
Addresses in normal form, as they are asked for: small letters in scheme and host, no port that the
scheme implies, no `.` and `..` between the slashes of the path, and an escape for every character
that a part cannot hold. `Url.ofParts` brings parts into this form, `Url.render` writes them.
-/

namespace Storybind.Web

/-- The parts of an address as they are written. What is not written at all is empty, but a query or
fragment may be written and empty. -/
structure Parts where
  scheme : List Char
  authority : List Char
  path : List Char
  query : Option (List Char)
  fragment : Option (List Char)
deriving DecidableEq, Repr

namespace Parts

/-- Splits the scheme off, up to a colon. It may be empty before the colon. -/
def schemeOf (s : List Char) : List Char × List Char :=
  let name := s.takeWhile isSchemeChar
  match s.drop name.length with
  | ':' :: rest => if name.head?.all Text.isAsciiLetter then (name, rest) else ([], s)
  | _ => ([], s)

/-- Splits the authority off, which two slashes begin. -/
def authorityOf (s : List Char) : List Char × List Char :=
  match s with
  | '/' :: '/' :: rest =>
    let name := rest.takeWhile fun c => c ≠ '/' && c ≠ '?' && c ≠ '#'
    (name, rest.drop name.length)
  | _ => ([], s)

/-- Splits off what follows a mark, if the text has the mark. -/
def markedOf (mark : Char) (s : List Char) : List Char × Option (List Char) :=
  match s.dropWhile (· ≠ mark) with
  | [] => (s, none)
  | _ :: rest => (s.takeWhile (· ≠ mark), some rest)

/-- The parts that a text is made of. -/
def ofChars (s : List Char) : Parts :=
  let (scheme, s) := schemeOf s
  let (authority, s) := authorityOf s
  let (s, fragment) := markedOf '#' s
  let (path, query) := markedOf '?' s
  ⟨scheme, authority, path, query, fragment⟩

end Parts

/-- An address in normal form. -/
structure Url where
  scheme : List Char
  user : List Char
  host : List Char
  port : Option Int
  path : List Char
  query : Option (List Char)
  fragment : Option (List Char)
deriving DecidableEq, Repr

/-- Why a text is no address. -/
inductive UrlError where
  | long
  | longPart (part : String)
  | control (c : Char) (position : Nat)
  | controlIn (part : String) (c : Char) (position : Nat)
  | host (e : Host.HostError) (host : String)
  | port (port : String)
  | rootless
  | doubleSlash
  | colon
deriving DecidableEq, Repr

def UrlError.message : UrlError → String
  | .long => "URL too long"
  | .longPart part => "URL component '" ++ part ++ "' too long"
  | .control c position =>
    "Invalid non-printable ASCII character in URL, " ++ Text.quoted (String.singleton c) ++
      " at position " ++ toString position ++ "."
  | .controlIn part c position =>
    "Invalid non-printable ASCII character in URL " ++ part ++ " component, " ++
      Text.quoted (String.singleton c) ++ " at position " ++ toString position ++ "."
  | .host .numbers text => "Invalid IPv4 address: " ++ Text.quoted text
  | .host .groups text => "Invalid IPv6 address: " ++ Text.quoted text
  | .host .name text => "Invalid IDNA hostname: " ++ Text.quoted text
  | .port text => "Invalid port: " ++ Text.quoted text
  | .rootless => "For absolute URLs, path must be empty or begin with '/'"
  | .doubleSlash => "Relative URLs cannot have a path starting with '//'"
  | .colon => "Relative URLs cannot have a path starting with ':'"

namespace Url

/-! ### Characters -/

/-- The most characters of an address or of a part of it. -/
def maxLength : Nat := 65536

/-- The first control character of a text, with its position. -/
def control? (s : List Char) : Option (Char × Nat) :=
  s.zipIdx.find? fun (c, _) => c.toNat < 32 || c.toNat = 127

/-- Printable ASCII without some characters. -/
def isPlainBut (others : String) (c : Char) : Bool :=
  32 < c.toNat && c.toNat < 127 && !others.toList.contains c

def isUserChar : Char → Bool := isPlainBut "\x22#<>?\x60\x7b\x7d/;=@[\\]^|"

def isPathChar : Char → Bool := isPlainBut "\x22#<>?\x60\x7b\x7d"

def isQueryChar : Char → Bool := isPlainBut "\x22#<>"

def isFragmentChar : Char → Bool := isPlainBut "\x22<>\x60"

/-! ### Parts -/

/-- What an authority holds: the user, the host, which may be in brackets, and the port. -/
def authorityParts (s : List Char) : List Char × List Char × List Char :=
  let (user, place) := match Text.cutAtLast? '@' s with
    | some (u, p) => (u, p)
    | none => ([], s)
  let bracketed := match place.head?, Text.cutAtLast? ']' place with
    | some '[', some (inner, _) => inner ++ [']']
    | _, _ => []
  let host := if bracketed.isEmpty then place.takeWhile fun c => c ≠ ':' && c ≠ '@' else bracketed
  match place.drop host.length with
  | ':' :: port => (user, host, port)
  | port => (user, host, port)

/-- The port that a scheme implies. -/
def usualPort? (scheme : List Char) : Option Int :=
  [("ftp", (21 : Int)), ("http", 80), ("https", 443), ("ws", 80), ("wss", 443)].lookup
    (String.ofList scheme)

/-- The port of an address, if its scheme does not imply it. -/
def portOf (scheme port : List Char) : Except UrlError (Option Int) :=
  if port.isEmpty then .ok none
  else
    match readInt port with
    | .error _ => .error (.port (String.ofList port))
    | .ok n => .ok (if usualPort? scheme = some n then none else some n)

/-- The names of a path with `.` dropped and every `..` taking the name before it along, but not the
empty one before the first slash. What is done already stands in reverse. -/
def climb (done : List (List Char)) : List (List Char) → List (List Char)
  | [] => done.reverse
  | ['.'] :: rest => climb done rest
  | ['.', '.'] :: rest => climb (if done = [[]] then done else done.drop 1) rest
  | name :: rest => climb (name :: done) rest

/-- A path without `.` and `..`. -/
def straighten (path : List Char) : List Char :=
  ['/'].intercalate (climb [] (Text.splitChars '/' path))

/-- Checks that a path fits what precedes it. -/
def checkPath (hasScheme hasAuthority : Bool) (path : List Char) : Except UrlError Unit :=
  if hasAuthority then
    match path with
    | [] | '/' :: _ => .ok ()
    | _ => .error .rootless
  else if hasScheme then .ok ()
  else
    match path with
    | '/' :: '/' :: _ => .error .doubleSlash
    | ':' :: _ => .error .colon
    | _ => .ok ()

/-- The normal form of parts whose authority is cut already. -/
def assemble (p : Parts) (user host port : List Char) : Except UrlError Url := do
  let name ← (Host.normal host).mapError (UrlError.host · (String.ofList host))
  let number ← portOf p.scheme port
  let hasScheme := !p.scheme.isEmpty
  let hasAuthority := !user.isEmpty || !name.isEmpty || number.isSome
  checkPath hasScheme hasAuthority p.path
  let path := if hasScheme || hasAuthority then straighten p.path else p.path
  pure ⟨p.scheme.map Char.toLower, escape isUserChar user, name, number, escape isPathChar path,
    p.query.map (escape isQueryChar), p.fragment.map (escape isFragmentChar)⟩

/-- The normal form of parts. -/
def ofParts (p : Parts) : Except UrlError Url :=
  let (user, host, port) := authorityParts p.authority
  assemble p user host port

/-- The address that a text denotes. -/
def ofString (s : String) : Except UrlError Url :=
  let cs := s.toList
  if maxLength < cs.length then .error .long
  else
    match control? cs with
    | some (c, position) => .error (.control c position)
    | none => ofParts (Parts.ofChars cs)

/-! ### Text -/

/-- A host as it is written, groups in brackets. -/
def hostText (host : List Char) : List Char :=
  if host.contains ':' then '[' :: host ++ [']'] else host

/-- Host and port. -/
def place (u : Url) : List Char :=
  hostText u.host ++ (match u.port with
    | some n => ':' :: (toString n).toList
    | none => [])

/-- User, host and port. -/
def authority (u : Url) : List Char :=
  (if u.user.isEmpty then [] else u.user ++ ['@']) ++ u.place

/-- An address as it is written. -/
def render (u : Url) : List Char :=
  (if u.scheme.isEmpty then [] else u.scheme ++ [':']) ++
    (if u.authority.isEmpty then [] else '/' :: '/' :: u.authority) ++ u.path ++
    (match u.query with
    | some q => '?' :: q
    | none => []) ++
    (match u.fragment with
    | some f => '#' :: f
    | none => [])

def toText (u : Url) : String := String.ofList u.render

/-! ### Changes -/

/-- The parts of an address. -/
def parts (u : Url) : Parts := ⟨u.scheme, u.authority, u.path, u.query, u.fragment⟩

/-- Checks a part that an address is made of anew. -/
def checkPart (name : String) (part : List Char) : Except UrlError Unit :=
  if maxLength < part.length then .error (.longPart name)
  else
    match control? part with
    | some (c, position) => .error (.controlIn name c position)
    | none => .ok ()

/-- Checks parts that an address is made of anew. -/
def checkParts (p : Parts) : Except UrlError Unit := do
  checkPart "scheme" p.scheme
  checkPart "authority" p.authority
  checkPart "path" p.path
  checkPart "query" (p.query.getD [])
  checkPart "fragment" (p.fragment.getD [])

/-- The address made of parts of others. -/
def remake (p : Parts) : Except UrlError Url := do
  checkParts p
  ofParts p

/-- Whether an address says where it is by itself. -/
def isAbsolute (u : Url) : Bool := !u.scheme.isEmpty && !u.host.isEmpty

/-- Path and query, the path at least a slash. -/
def target (u : Url) : List Char :=
  (if u.path.isEmpty then ['/'] else u.path) ++ (match u.query with
    | some q => '?' :: q
    | none => [])

/-- The address that is asked for at a site: an absolute one itself, of any other path and query
alone. -/
def within (site : Parts) (u : Url) : Except UrlError Url :=
  if u.isAbsolute then .ok u
  else
    let (path, query) := Parts.markedOf '?' ('/' :: u.target.dropWhile (· = '/'))
    remake { site with path := path, query := query }

/-- The same address at another host. -/
def withHost (host : List Char) (u : Url) : Except UrlError Url := do
  checkParts u.parts
  checkPart "host" (hostText host)
  let (user, _, port) := authorityParts u.authority
  assemble u.parts user (hostText host) port

/-- The same address with another fragment. -/
def withFragment (fragment : String) (u : Url) : Except UrlError Url :=
  remake { u.parts with fragment := some fragment.toList }

end Url
end Storybind.Web
