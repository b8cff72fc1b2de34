import Storybind.Value.Display
import Storybind.Web.Host

/-!
Addresses: scheme, host, path, query and fragment of a text, and percent escapes.
-/

namespace Storybind.Web

/-- Why a text is no address. -/
inductive AddressError where
  | brackets
  | badHost (host : String)
  | bracketedHost
  | futureHost
  | marks (authority : String)
deriving DecidableEq, Repr

def AddressError.message : AddressError → String
  | .brackets => "Invalid IPv6 URL"
  | .badHost host => Text.quoted host ++ " does not appear to be an IPv4 or IPv6 address"
  | .bracketedHost => "An IPv4 address cannot be in brackets"
  | .futureHost => "IPvFuture address is invalid"
  | .marks authority =>
    "netloc '" ++ authority ++ "' contains invalid characters under NFKC normalization"

/-- An address in its parts. -/
structure Address where
  scheme : String
  host : String
  path : String
deriving DecidableEq, Repr

/-- A character of a scheme after its first letter. -/
def isSchemeChar (c : Char) : Bool := Text.isAsciiAlnum c || c = '+' || c = '-' || c = '.'

/-- The scheme and what follows it. -/
def splitScheme (s : List Char) : List Char × List Char :=
  let name := s.takeWhile (· ≠ ':')
  match s.dropWhile (· ≠ ':'), name with
  | ':' :: rest, c :: _ =>
    if Text.isAsciiLetter c && name.all isSchemeChar then (name.map Char.toLower, rest) else ([], s)
  | _, _ => ([], s)

/-- Checks a host in brackets: groups, or a form with a version. -/
def checkBracketed (host : List Char) : Except AddressError Unit :=
  match host with
  | 'v' :: rest =>
    let version := rest.takeWhile fun c => (Text.hexValue? c).isSome
    match rest.drop version.length with
    | '.' :: _ :: _ => if version.isEmpty then .error .futureHost else .ok ()
    | _ => .error .futureHost
  | _ =>
    if Host.isNumeric host then .error .bracketedHost
    else if Host.isGrouped host then .ok ()
    else .error (.badHost (String.ofList host))

/-- A character that stands for others, among them a mark that ends an authority or a part of it. -/
def holdsMark (c : Char) : Bool :=
  [0x2047, 0x2048, 0x2049, 0x2100, 0x2101, 0x2105, 0x2106, 0x2a74, 0xfe13, 0xfe16, 0xfe55, 0xfe56,
    0xfe5f, 0xfe6b, 0xff03, 0xff0f, 0xff1a, 0xff1f, 0xff20].contains c.toNat

/-- Checks an authority with brackets: its host stands in them, at its start. -/
def checkAuthority (authority : List Char) : Except AddressError Unit :=
  if authority.contains '[' ≠ authority.contains ']' then .error .brackets
  else if authority.contains '[' then
    let place := match Text.cutAtLast? '@' authority with
      | some (_, p) => p
      | none => authority
    match place with
    | '[' :: rest =>
      let port := (rest.dropWhile (· ≠ ']')).drop 1
      if port.isEmpty || port.head? = some ':' then checkBracketed (rest.takeWhile (· ≠ ']'))
      else .error .brackets
    | _ =>
      if place.contains '[' then .error .brackets
      else checkBracketed (place.takeWhile (· ≠ ':'))
  else .ok ()

/-- Cuts a text into the parts of an address. Control characters before it do not count, nor do line
breaks and tabs in it. -/
def Address.ofString (s : String) : Except AddressError Address := do
  let cs := (s.toList.dropWhile fun c => c.toNat ≤ 32).filter fun c =>
    c ≠ '\t' && c ≠ '\n' && c ≠ '\r'
  let (scheme, rest) := splitScheme cs
  let ends (c : Char) : Bool := c = '/' || c = '?' || c = '#'
  let (authority, rest) := match rest with
    | '/' :: '/' :: r => (r.takeWhile fun c => !ends c, r.dropWhile fun c => !ends c)
    | r => ([], r)
  checkAuthority authority
  if authority.any holdsMark then throw (.marks (String.ofList authority))
  let path := (rest.takeWhile (· ≠ '#')).takeWhile (· ≠ '?')
  pure ⟨String.ofList scheme, String.ofList authority, String.ofList path⟩

/-- The bytes of a text with its percent escapes resolved. -/
def percentBytes : List Char → Bytes
  | '%' :: a :: b :: rest =>
    match Text.hexValue? a, Text.hexValue? b with
    | some x, some y => (x * 16 + y).toUInt8 :: percentBytes rest
    | _, _ => 0x25 :: percentBytes (a :: b :: rest)
  | c :: rest => Text.encodeChar c ++ percentBytes rest
  | [] => []

/-- The text with its percent escapes resolved. -/
def percentDecode (s : String) : String := Text.decodeLossy (percentBytes s.toList)

end Storybind.Web
