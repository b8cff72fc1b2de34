import Storybind.Web.Url

/-!
References: addresses that leave out what they share with the one they are found at. `resolve` puts
in what is left out: scheme, authority, the directory of the path, and for an empty path also path and
query.
-/

namespace Storybind.Web.Reference

/-- The schemes whose addresses references are resolved against. -/
def hierarchicalSchemes : List String := [
  "", "ftp", "http", "gopher", "nntp", "imap", "wais", "file", "https", "shttp", "mms", "prospero",
  "rtsp", "rtsps", "rtspu", "sftp", "svn", "svn+ssh", "ws", "wss"]

/-- The schemes among them in which parameters may follow a path after a semicolon. -/
def parameterSchemes : List String := [
  "", "ftp", "http", "imap", "https", "shttp", "mms", "prospero", "rtsp", "rtsps", "rtspu", "sftp"]

/-- Splits the parameters off the last name of a path. -/
def splitParameters (scheme path : List Char) : List Char × List Char :=
  if parameterSchemes.contains (String.ofList scheme) then
    let last := (path.reverse.takeWhile (· ≠ '/')).reverse
    let kept := last.takeWhile (· ≠ ';')
    (path.take (path.length - last.length) ++ kept, last.drop (kept.length + 1))
  else (path, [])

/-- The names of a path with `.` dropped and every `..` taking the name before it along. What is done
already stands in reverse. -/
def climb (done : List (List Char)) : List (List Char) → List (List Char)
  | [] => done.reverse
  | ['.'] :: rest => climb done rest
  | ['.', '.'] :: rest => climb (done.drop 1) rest
  | name :: rest => climb (name :: done) rest

/-- The names of a path without the empty ones inside. -/
def dense (names : List (List Char)) : List (List Char) :=
  names.take 1 ++ ((names.drop 1).dropLast.filter fun n => !n.isEmpty) ++
    ((names.drop 1).getLast?).toList

/-- The path of a reference that is found at another path. -/
def resolvePath (base path : List Char) : List Char :=
  let names := Text.splitChars '/' path
  let all := if path.head? = some '/' then names
    else
      let before := Text.splitChars '/' base
      dense ((if before.getLast? = some [] then before else before.dropLast) ++ names)
  let ended := all.getLast? = some ['.'] || all.getLast? = some ['.', '.']
  match ['/'].intercalate (climb [] all ++ (if ended then [[]] else [])) with
  | [] => ['/']
  | p => p

/-- Parts as they are written; an empty query or fragment is left out. -/
def write (scheme authority path parameters query fragment : List Char) : List Char :=
  let path := if parameters.isEmpty then path else path ++ ';' :: parameters
  let path := if !authority.isEmpty || !scheme.isEmpty || path.take 2 = ['/', '/'] then
      '/' :: '/' :: authority ++ (if path.head?.all (· = '/') then path else '/' :: path)
    else path
  (if scheme.isEmpty then [] else scheme ++ [':']) ++ path ++
    (if query.isEmpty then [] else '?' :: query) ++
    (if fragment.isEmpty then [] else '#' :: fragment)

/-- The address that a reference denotes where it is found. -/
def resolve (base reference : List Char) : List Char :=
  if reference.isEmpty then base
  else
    let b := Parts.ofChars base
    let r := Parts.ofChars reference
    let scheme := if r.scheme.isEmpty then b.scheme else r.scheme
    if scheme ≠ b.scheme || !hierarchicalSchemes.contains (String.ofList scheme) then reference
    else
      let (path, parameters) := splitParameters scheme r.path
      let query := r.query.getD []
      let fragment := r.fragment.getD []
      if !r.authority.isEmpty then write scheme r.authority path parameters query fragment
      else if path.isEmpty && parameters.isEmpty then
        let (basePath, baseParameters) := splitParameters scheme b.path
        write scheme b.authority basePath baseParameters
          (if query.isEmpty then b.query.getD [] else query) fragment
      else
        let basePath := (splitParameters scheme b.path).1
        write scheme b.authority (resolvePath basePath path) parameters query fragment

end Storybind.Web.Reference
