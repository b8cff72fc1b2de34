import Storybind.Deflate.Container
import Storybind.Text.Case
import Storybind.Web.Network
import Storybind.Web.Reference
import Storybind.Web.Status

/-!
Requests: an address is asked for, its redirections are followed, and the content of the response is
unpacked. `fetch` gives the content or the reason why there is none.
-/

namespace Storybind.Web

/-- Why a request brings no content. -/
inductive RequestError where
  | timeout
  | status (status : Nat) (address : String)
  | failure (kind message : String)
  | content (e : Deflate.Fault)
  | location (e : UrlError)
  | redirections
  | url (e : UrlError)
  | host (e : HostLabel.LabelError)
  | scheme (address : String)
  | beyondAscii (complaint : String)
deriving DecidableEq, Repr

def RequestError.message : RequestError → String
  | .timeout => "timed out"
  | .status code address => statusComplaint code address
  | .failure _ message => message
  | .content e => "Error -3 while decompressing data: " ++ e.message
  | .location e => "Invalid URL in location header: " ++ e.message ++ "."
  | .redirections => "Exceeded maximum allowed redirects."
  | .url e => e.message
  | .host e => e.message
  | .scheme address => "unknown url type: " ++ Text.quoted address
  | .beyondAscii complaint => complaint

/-- The message of a failed request with the kind of its failure before it. -/
def RequestError.complaint (e : RequestError) : String :=
  match e with
  | .status _ _ => "HTTPStatusError: " ++ e.message
  | .failure kind _ => kind ++ ": " ++ e.message
  | .content _ => "DecodingError: " ++ e.message
  | .location _ => "RemoteProtocolError: " ++ e.message
  | .redirections => "TooManyRedirects: " ++ e.message
  | _ => e.message

/-! ### Responses -/

/-- A response as it is received. -/
structure Response where
  status : Nat
  location : Option String
  body : Bytes
deriving DecidableEq, Repr

/-- The values of a header, whose name may be written in any case. -/
def headerValues (name : String) (headers : List (String × String)) : List String :=
  headers.filterMap fun h => if Text.lower h.1 = name then some h.2 else none

/-- Unpacks content that is packed in one way. Ways that are not known leave it as it is. -/
def unpack (way : String) (body : Bytes) : Except Deflate.Fault Bytes :=
  if way = "gzip" then Deflate.gunzip body
  else if way = "deflate" then Deflate.unwrapOrInflate body
  else .ok body

/-- The ways in which the content of a response is packed, the last one first. -/
def packings (headers : List (String × String)) : List String :=
  let values := (headerValues "content-encoding" headers).flatMap (Text.split ',')
  (values.map fun v => Text.lower (Text.trim v)).reverse

/-- The response in a reply. -/
def Reply.received : Reply → Except RequestError Response
  | .timeout => .error .timeout
  | .failure kind message => .error (.failure kind message)
  | .response status headers body =>
    match headers.findSome? fun h => (Text.asciiComplaint? h.1.toList).or
        (Text.asciiComplaint? h.2.toList) with
    | some complaint => .error (.beyondAscii complaint)
    | none =>
      let location := match headerValues "location" headers with
        | [] => none
        | values => some (Text.join ", " values)
      match (packings headers).foldlM (fun body way => unpack way body) body with
      | .error e => .error (.content e)
      | .ok body => .ok ⟨status, location, body⟩

/-! ### Redirections -/

/-- The most redirections that are followed. -/
def maxRedirections : Nat := 20

/-- The address that a redirection leads to. What it leaves out is taken from the address that
redirects, also the fragment. -/
def redirected (u : Url) (location : String) : Except RequestError Url := do
  let target ← (Url.ofString location).mapError .location
  let target ← if !target.scheme.isEmpty && target.host.isEmpty then
      (target.withHost u.host).mapError .url
    else pure target
  let target ← if target.isAbsolute then pure target
    else (Url.ofString (String.ofList (Reference.resolve u.render target.render))).mapError .url
  match u.fragment.getD [], target.fragment.getD [] with
  | _ :: _, [] =>
    (target.withFragment (percentDecode (String.ofList (u.fragment.getD [])))).mapError .url
  | _, _ => pure target

/-- The complaint about an address without a scheme. -/
def schemeComplaint? (address : String) : Option RequestError :=
  let (body, fragment) := match Text.cutAtLast? '#' address.toList with
    | some (b, f) => (b, f)
    | none => (address.toList, [])
  let name := body.takeWhile fun c => c ≠ '/' && c ≠ ':'
  if !name.isEmpty && (body.drop name.length).head? = some ':' then none
  else some (.scheme (if fragment.isEmpty then String.ofList body else address))

/-- Why an address cannot be asked for: its host is no host of labels, or not of ASCII. -/
def placeComplaint? (u : Url) : Option RequestError :=
  match HostLabel.checkHost u.host with
  | .error e => some (.host e)
  | .ok () => (Text.asciiComplaint? u.place).map .beyondAscii

/-- What a reply comes to: content or none, or another address. -/
inductive Turn where
  | ends (result : Except RequestError Bytes)
  | moves (target : Url)

/-- What a reply at an address comes to. -/
def turn (u : Url) (reply : Reply) : Turn :=
  match reply.received with
  | .error e => .ends (.error e)
  | .ok r =>
    match schemeComplaint? u.toText with
    | some e => .ends (.error e)
    | none =>
      match if redirects r.status then r.location else none with
      | none => .ends (if succeeds r.status then .ok r.body else .error (.status r.status u.toText))
      | some location =>
        match redirected u location with
        | .error e => .ends (.error e)
        | .ok target => .moves target

/-- Asks for an address and follows at most `left` redirections. -/
def follow : Nat → Url → Network → Except RequestError Bytes × Network
  | left, u, n =>
    match placeComplaint? u with
    | some e => (.error e, n)
    | none =>
      let (reply, n) := n.request u.toText
      match turn u reply with
      | .ends result => (result, n)
      | .moves target =>
        match left with
        | 0 => (.error .redirections, n)
        | k + 1 => follow k target n

/-- The address that is asked for where a text names one. -/
def requestUrl (address : String) : Except UrlError Url :=
  (Url.ofString address).bind (Url.within ⟨[], [], [], none, none⟩)

/-- The content at an address. -/
def fetch (address : String) (n : Network) : Except RequestError Bytes × Network :=
  match requestUrl address with
  | .error e => (.error (.url e), n)
  | .ok u => follow maxRedirections u n

end Storybind.Web
