import Storybind.Dependency.Cache
import Storybind.Dependency.Declaration
import Storybind.Digest
import Storybind.Lookup
import Storybind.Number.Fixed
import Storybind.Number.Shortest
import Storybind.Settings
import Storybind.Web.Request

/-!
Fetching what is to be bundled, in one attempt: from the network or from a file. Content must have
the digest that the declaration names; what was fetched is cached under its location. Waits between
attempts double up to a cap.
-/

namespace Storybind.Fetch

/-- Why an attempt fails. -/
inductive Fault where
  | timeout (seconds : Float)
  | integrity
  | request (e : Web.RequestError)
  | file (e : FileError)

def Fault.message : Fault → String
  | .timeout seconds => "timed out after " ++ floatText seconds ++ "s"
  | .integrity => "integrity mismatch"
  | .request e => e.complaint
  | .file e => e.fault.name ++ ": " ++ e.message

/-- A failure that no further attempt and no other library gets past. -/
inductive Breakdown where
  | homeUnknown
  | nulInPath
  | address (e : Web.AddressError)
  | digest (e : Digest.IntegrityError)
  | request (e : Web.RequestError)
  | wait (e : AmountError)
deriving DecidableEq

def Breakdown.message : Breakdown → String
  | .homeUnknown => LookupError.homeUnknown.message
  | .nulInPath => FileFault.nulInName.message
  | .address e => e.message
  | .digest e => e.message
  | .request e => e.message
  | .wait e => e.message

/-- A number doubled `times` times. -/
def doubled (x : Float) (times : Nat) : Float :=
  x * Binary.toFloat false ⟨Nat.pow 2 52, (times : Int) - 52⟩

/-- The wait after an attempt: doubled with every attempt, up to a cap. Attempts count from one. -/
def backoff (attempt : Nat) (base cap : Float) : Float :=
  let delay := doubled base (attempt - 1)
  if cap < delay then cap else delay

/-- The same for any attempt number, refused where the factor is beyond all floating-point
numbers. -/
def backoff? (attempt : Int) (base cap : Float) : Except AmountError Float :=
  if 1024 < attempt then .error .tooLarge
  else if 1 ≤ attempt then .ok (backoff attempt.toNat base cap)
  else
    let halves := (1 - attempt).toNat
    let factor := if halves ≤ 1022 then Binary.toFloat false ⟨Nat.pow 2 52, -(halves : Int) - 52⟩
      else if halves ≤ 1074 then Binary.toFloat false ⟨Nat.pow 2 (1074 - halves), -1074⟩
      else Binary.toFloat false ⟨0, -1074⟩
    let delay := base * factor
    .ok (if cap < delay then cap else delay)

/-- The path of a location that is no address of the web; a relative one lies below the base. -/
def localPath (w : Workspace) (base : Option Path) (location : String) : Except Breakdown Path :=
  if Text.startsWith location "file://" then
    match Web.Address.ofString location with
    | .error e => .error (.address e)
    | .ok a => .ok (Path.ofString (Web.percentDecode a.path))
  else
    match w.expandHome? (Path.ofString location) with
    | none => .error .homeUnknown
    | some p =>
      match base with
      | some b => .ok (b ++ p)
      | none => .ok p

/-- The name under which the content of a location is cached. -/
def cacheKey (w : Workspace) (base : Option Path) (location : String) :
    Except Breakdown String :=
  if isWebAddress location then .ok location
  else (localPath w base location).map Path.toText

/-- The kinds of failures that do not count as attempts but end everything. -/
def uncounted : List String :=
  ["InvalidURL", "CookieConflict", "StreamError", "StreamConsumed", "StreamClosed",
    "ResponseNotRead", "RequestNotRead"]

/-- Whether a failed request ends everything. -/
def endsAll : Web.RequestError → Bool
  | .failure kind _ => uncounted.contains kind
  | .url _ | .host _ | .scheme _ | .beyondAscii _ => true
  | _ => false

/-- What a request gives to an attempt. -/
def ofRequest (settings : Settings) :
    Except Web.RequestError Bytes → Except Breakdown (Except Fault Bytes)
  | .ok body => .ok (.ok body)
  | .error .timeout => .ok (.error (.timeout settings.fetchTimeout))
  | .error e => if endsAll e then .error (.request e) else .ok (.error (.request e))

/-- What a file gives to an attempt. -/
def ofFile (w : Workspace) (base : Option Path) (location : String) :
    Except Breakdown (Except Fault Bytes) := do
  let p ← localPath w base location
  match w.read p with
  | .ok body => pure (.ok body)
  | .error e => if e.isSystem then pure (.error (.file e)) else throw .nulInPath

/-- The content at a location, in one attempt. Without time for it nothing is asked for. -/
def attempt (w : Workspace) (settings : Settings) (base : Option Path) (location : String)
    (n : Web.Network) : Except Breakdown (Except Fault Bytes) × Web.Network :=
  if settings.fetchTimeout ≤ 0 then (.ok (.error (.timeout settings.fetchTimeout)), n)
  else if isWebAddress location then
    let (body, n) := Web.fetch location n
    (ofRequest settings body, n)
  else (ofFile w base location, n)

/-- Whether bytes have the digest that is asked for, if one is. -/
def passes (integrity : Option String) (bytes : Bytes) : Except Breakdown Bool :=
  match integrity with
  | none => .ok true
  | some value =>
    if value.isEmpty then .ok true else (Digest.verify bytes value).mapError .digest

/-- The text of bytes that have the digest asked for. -/
def checked (integrity : Option String) (bytes : Bytes) : Except Breakdown (Except Fault String) :=
  (passes integrity bytes).map fun ok =>
    if ok then .ok (Text.decodeLossy bytes) else .error .integrity

/-- What fetching works on. -/
structure State where
  network : Web.Network
  cache : Cache

/-- The number of attempts: at least one. -/
def maxAttempts (settings : Settings) : Nat := (max 1 settings.fetchRetries).toNat

/-- Waits after an attempt, if another one is left. Attempts count from one. -/
def State.waitAfter (settings : Settings) (attempt : Nat) (s : State) : Except Breakdown State :=
  if attempt < maxAttempts settings then
    match backoff? attempt settings.backoffBase settings.backoffCap with
    | .ok seconds => .ok { s with network := s.network.wait seconds }
    | .error e => .error (.wait e)
  else .ok s

/-- Takes in what an attempt gave: content must have the digest that is asked for, and is then cached
under a key. -/
def takeIn (d : Declaration) (key : String) (answer : Except Breakdown (Except Fault Bytes))
    (s : State) : Except Breakdown (Except Fault String) × State :=
  match answer with
  | .error e => (.error e, s)
  | .ok (.error fault) => (.ok (.error fault), s)
  | .ok (.ok bytes) =>
    match checked d.integrity bytes with
    | .ok (.ok content) => (.ok (.ok content), { s with cache := s.cache.put key content })
    | r => (r, s)

/-- What was cached under a key, if it has the digest that is asked for. -/
def cached? (d : Declaration) (key : String) (c : Cache) : Except Breakdown (Option String) :=
  match c.get? key with
  | none => .ok none
  | some content =>
    (passes d.integrity (Text.encode content)).map fun ok => if ok then some content else none

end Storybind.Fetch
