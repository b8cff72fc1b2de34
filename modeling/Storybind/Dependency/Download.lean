import Storybind.Dependency.Fetch

/-!
Downloads: the libraries of one page, fetched side by side. Each is looked for in the cache once,
before anything is fetched. Those that are not there take their attempts in turns, one round after
another, so that none waits for the retries of another and two libraries at one address both ask for
it.
-/

namespace Storybind

/-- A library on its way: nothing is fetched of it, it waits for its next attempt after a number of
them and the complaint about the last, it has arrived, or it broke down. -/
inductive Download where
  | idle
  | waiting (declaration : Declaration) (key : String) (attempts : Nat) (complaint : String)
  | arrived (content : String)
  | broken (e : Fetch.Breakdown)

/-- What fetching gives for a library: nothing where nothing is to be fetched, its content, or the
complaint for which it was given up. -/
inductive Outcome where
  | unfetched
  | content (text : String)
  | givenUp (complaint : String)
deriving DecidableEq, Repr

namespace Download

open Fetch (State Breakdown)

/-- The download of a library, as it stands when only the cache was asked. -/
def start (w : Workspace) (base : Option Path) (cache : Cache) (d : Declaration) : Download :=
  if d.kind = .bundled then
    match Fetch.cacheKey w base (d.url.getD "") with
    | .error e => .broken e
    | .ok key =>
      match Fetch.cached? d key cache with
      | .error e => .broken e
      | .ok (some content) => .arrived content
      | .ok none => .waiting d key 0 "no attempt made"
  else .idle

/-- Whether a download has an attempt left. -/
def isOpen (settings : Settings) : Download → Bool
  | .waiting _ _ attempts _ => attempts < Fetch.maxAttempts settings
  | _ => false

def isBroken : Download → Bool
  | .broken _ => true
  | _ => false

/-- Goes on with what an attempt gave, and waits after a fault if another attempt is left. -/
def goOn (settings : Settings) (d : Declaration) (key : String) (number : Nat)
    (answer : Except Breakdown (Except Fetch.Fault Bytes)) (s : State) : Download × State :=
  match Fetch.takeIn d key answer s with
  | (.error e, s) => (.broken e, s)
  | (.ok (.ok content), s) => (.arrived content, s)
  | (.ok (.error fault), s) =>
    match s.waitAfter settings number with
    | .error e => (.broken e, s)
    | .ok s => (.waiting d key number fault.message, s)

/-- Makes one attempt. -/
def attempt (w : Workspace) (settings : Settings) (base : Option Path) (d : Declaration)
    (key : String) (number : Nat) (s : State) : Download × State :=
  let (answer, n) := Fetch.attempt w settings base (d.url.getD "") s.network
  goOn settings d key number answer { s with network := n }

/-- Takes a download one attempt further, if it has one left. -/
def advance (w : Workspace) (settings : Settings) (base : Option Path) (x : Download) (s : State) :
    Download × State :=
  match x with
  | .waiting d key attempts _ =>
    if x.isOpen settings then attempt w settings base d key (attempts + 1) s else (x, s)
  | _ => (x, s)

/-- Takes every download one attempt further, in order. -/
def round (w : Workspace) (settings : Settings) (base : Option Path) :
    List Download → State → List Download × State
  | [], s => ([], s)
  | x :: rest, s =>
    let (x, s) := advance w settings base x s
    let (rest, s) := round w settings base rest s
    (x :: rest, s)

/-- Makes at most `left` rounds, until no download has an attempt left. After a breakdown the others
only finish the round that they are in then. -/
def rounds (w : Workspace) (settings : Settings) (base : Option Path) :
    Nat → List Download → State → List Download × State
  | left, xs, s =>
    if xs.any isBroken then (xs, (round w settings base xs s).2)
    else
      match left with
      | 0 => (xs, s)
      | left + 1 =>
        if xs.any (isOpen settings) then
          let (xs, s) := round w settings base xs s
          rounds w settings base left xs s
        else (xs, s)

/-- The complaint for which a library is given up, after the complaint about the last attempt. -/
def finalComplaint (settings : Settings) (complaint : String) : String :=
  "gave up after " ++ toString (Fetch.maxAttempts settings) ++ " attempts: " ++ complaint

/-- What a download that is over gives. -/
def outcome (settings : Settings) : Download → Except Breakdown Outcome
  | .idle => .ok .unfetched
  | .arrived content => .ok (.content content)
  | .waiting _ _ _ complaint => .ok (.givenUp (finalComplaint settings complaint))
  | .broken e => .error e

/-- Fetches libraries side by side. -/
def fetchAll (w : Workspace) (settings : Settings) (base : Option Path) (ds : List Declaration)
    (s : State) : Except Breakdown (List Outcome) × State :=
  let (xs, s) := rounds w settings base (Fetch.maxAttempts settings) (ds.map (start w base s.cache)) s
  (xs.mapM (outcome settings), s)

end Download
end Storybind
