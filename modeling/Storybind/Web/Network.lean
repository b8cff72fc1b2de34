import Storybind.Text.Utf8

/-!
The network as a compile sees it: to every address a sequence of replies, of which the n-th request
gets the n-th and every later one the last. Requests and waits are recorded.
-/

namespace Storybind.Web

/-- What happens to one request. -/
inductive Reply where
  | response (status : Nat) (headers : List (String × String)) (body : Bytes)
  | timeout
  | failure (kind message : String)
deriving DecidableEq, Repr

/-- The replies at every address, with the requests and waits so far. -/
structure Network where
  replies : List (String × List Reply)
  requests : List (String × Nat)
  waits : List Float

namespace Network

def empty : Network := ⟨[], [], []⟩

/-- The number of requests for an address so far. -/
def count (address : String) (n : Network) : Nat := (n.requests.lookup address).getD 0

/-- The reply to the request after `asked` others: the last one repeats, and where there is none
nothing is found. -/
def replyAfter (asked : Nat) (replies : List Reply) : Reply :=
  match replies[asked]?.or replies.getLast? with
  | some r => r
  | none => .response 404 [] []

/-- Counts a request. -/
def tally (address : String) : List (String × Nat) → List (String × Nat)
  | [] => [(address, 1)]
  | (a, n) :: rest => if a = address then (a, n + 1) :: rest else (a, n) :: tally address rest

/-- Asks for an address. -/
def request (address : String) (n : Network) : Reply × Network :=
  (replyAfter (n.count address) ((n.replies.lookup address).getD []),
    { n with requests := tally address n.requests })

/-- Waits before the next attempt. -/
def wait (seconds : Float) (n : Network) : Network := { n with waits := n.waits ++ [seconds] }

end Network

end Storybind.Web
