import Mathlib.Tactic
import Storybind.Proofs.Distinct
import Storybind.Web.Request

/-!
What requests leave alone: the replies of the network never change, only the numbers of requests do.
A network that always replies the same gives the same content however often it was asked; a location
that sends nobody elsewhere is answered by the number of requests for its own address.
-/

namespace Storybind.Web

namespace Network

theorem lookup_tally (address a : String) (requests : List (String × Nat)) :
    ((tally address requests).lookup a).getD 0 =
      (requests.lookup a).getD 0 + if a = address then 1 else 0 := by
  induction requests with
  | nil =>
    by_cases ha : a = address
    · simp [tally, ha]
    · simp [tally, List.lookup_cons, ha, beq_eq_false_iff_ne.mpr ha]
  | cons e rest ih =>
    obtain ⟨b, k⟩ := e
    rw [tally]
    by_cases hb : b = address
    · subst hb
      rw [if_pos rfl, List.lookup_cons, List.lookup_cons]
      by_cases ha : a = b
      · simp [ha]
      · simp [ha, beq_eq_false_iff_ne.mpr ha]
    · rw [if_neg hb, List.lookup_cons, List.lookup_cons]
      by_cases ha : a = b
      · subst ha
        simp [hb]
      · simpa [beq_eq_false_iff_ne.mpr ha] using ih

/-- A request counts for its own address only. -/
theorem count_request (address a : String) (n : Network) :
    (n.request address).2.count a = n.count a + if a = address then 1 else 0 :=
  lookup_tally address a n.requests

/-- The replies at an address. -/
def repliesAt (address : String) (n : Network) : List Reply := (n.replies.lookup address).getD []

/-- A network that gives every request for an address the same reply. -/
def Steady (n : Network) : Prop :=
  ∀ address asked, replyAfter asked (n.repliesAt address) = replyAfter 0 (n.repliesAt address)

/-- A network with at most one reply at an address is steady. -/
theorem steady_of_single {n : Network} (h : ∀ e ∈ n.replies, e.2.length ≤ 1) : n.Steady := by
  intro address asked
  have hsingle : (n.repliesAt address).length ≤ 1 := by
    unfold repliesAt
    cases hl : n.replies.lookup address with
    | none => exact Nat.zero_le 1
    | some replies => exact h (address, replies) (Distinct.mem_of_lookup hl)
  -- a last reply is repeated, and without any reply there is none
  match hr : n.repliesAt address, hsingle with
  | [], _ => simp [replyAfter]
  | [reply], _ =>
    cases asked with
    | zero => rfl
    | succ asked => simp [replyAfter]

theorem Steady.congr {m n : Network} (h : n.Steady) (hr : m.replies = n.replies) : m.Steady := by
  unfold Steady repliesAt
  rw [hr]
  exact h

/-- A steady network with the same replies gives the same reply. -/
theorem Steady.request_eq {m n : Network} (h : n.Steady) (hr : m.replies = n.replies)
    (address : String) : (m.request address).1 = (n.request address).1 := by
  have hm := h.congr hr address (m.count address)
  have hn := h address (n.count address)
  unfold repliesAt at hm hn
  rw [request, request, hm, hn, hr]

end Network

open Network

theorem follow_replies (left : Nat) (u : Url) (n : Network) :
    (follow left u n).2.replies = n.replies := by
  induction left generalizing u n with
  | zero =>
    unfold follow
    split
    · rfl
    · simp only
      split <;> rfl
  | succ left ih =>
    unfold follow
    split
    · rfl
    · simp only
      split
      · rfl
      · exact ih _ _

/-- Requests leave the replies as they are. -/
theorem fetch_replies (address : String) (n : Network) :
    (fetch address n).2.replies = n.replies := by
  unfold fetch
  split
  · rfl
  · exact follow_replies _ _ n

theorem follow_steady {m n : Network} (h : n.Steady) (hr : m.replies = n.replies) (left : Nat)
    (u : Url) : (follow left u m).1 = (follow left u n).1 := by
  induction left generalizing u m n with
  | zero =>
    have hreply := h.request_eq hr u.toText
    unfold follow
    split
    · rfl
    · simp only [hreply]
      split <;> rfl
  | succ left ih =>
    have hreply := h.request_eq hr u.toText
    unfold follow
    split
    · rfl
    · simp only [hreply]
      split
      · rfl
      · exact ih (m := (m.request u.toText).2) (n := (n.request u.toText).2) (h.congr rfl) hr _

/-- A steady network gives the same content at an address, whatever was asked for before. -/
theorem fetch_steady {m n : Network} (h : n.Steady) (hr : m.replies = n.replies)
    (address : String) : (fetch address m).1 = (fetch address n).1 := by
  unfold fetch
  split
  · rfl
  · exact follow_steady h hr _ _

/-- A location that is asked for at one address, none of whose replies leads to another. -/
structure Direct (n : Network) (location : String) (u : Url) : Prop where
  url : requestUrl location = .ok u
  place : placeComplaint? u = none
  scheme : schemeComplaint? u.toText = none
  ends : ∀ reply ∈ n.repliesAt u.toText, ∃ result, turn u reply = .ends result

/-- What a reply comes to where no further address is asked for. -/
def settled (u : Url) (reply : Reply) : Except RequestError Bytes :=
  match turn u reply with
  | .ends result => result
  | .moves _ => .error .redirections

theorem Direct.congr {m n : Network} {location : String} {u : Url} (h : Direct n location u)
    (hr : m.replies = n.replies) : Direct m location u where
  url := h.url
  place := h.place
  scheme := h.scheme
  ends := by
    unfold repliesAt
    rw [hr]
    exact h.ends

theorem turn_missing {u : Url} (h : schemeComplaint? u.toText = none) :
    turn u (.response 404 [] []) = .ends (.error (.status 404 u.toText)) := by
  unfold turn
  have hreceived : Reply.received (.response 404 [] []) = .ok ⟨404, none, []⟩ := rfl
  rw [hreceived]
  simp only [h]
  rfl

theorem replyAfter_cases (asked : Nat) (replies : List Reply) :
    replyAfter asked replies ∈ replies ∨ replyAfter asked replies = .response 404 [] [] := by
  unfold replyAfter
  split
  · next r hr =>
    refine Or.inl ?_
    rcases Option.or_eq_some_iff.mp hr with h | ⟨_, h⟩
    · exact List.mem_of_getElem? h
    · exact List.mem_of_getLast? h
  · exact Or.inr rfl

/-- A direct location costs one request, and its content is what the reply to it comes to. -/
theorem fetch_direct {n : Network} {location : String} {u : Url} (h : Direct n location u) :
    fetch location n =
      (settled u (replyAfter (n.count u.toText) (n.repliesAt u.toText)),
        (n.request u.toText).2) := by
  have hreply : (n.request u.toText).1 =
      replyAfter (n.count u.toText) (n.repliesAt u.toText) := rfl
  -- no reply leads elsewhere, the one to an address that has none included
  have hends : ∃ result, turn u (n.request u.toText).1 = .ends result := by
    rcases replyAfter_cases (n.count u.toText) (n.repliesAt u.toText) with hmem | hnone
    · exact h.ends _ hmem
    · rw [hreply, hnone]
      exact ⟨_, turn_missing h.scheme⟩
  obtain ⟨result, hresult⟩ := hends
  have hsettled : settled u (n.request u.toText).1 = result := by
    rw [settled, hresult]
  rw [← hreply, hsettled, fetch, h.url]
  simp only [maxRedirections]
  unfold follow
  simp only [h.place, hresult]

end Storybind.Web
