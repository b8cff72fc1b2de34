import Mathlib.Tactic
import Storybind.Script.Reach

/-!
A search from some nodes finds what links lead to from them. That holds of the nodes that are
gathered one by one, and of a search with a queue, which ends on every graph of finitely many nodes:
a node is gone into once, whatever cycles it lies on and however often it is queued.
-/

namespace Storybind.Reach

variable {α : Type} {links : α → List α} {nodes starts : List α} {n : α}

/-- Whether links lead from one of some nodes to a node, in any number of steps. -/
def Reaches (links : α → List α) (starts : List α) (n : α) : Prop :=
  ∃ s ∈ starts, Relation.ReflTransGen (fun a b => b ∈ links a) s n

theorem Reaches.start (h : n ∈ starts) : Reaches links starts n :=
  ⟨n, h, Relation.ReflTransGen.refl⟩

theorem Reaches.next {m : α} (h : Reaches links starts n) (hm : m ∈ links n) :
    Reaches links starts m := by
  obtain ⟨s, hs, hpath⟩ := h
  exact ⟨s, hs, hpath.tail hm⟩

/-- A set that has the starts and is closed under links has all that is reached. -/
theorem Reaches.mem_of_closed {found : List α} (hstarts : ∀ s ∈ starts, s ∈ found)
    (hclosed : ∀ a ∈ found, ∀ b ∈ links a, b ∈ found) (h : Reaches links starts n) : n ∈ found := by
  obtain ⟨s, hs, hpath⟩ := h
  induction hpath with
  | refl => exact hstarts s hs
  | tail _ hlink ih => exact hclosed _ ih _ hlink

theorem Reaches.congr {links' : α → List α} {starts' : List α}
    (hlinks : ∀ a b, b ∈ links' a ↔ b ∈ links a) (hstarts : ∀ s, s ∈ starts' ↔ s ∈ starts) :
    Reaches links' starts' n ↔ Reaches links starts n := by
  unfold Reaches
  simp only [hlinks, hstarts]

variable [DecidableEq α]

/-! ### Gathering -/

theorem reaches_of_mem_gather {remaining pending : List α}
    (h : n ∈ gather links remaining pending) : Reaches links pending n := by
  fun_induction gather links remaining pending with
  | case1 => exact absurd h List.not_mem_nil
  | case2 remaining pending node found ih =>
    have hnode : node ∈ pending := List.mem_of_find?_eq_some found
    rcases List.mem_cons.mp h with rfl | h
    · exact Reaches.start hnode
    · obtain ⟨s, hs, hpath⟩ := ih h
      rcases List.mem_append.mp hs with hs | hs
      · exact ⟨node, hnode, hpath.head hs⟩
      · exact ⟨s, hs, hpath⟩

variable (links) in
/-- What remains of the pending nodes, and of the nodes that gathered ones link to, is gathered. -/
theorem gather_closed (remaining pending : List α) :
    (∀ p ∈ pending, p ∈ remaining → p ∈ gather links remaining pending) ∧
      ∀ a ∈ gather links remaining pending, ∀ b ∈ links a, b ∈ remaining →
        b ∈ gather links remaining pending := by
  fun_induction gather links remaining pending with
  | case1 remaining pending hnone =>
    refine ⟨fun p hp hr => absurd hr ?_, fun a ha => absurd ha List.not_mem_nil⟩
    simpa using List.find?_eq_none.mp hnone p hp
  | case2 remaining pending node hfound ih =>
    obtain ⟨hpending, hlinked⟩ := ih
    -- all but the node that was just found remain
    have hleft {b : α} (hb : b ∈ remaining) (hgathered : b ∈ remaining.erase node →
        b ∈ gather links (remaining.erase node) (links node ++ pending)) :
        b ∈ node :: gather links (remaining.erase node) (links node ++ pending) := by
      by_cases hnode : b = node
      · exact List.mem_cons.mpr (Or.inl hnode)
      · exact List.mem_cons_of_mem node (hgathered ((List.mem_erase_of_ne hnode).mpr hb))
    refine ⟨fun p hp hr => hleft hr (hpending p (List.mem_append_right _ hp)), ?_⟩
    intro a ha b hb hr
    rcases List.mem_cons.mp ha with rfl | ha
    · exact hleft hr (hpending b (List.mem_append_left _ hb))
    · exact hleft hr (hlinked a ha b hb)

/-- Where links stay among the nodes, exactly what is reached is gathered. -/
theorem mem_gather_iff (hstarts : ∀ s ∈ starts, s ∈ nodes)
    (hlinks : ∀ a ∈ nodes, ∀ b ∈ links a, b ∈ nodes) :
    n ∈ gather links nodes starts ↔ Reaches links starts n := by
  refine ⟨reaches_of_mem_gather, fun h => ?_⟩
  obtain ⟨hpending, hlinked⟩ := gather_closed links nodes starts
  have hinside {a : α} (ha : a ∈ gather links nodes starts) : a ∈ nodes :=
    (reaches_of_mem_gather ha).mem_of_closed hstarts hlinks
  exact h.mem_of_closed (fun s hs => hpending s hs (hstarts s hs))
    fun a ha b hb => hlinked a ha b hb (hlinks a (hinside ha) b hb)

/-! ### Searching with a queue -/

/-- A search under way: the nodes it still has to go into, in order and perhaps repeated, and those
it has reached. -/
structure Search (α : Type) where
  queue : List α
  reached : List α

namespace Search

/-- One step: the first node of the queue is left out if it was reached before, and is reached
otherwise, and what it links to and was not reached is queued. -/
def step (links : α → List α) : Search α → Option (Search α)
  | ⟨[], _⟩ => none
  | ⟨n :: rest, reached⟩ =>
    if n ∈ reached then some ⟨rest, reached⟩
    else some ⟨rest ++ (links n).filter (· ∉ n :: reached), n :: reached⟩

/-- Whether a search goes on, in any number of steps, until nothing is left in the queue. -/
def EndsIn (links : α → List α) (s s' : Search α) : Prop :=
  Relation.ReflTransGen (fun a b => step links a = some b) s s' ∧ step links s' = none

theorem step_eq_none {s : Search α} : step links s = none ↔ s.queue = [] := by
  obtain ⟨queue, reached⟩ := s
  cases queue with
  | nil => simp [step]
  | cons n rest =>
    simp only [step]
    split <;> simp

variable {s s' : Search α}

theorem step_cases (h : step links s = some s') :
    ∃ n rest, s.queue = n :: rest ∧
      (n ∈ s.reached ∧ s' = ⟨rest, s.reached⟩ ∨
        n ∉ s.reached ∧
          s' = ⟨rest ++ (links n).filter (· ∉ n :: s.reached), n :: s.reached⟩) := by
  obtain ⟨queue, reached⟩ := s
  cases queue with
  | nil => cases h
  | cons n rest =>
    refine ⟨n, rest, rfl, ?_⟩
    simp only [step] at h
    split at h
    · next hn => exact Or.inl ⟨hn, (Option.some.inj h).symm⟩
    · next hn => exact Or.inr ⟨hn, (Option.some.inj h).symm⟩

/-- The nodes that are not reached yet. -/
def unreached (nodes : List α) (s : Search α) : List α := nodes.filter (· ∉ s.reached)

theorem length_unreached_cons {queue reached : List α} (hnode : n ∈ nodes) (hn : n ∉ reached)
    (rest : List α) :
    (unreached nodes ⟨rest, n :: reached⟩).length < (unreached nodes ⟨queue, reached⟩).length := by
  have hfilter : unreached nodes ⟨rest, n :: reached⟩ =
      (unreached nodes ⟨queue, reached⟩).filter (· ≠ n) := by
    unfold unreached
    rw [List.filter_filter]
    simp
  rw [hfilter, List.length_filter_lt_length_iff_exists]
  exact ⟨n, List.mem_filter.mpr ⟨hnode, decide_eq_true hn⟩, by simp⟩

/-- A step leaves fewer nodes to be reached, or as many and a shorter queue. -/
theorem step_decreases (hqueue : ∀ a ∈ s.queue, a ∈ nodes) (h : step links s = some s') :
    (unreached nodes s').length < (unreached nodes s).length ∨
      (unreached nodes s').length = (unreached nodes s).length ∧
        s'.queue.length < s.queue.length := by
  obtain ⟨n, rest, hs, ⟨-, rfl⟩ | ⟨hn, rfl⟩⟩ := step_cases h
  · exact Or.inr ⟨rfl, by rw [hs]; exact Nat.lt_succ_self _⟩
  · exact Or.inl (length_unreached_cons (hqueue n (hs ▸ List.mem_cons_self)) hn _)

theorem step_inside (hlinks : ∀ a ∈ nodes, ∀ b ∈ links a, b ∈ nodes)
    (hqueue : ∀ a ∈ s.queue, a ∈ nodes) (h : step links s = some s') :
    ∀ a ∈ s'.queue, a ∈ nodes := by
  obtain ⟨n, rest, hs, ⟨-, rfl⟩ | ⟨-, rfl⟩⟩ := step_cases h
  · exact fun a ha => hqueue a (hs ▸ List.mem_cons_of_mem n ha)
  · intro a ha
    rcases List.mem_append.mp ha with ha | ha
    · exact hqueue a (hs ▸ List.mem_cons_of_mem n ha)
    · exact hlinks n (hqueue n (hs ▸ List.mem_cons_self)) a (List.mem_of_mem_filter ha)

/-- A search ends, on any graph of finitely many nodes. -/
theorem exists_endsIn (hlinks : ∀ a ∈ nodes, ∀ b ∈ links a, b ∈ nodes) (s : Search α)
    (hqueue : ∀ a ∈ s.queue, a ∈ nodes) : ∃ s', EndsIn links s s' := by
  cases hstep : step links s with
  | none => exact ⟨s, Relation.ReflTransGen.refl, hstep⟩
  | some next =>
    have hless := step_decreases hqueue hstep
    obtain ⟨s', hpath, hend⟩ := exists_endsIn hlinks next (step_inside hlinks hqueue hstep)
    exact ⟨s', hpath.head hstep, hend⟩
termination_by ((unreached nodes s).length, s.queue.length)
decreasing_by
  rcases hless with hless | ⟨heq, hless⟩
  · exact Prod.Lex.left _ _ hless
  · rw [heq]
    exact Prod.Lex.right _ hless

/-- What is reached or queued is reached from the starts; and what is not looked at yet, of the
starts and of what reached nodes link to, is queued. -/
structure Sound (links : α → List α) (starts : List α) (s : Search α) : Prop where
  reached : ∀ a ∈ s.reached, Reaches links starts a
  queued : ∀ a ∈ s.queue, Reaches links starts a
  starts : ∀ a ∈ starts, a ∈ s.reached ∨ a ∈ s.queue
  closed : ∀ a ∈ s.reached, ∀ b ∈ links a, b ∈ s.reached ∨ b ∈ s.queue

omit [DecidableEq α] in
theorem sound_start (links : α → List α) (starts : List α) : Sound links starts ⟨starts, []⟩ where
  reached := nofun
  queued := fun _ ha => Reaches.start ha
  starts := fun _ ha => Or.inr ha
  closed := nofun

theorem Sound.step (h : Sound links starts s) (hstep : step links s = some s') :
    Sound links starts s' := by
  obtain ⟨n, rest, hs, ⟨hn, rfl⟩ | ⟨hn, rfl⟩⟩ := step_cases hstep
  -- what was queued first is reached, so nothing gets lost with it
  · have hkept {a : α} (ha : a ∈ s.reached ∨ a ∈ s.queue) : a ∈ s.reached ∨ a ∈ rest := by
      rw [hs, List.mem_cons] at ha
      rcases ha with ha | rfl | ha
      · exact Or.inl ha
      · exact Or.inl hn
      · exact Or.inr ha
    exact {
      reached := h.reached
      queued := fun a ha => h.queued a (hs ▸ List.mem_cons_of_mem n ha)
      starts := fun a ha => hkept (h.starts a ha)
      closed := fun a ha b hb => hkept (h.closed a ha b hb) }
  · have hnode : Reaches links starts n := h.queued n (hs ▸ List.mem_cons_self)
    have hkept {a : α} (ha : a ∈ s.reached ∨ a ∈ s.queue) :
        a ∈ n :: s.reached ∨ a ∈ rest ++ (links n).filter (· ∉ n :: s.reached) := by
      rw [hs, List.mem_cons] at ha
      rcases ha with ha | rfl | ha
      · exact Or.inl (List.mem_cons_of_mem n ha)
      · exact Or.inl List.mem_cons_self
      · exact Or.inr (List.mem_append_left _ ha)
    refine ⟨fun a ha => ?_, fun a ha => ?_, fun a ha => hkept (h.starts a ha), fun a ha b hb => ?_⟩
    · rcases List.mem_cons.mp ha with rfl | ha
      · exact hnode
      · exact h.reached a ha
    · rcases List.mem_append.mp ha with ha | ha
      · exact h.queued a (hs ▸ List.mem_cons_of_mem n ha)
      · exact hnode.next (List.mem_of_mem_filter ha)
    · rcases List.mem_cons.mp ha with rfl | ha
      · by_cases hb' : b ∈ a :: s.reached
        · exact Or.inl hb'
        · exact Or.inr (List.mem_append_right _ (List.mem_filter.mpr ⟨hb, decide_eq_true hb'⟩))
      · exact hkept (h.closed a ha b hb)

theorem Sound.run (h : Sound links starts s)
    (hpath : Relation.ReflTransGen (fun a b => Search.step links a = some b) s s') :
    Sound links starts s' := by
  induction hpath with
  | refl => exact h
  | tail _ hstep ih => exact ih.step hstep

/-- What a search has reached when it ends is exactly what links lead to from its starts. -/
theorem mem_reached_iff (h : EndsIn links ⟨starts, []⟩ s') :
    n ∈ s'.reached ↔ Reaches links starts n := by
  obtain ⟨hpath, hend⟩ := h
  have hsound : Sound links starts s' := (sound_start links starts).run hpath
  have hempty : s'.queue = [] := step_eq_none.mp hend
  have hdone {a : α} (ha : a ∈ s'.reached ∨ a ∈ s'.queue) : a ∈ s'.reached := by
    rw [hempty] at ha
    exact ha.resolve_right List.not_mem_nil
  exact ⟨hsound.reached n, fun h => h.mem_of_closed (fun a ha => hdone (hsound.starts a ha))
    fun a ha b hb => hdone (hsound.closed a ha b hb)⟩

end Search

end Storybind.Reach
