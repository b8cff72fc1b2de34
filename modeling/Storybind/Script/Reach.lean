/-!
Reachability in a finite graph. Every step takes one node out of those still to be found, so cycles
do no harm.
-/

namespace Storybind.Reach

variable {α : Type} [DecidableEq α]

/-- The nodes among `remaining` that are found from the `pending` ones: the first pending node that
still remains is found, and what it links to becomes pending. -/
def gather (links : α → List α) (remaining pending : List α) : List α :=
  match _found : pending.find? remaining.contains with
  | none => []
  | some node => node :: gather links (remaining.erase node) (links node ++ pending)
termination_by remaining.length
decreasing_by
  have inside : node ∈ remaining := by simpa using List.find?_some _found
  have smaller := List.length_erase_of_mem inside
  have positive := List.length_pos_of_mem inside
  omega

end Storybind.Reach
