/-!
A cache of fetched content by location. While it is off it takes nothing and gives nothing; what it
holds stays.
-/

namespace Storybind

/-- Fetched content by location, each location once. -/
structure Cache where
  enabled : Bool
  entries : List (String × String)
  nodup : (entries.map Prod.fst).Nodup := by simp
deriving DecidableEq, Repr

namespace Cache

def empty (enabled : Bool) : Cache := ⟨enabled, [], by simp⟩

/-- The content held for a location, if the cache is on. -/
def get? (location : String) (c : Cache) : Option String :=
  if c.enabled then c.entries.lookup location else none

/-- Entries with the content of a location replaced or added at the end. -/
def insert (location content : String) : List (String × String) → List (String × String)
  | [] => [(location, content)]
  | (l, x) :: rest =>
    if l = location then (l, content) :: rest else (l, x) :: insert location content rest

theorem mem_keys_insert {location content l : String} {entries : List (String × String)}
    (h : l ∈ (insert location content entries).map Prod.fst) :
    l = location ∨ l ∈ entries.map Prod.fst := by
  induction entries with
  | nil => simpa [insert] using h
  | cons e rest ih =>
    unfold insert at h
    split at h
    · exact Or.inr h
    · rcases List.mem_cons.mp h with hl | hl
      · exact Or.inr (List.mem_cons.mpr (Or.inl hl))
      · exact (ih hl).imp id fun hr => List.mem_cons.mpr (Or.inr hr)

/-- Insertion keeps every location once. -/
theorem nodup_insert (location content : String) {entries : List (String × String)}
    (h : (entries.map Prod.fst).Nodup) :
    ((insert location content entries).map Prod.fst).Nodup := by
  induction entries with
  | nil => simp [insert]
  | cons e rest ih =>
    have hr := List.nodup_cons.mp h
    unfold insert
    split
    · exact h
    · next hne =>
      refine List.nodup_cons.mpr ⟨fun hm => ?_, ih hr.2⟩
      exact (mem_keys_insert hm).elim hne hr.1

/-- Takes in the content of a location, if the cache is on. -/
def put (location content : String) (c : Cache) : Cache :=
  if c.enabled then
    { c with entries := insert location content c.entries, nodup := nodup_insert _ _ c.nodup }
  else c

def clear (c : Cache) : Cache := { c with entries := [], nodup := by simp }

/-- Whether content is held for a location. -/
def has (location : String) (c : Cache) : Bool := (c.entries.lookup location).isSome

def size (c : Cache) : Nat := c.entries.length

end Cache
end Storybind
