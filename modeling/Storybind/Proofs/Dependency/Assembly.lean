import Mathlib.Tactic
import Storybind.Dependency.Bundle
import Storybind.Proofs.Text.Utf8

/-!
What a bundle holds, told from the libraries in order with what fetching gave for each: the entries
that were not given up, the names of those that were, the texts put together and the counts.
-/

namespace Storybind

namespace Declaration

/-- The content of a library as it goes into the page. -/
def finalText (d : Declaration) (minify : Bool) (text : String) : String :=
  if d.minify.getD minify then
    match d.format with
    | .stylesheet => Minify.Style.minify text
    | .script => Minify.Script.minify text
  else text

end Declaration

namespace Bundle

/-- Whether a library was given up. -/
def failed : Outcome → Bool
  | .givenUp _ => true
  | _ => false

/-- An entry carries what was fetched for its own declaration, with its size and its hash. -/
inductive Carries (minify : Bool) (d : Declaration) : Outcome → Resolved → Prop
  | unfetched : Carries minify d .unfetched ⟨d, none, 0, false, none⟩
  | content (text : String) : Carries minify d (.content text)
      ⟨d, some (d.finalText minify text), (d.finalText minify text).utf8ByteSize,
        d.minify.getD minify,
        some (Digest.hex (Digest.digest Digest.sha256 (Text.encode (d.finalText minify text))))⟩

/-- The section of a library of a format, if it was fetched. -/
def section? (minify : Bool) (format : DependencyFormat) : Declaration × Outcome → Option String
  | (d, .content text) =>
    if d.format = format then
      some ("/* " ++ d.name ++ " (" ++ sizeText (d.finalText minify text).utf8ByteSize ++ ") */\n" ++
        d.finalText minify text ++ "\n")
    else none
  | _ => none

/-- A bundle put together from libraries in order. -/
structure Assembles (minify : Bool) (xs : List (Declaration × Outcome)) (b : Bundle) : Prop where
  resolved : List.Forall₂ (fun x r => Carries minify x.1 x.2 r)
    (xs.filter fun x => !failed x.2) b.resolved
  dropped : b.dropped = (xs.filter fun x => failed x.2).map fun x => x.1.name
  markup : b.markup = Text.join "\n"
    (((xs.map Prod.fst).filter fun d => d.kind = .remote).map Declaration.tag)
  script : b.script = Text.join "\n" (xs.filterMap (section? minify .script))
  style : b.style = Text.join "\n" (xs.filterMap (section? minify .stylesheet))
  inlineScript : b.inlineScript = Text.join "\n"
    (((xs.map Prod.fst).filter fun d => d.kind = .inlined).map Declaration.inlineSection)
  total : b.stats.total = xs.length
  kinds : b.stats.remote + b.stats.bundled + b.stats.inlined + b.stats.dropped = b.stats.total
  remote : b.stats.remote = ((xs.map Prod.fst).filter fun d => d.kind = .remote).length
  inlined : b.stats.inlined = ((xs.map Prod.fst).filter fun d => d.kind = .inlined).length
  droppedCount : b.stats.dropped = b.dropped.length
  bundledSize : b.stats.bundledSize =
    ((b.resolved.filterMap (·.content)).map String.utf8ByteSize).sum

/-- Exactly the bundled libraries were fetched. -/
def Fetched (xs : List (Declaration × Outcome)) : Prop :=
  ∀ x ∈ xs, x.2 = .unfetched ↔ x.1.kind ≠ .bundled

variable {minify : Bool} {d : Declaration} {o : Outcome} {xs : List (Declaration × Outcome)}

/-- The entries of libraries in order. -/
def entries (minify : Bool) (xs : List (Declaration × Outcome)) : List Resolved :=
  xs.filterMap fun x => resolvedOf minify x.1 x.2

theorem Fetched.of_cons {x : Declaration × Outcome} (h : Fetched (x :: xs)) : Fetched xs :=
  fun y hy => h y (List.mem_cons_of_mem x hy)

theorem Fetched.kind_ne (h : Fetched ((d, .unfetched) :: xs)) : d.kind ≠ .bundled :=
  (h _ List.mem_cons_self).mp rfl

theorem Fetched.kind_eq (h : Fetched ((d, o) :: xs)) (ho : o ≠ .unfetched) : d.kind = .bundled :=
  by_contra fun hk => ho ((h _ List.mem_cons_self).mpr hk)

theorem ofContent_eq (d : Declaration) (minify : Bool) (text : String) :
    Resolved.ofContent d minify text =
      ⟨d, some (d.finalText minify text), (d.finalText minify text).utf8ByteSize,
        d.minify.getD minify,
        some (Digest.hex (Digest.digest Digest.sha256 (Text.encode (d.finalText minify text))))⟩ := by
  rw [← Text.length_encode]
  rfl

theorem carries_entries (xs : List (Declaration × Outcome)) :
    List.Forall₂ (fun x r => Carries minify x.1 x.2 r) (xs.filter fun x => !failed x.2)
      (entries minify xs) := by
  induction xs with
  | nil => exact List.Forall₂.nil
  | cons x xs ih =>
    obtain ⟨d, o⟩ := x
    cases o with
    | unfetched => exact List.Forall₂.cons Carries.unfetched ih
    | content text =>
      refine List.Forall₂.cons ?_ ih
      rw [ofContent_eq]
      exact Carries.content text
    | givenUp complaint => exact ih

theorem names_failed (xs : List (Declaration × Outcome)) :
    (xs.filterMap fun x => (complaint? x.2).map fun _ => x.1.name) =
      (xs.filter fun x => failed x.2).map fun x => x.1.name := by
  induction xs with
  | nil => rfl
  | cons x xs ih =>
    obtain ⟨d, o⟩ := x
    cases o with
    | unfetched => exact ih
    | content text => exact ih
    | givenUp complaint => exact congrArg (d.name :: ·) ih

/-- Of a kind that is not fetched no library is lost. -/
theorem declarations_of_kind (h : Fetched xs) (kind : DependencyKind) (hk : kind ≠ .bundled) :
    (((entries minify xs).map (·.declaration)).filter fun d => d.kind = kind) =
      (xs.map Prod.fst).filter fun d => d.kind = kind := by
  induction xs with
  | nil => rfl
  | cons x xs ih =>
    obtain ⟨d, o⟩ := x
    have htail := ih h.of_cons
    cases o with
    | unfetched =>
      simp only [entries, List.filterMap_cons, resolvedOf, List.map_cons, Resolved.plain,
        List.filter_cons] at htail ⊢
      rw [htail]
    | content text =>
      -- what was fetched is bundled, so it is not of this kind
      have hd : ¬d.kind = kind := fun hd => hk (hd ▸ h.kind_eq (by simp))
      simpa [entries, resolvedOf, Resolved.ofContent, hd] using htail
    | givenUp complaint =>
      have hd : ¬d.kind = kind := fun hd => hk (hd ▸ h.kind_eq (by simp))
      simpa [entries, resolvedOf, hd] using htail

/-- The sections of a format are those of the libraries that were fetched. -/
theorem sections_entries (h : Fetched xs) (format : DependencyFormat) :
    sections format (entries minify xs) = xs.filterMap (section? minify format) := by
  induction xs with
  | nil => rfl
  | cons x xs ih =>
    obtain ⟨d, o⟩ := x
    have htail := ih h.of_cons
    cases o with
    | unfetched =>
      have hd := h.kind_ne
      simpa [sections, entries, resolvedOf, Resolved.plain, List.filterMap_cons, section?, hd] using
        htail
    | content text =>
      have hd : d.kind = .bundled := h.kind_eq (by simp)
      -- a library that was fetched has one section, in the part of its own format
      by_cases hf : d.format = format
      · have hsection : (Resolved.ofContent d minify text).sectionText =
            "/* " ++ d.name ++ " (" ++ sizeText (d.finalText minify text).utf8ByteSize ++ ") */\n" ++
              d.finalText minify text ++ "\n" := by
          rw [ofContent_eq]
          rfl
        rw [List.filterMap_cons_some (by simp only [section?]; rw [if_pos hf]), ← htail, ← hsection]
        simp [sections, entries, resolvedOf, Resolved.ofContent, hd, hf]
      · simpa [sections, entries, resolvedOf, Resolved.ofContent, List.filterMap_cons, section?, hd,
          hf] using htail
    | givenUp complaint =>
      simpa [sections, entries, resolvedOf, List.filterMap_cons, section?] using htail

theorem length_entries (xs : List (Declaration × Outcome)) :
    (entries minify xs).length + (xs.filter fun x => failed x.2).length = xs.length := by
  induction xs with
  | nil => rfl
  | cons x xs ih =>
    obtain ⟨d, o⟩ := x
    cases o <;> simp [entries, resolvedOf, failed] at ih ⊢ <;> omega

/-- Every entry is of one of the three kinds. -/
theorem countKind_add (rs : List Resolved) :
    countKind .remote rs + countKind .bundled rs + countKind .inlined rs = rs.length := by
  induction rs with
  | nil => rfl
  | cons r rs ih =>
    unfold countKind at ih ⊢
    cases hk : r.declaration.kind <;> simp [hk] <;> omega

theorem countKind_eq (kind : DependencyKind) (rs : List Resolved) :
    countKind kind rs = ((rs.map (·.declaration)).filter fun d => d.kind = kind).length := by
  rw [countKind, List.filter_map, List.length_map]
  rfl

/-- Only bundled entries have a size. -/
theorem bundledSize_entries (h : Fetched xs) :
    (((entries minify xs).filter fun r => r.declaration.kind = .bundled).map
        (·.size)).foldr Int.add 0 =
      (((entries minify xs).filterMap (·.content)).map String.utf8ByteSize).sum := by
  induction xs with
  | nil => rfl
  | cons x xs ih =>
    obtain ⟨d, o⟩ := x
    have htail := ih h.of_cons
    cases o with
    | unfetched =>
      have hd := h.kind_ne
      simpa [entries, resolvedOf, Resolved.plain, hd] using htail
    | content text =>
      have hd : d.kind = .bundled := h.kind_eq (by simp)
      have hcons : entries minify ((d, .content text) :: xs) =
          Resolved.ofContent d minify text :: entries minify xs := rfl
      rw [hcons, ofContent_eq, List.filter_cons_of_pos (by simpa using hd), List.map_cons,
        List.foldr_cons, htail]
      simp only [List.filterMap_cons, List.map_cons, List.sum_cons, Nat.cast_add]
      rfl
    | givenUp complaint => simpa [entries, resolvedOf] using htail

/-- What is put together from libraries in order is their bundle. -/
theorem assembles_ofOutcomes (h : Fetched xs) (cache : Cache) :
    Assembles minify xs (ofOutcomes minify cache xs) where
  resolved := carries_entries xs
  dropped := names_failed xs
  markup := congrArg (fun ds : List Declaration => Text.join "\n" (ds.map Declaration.tag))
    (declarations_of_kind h .remote (by decide))
  script := congrArg (Text.join "\n") (sections_entries h .script)
  style := congrArg (Text.join "\n") (sections_entries h .stylesheet)
  inlineScript := congrArg
    (fun ds : List Declaration => Text.join "\n" (ds.map Declaration.inlineSection))
    (declarations_of_kind h .inlined (by decide))
  total := by
    change ((entries minify xs).length : Int) +
      (xs.filterMap fun x => (complaint? x.2).map fun _ => x.1.name).length = xs.length
    rw [names_failed, List.length_map]
    exact_mod_cast length_entries xs
  kinds := by
    -- the counts of the entries add up to their number; those dropped have none
    have hkinds := countKind_add (entries minify xs)
    change (countKind .remote (entries minify xs) : Int) + countKind .bundled (entries minify xs) +
      countKind .inlined (entries minify xs) + (ofOutcomes minify cache xs).stats.dropped =
        (entries minify xs).length + (ofOutcomes minify cache xs).stats.dropped
    omega
  remote := by
    change (countKind .remote (entries minify xs) : Int) = _
    rw [countKind_eq, declarations_of_kind h .remote (by decide)]
  inlined := by
    change (countKind .inlined (entries minify xs) : Int) = _
    rw [countKind_eq, declarations_of_kind h .inlined (by decide)]
  droppedCount := rfl
  bundledSize := bundledSize_entries h

end Bundle
end Storybind
