import Mathlib.Tactic
import Storybind.Proofs.Compile.Footprint

/-!
Compiles into a directory on which two volumes agree. Whatever the file system refuses, a save goes the
same way on both, and the volumes agree on the directory at every moment of it.
-/

namespace Storybind

open Volume (AgreeIn Into RunAlike)
open Course (Alike)

namespace Output

variable {root : List String} {v v' : Volume} {cwd target temporary : Path} {content : Bytes}

theorem freeName_congr {directory : List String}
    (h : ∀ n, v'.find? (directory ++ [n]) = v.find? (directory ++ [n])) (name : String)
    (tries : Nat) (mark : String) :
    freeName v' directory name tries mark = freeName v directory name tries mark := by
  induction tries generalizing mark with
  | zero => rfl
  | succ tries ih =>
    unfold freeName
    rw [h, ih]

/-- A place for which a temporary file lies in a directory, as does what is made on the way. -/
structure Inside (root : List String) (target : Path) : Prop where
  into : Into root target
  parent : root <+: target.parent.names

theorem Inside.names_resolve (h : Inside root target) (cwd : Path) :
    (Path.resolve cwd target.parent).names = target.parent.names :=
  Path.resolve_of_absolute h.into.parent.absolute h.into.parent.plain cwd

theorem temporaryPath_congr (h : AgreeIn root v v') (ht : Inside root target) (mark : String)
    (cwd : Path) : temporaryPath mark cwd target v' = temporaryPath mark cwd target v := by
  have hfree : ∀ n, v'.find? ((Path.resolve cwd target.parent).names ++ [n]) =
      v.find? ((Path.resolve cwd target.parent).names ++ [n]) := by
    intro n
    refine h _ (Or.inl ?_)
    rw [ht.names_resolve]
    exact ht.parent.trans (List.prefix_append _ _)
  unfold temporaryPath
  simp only [freeName_congr hfree]

theorem into_temporaryPath (ht : Inside root target) (mark : String) (cwd : Path) (v : Volume) :
    Into root (temporaryPath mark cwd target v) where
  absolute := rfl
  plain := plain_temporaryPath mark cwd target v
  near := by
    obtain ⟨mark', hpath⟩ := exists_temporaryName mark cwd target v
    rw [hpath, ht.names_resolve]
    exact Or.inl (ht.parent.trans (List.prefix_append _ _))

theorem alike_step (h : AgreeIn root v v') {run run' : Except FileError Volume}
    (hrun : RunAlike root run run') (r : Refusals) (s : Step) (p : Path) :
    Alike root (step r s p v run) (step r s p v' run') := by
  unfold step
  refine Course.alike_single h ?_
  split
  · exact .refused _
  · exact hrun

theorem alike_makeParent (h : AgreeIn root v v') (ht : Into root target) (r : Refusals) (cwd : Path) :
    Alike root (makeParent r cwd target v) (makeParent r cwd target v') := by
  have hmade := h.makeDeep cwd target.parent.names.length ht.parent
  unfold makeParent
  split
  · exact ⟨hmade.start, List.forall₂_take _ hmade.later, rfl⟩
  · exact hmade

theorem alike_fill (h : AgreeIn root v v') (r : Refusals) (temporary : Path) (content : Bytes) :
    Alike root (fill r temporary content v) (fill r temporary content v') := by
  have hheld (bytes : Bytes) : AgreeIn root (v.put temporary.names (.file bytes))
      (v'.put temporary.names (.file bytes)) := h.put _ _
  have hpieces : List.Forall₂ (AgreeIn root)
      ((beginnings content 0 r.pieces).map fun bytes => v.put temporary.names (.file bytes))
      ((beginnings content 0 r.pieces).map fun bytes => v'.put temporary.names (.file bytes)) := by
    rw [List.forall₂_map_left_iff, List.forall₂_map_right_iff]
    exact List.forall₂_same.mpr fun bytes _ => hheld bytes
  unfold fill
  split
  · exact ⟨h, hpieces, rfl⟩
  · exact ⟨h, List.rel_append hpieces (.cons (hheld content) .nil), rfl⟩

theorem alike_tidied {c c' : Course} (h : Alike root c c') (hn : temporary.names ≠ []) :
    Alike root (tidied temporary c) (tidied temporary c') := by
  have hrefusal := h.refusal
  unfold tidied
  rw [hrefusal]
  split
  · exact ⟨h.start, List.rel_append h.later (.cons (h.final.erase hn) .nil), rfl⟩
  · exact h

theorem alike_deliver (h : AgreeIn root v v') (ht : Into root target)
    (htemporary : Into root temporary) (hn : temporary.names ≠ []) (r : Refusals) (cwd : Path)
    (content : Bytes) :
    Alike root (deliver r cwd temporary target content v)
      (deliver r cwd temporary target content v') := by
  refine alike_tidied ((alike_fill h r temporary content).andThen fun hfilled => ?_) hn
  exact alike_step hfilled (hfilled.replace htemporary hn ht cwd) r .move temporary

/-- Saves into a directory on which two volumes agree go the same way on both. -/
theorem alike_save (h : AgreeIn root v v') (ht : Inside root target) (r : Refusals) (mark : String)
    (cwd : Path) (content : Bytes) :
    Alike root (save r mark v cwd target content) (save r mark v' cwd target content) := by
  refine (alike_makeParent h ht.into r cwd).andThen fun hmade => ?_
  -- the free name is looked for in the directory, so it is the same on both
  have hpath := temporaryPath_congr hmade ht mark cwd
  have htemporary := into_temporaryPath ht mark cwd (makeParent r cwd target v).final
  have hn := temporaryPath_ne_nil mark cwd target (makeParent r cwd target v).final
  simp only [hpath]
  refine (alike_step hmade (hmade.create htemporary cwd) r .temporary _).andThen fun hcreated => ?_
  exact alike_deliver hcreated ht.into htemporary hn r cwd content

end Output

/-- Compiles into a directory on which two volumes agree end alike on both. -/
theorem Compiler.compile_alike {c : Compiler} {w : Workspace} {r : Request} {v : Volume}
    {root : List String} (h : SameFor c w r v) (hagree : AgreeIn root w.volume v)
    (htarget : Output.Inside root (Path.ofString r.output)) (fetch : Fetch.State) :
    (c.compile r ⟨w.on v, fetch⟩).1 = (c.compile r ⟨w, fetch⟩).1 ∧
      (c.compile r ⟨w.on v, fetch⟩).2.fetch = (c.compile r ⟨w, fetch⟩).2.fetch ∧
      AgreeIn root (c.compile r ⟨w, fetch⟩).2.workspace.volume
        (c.compile r ⟨w.on v, fetch⟩).2.workspace.volume := by
  unfold compile
  rw [compose_congr h]
  cases c.compose r ⟨w, fetch⟩ with
  | mk composed fetch' =>
    cases composed with
    | error stop => cases stop <;> exact ⟨rfl, rfl, hagree⟩
    | ok page =>
      have hsaves : Alike root (c.save r w page) (c.save r (w.on v) page) :=
        Output.alike_save hagree htarget c.refusals c.mark w.cwd _
      simp only [hsaves.refusal]
      split
      · exact ⟨rfl, rfl, hsaves.final⟩
      · split
        · exact ⟨rfl, rfl, hsaves.final⟩
        · exact ⟨rfl, rfl, hsaves.final⟩

end Storybind
