import Mathlib.Tactic
import Storybind.Proofs.Json.Writing
import Storybind.Proofs.Script.Settings

/-!
Directives as they are written. Each is found in any text around it with all its fields, and its
settings are read back.
-/

namespace Storybind

def DirectiveToken.start : DirectiveToken → Nat
  | directive d => d.start
  | malformed _ start => start

namespace Directive

/-! ### Where tokens start -/

variable {t : DirectiveToken} {position : Nat} {s : List Char}

theorem start_of_tokenAt? (h : tokenAt? position s = some t) : t.start = position := by
  obtain ⟨rest, -, rfl⟩ := Option.map_eq_some_iff.mp h
  split
  · next d hd =>
    simp only [read?, Option.bind_eq_bind, Option.bind_eq_some_iff] at hd
    obtain ⟨_, -, _, -, _, -, _, -, _, -, _, -, _, -, _, -, _, -, _, -, _, -, heq⟩ := hd
    cases heq
    rfl
  · rfl

theorem le_start_of_mem_findFrom (h : t ∈ findFrom position s) : position ≤ t.start := by
  -- the position grows along the text
  induction s generalizing position with
  | nil => cases h
  | cons c cs ih =>
    rw [findFrom] at h
    split at h
    · next u hu =>
      rcases List.mem_cons.mp h with rfl | hlater
      · exact (start_of_tokenAt? hu).ge
      · have hnext := ih hlater
        omega
    · have hnext := ih h
      omega

theorem findFrom_append (position : Nat) (s rest : List Char) :
    ∃ earlier, findFrom position (s ++ rest) = earlier ++ findFrom (position + s.length) rest ∧
      ∀ t ∈ earlier, t.start < position + s.length := by
  -- a token in the first part may reach into the rest, so only its start is said of it
  induction s generalizing position with
  | nil => exact ⟨[], rfl, nofun⟩
  | cons c cs ih =>
    obtain ⟨earlier, hfind, hstarts⟩ := ih (position + 1)
    have hlength : position + (c :: cs).length = position + 1 + cs.length := by
      rw [List.length_cons]
      omega
    rw [hlength, List.cons_append, findFrom]
    split
    · next u hu =>
      refine ⟨u :: earlier, ?_, ?_⟩
      · rw [hfind, List.cons_append]
      · intro t ht
        rcases List.mem_cons.mp ht with rfl | ht
        · have hstart := start_of_tokenAt? hu
          omega
        · exact hstarts t ht
    · exact ⟨earlier, hfind, hstarts⟩

/-! ### Quoted fields -/

/-- A text between quotes. -/
def quoted (s : String) : String := "\x22" ++ s ++ "\x22"

theorem toList_quoted (s : String) (rest : List Char) :
    (quoted s).toList ++ rest = '\x22' :: (s.toList ++ '\x22' :: rest) := by
  simp [quoted]

theorem afterQuote?_quote (s : List Char) : afterQuote? ('\x22' :: s) = some s := rfl

theorem field?_quoted {s : String} (h : Plain s) (rest : List Char) :
    field? ((quoted s).toList ++ rest) = some (s.toList, rest) := by
  have hall : ∀ c ∈ s.toList, (!isQuote c) = true := by
    intro c hc
    rw [h.unquoted c hc]
    rfl
  have hquote : ¬(fun c => !isQuote c) '\x22' = true := by decide
  have hbody : (s.toList ++ '\x22' :: rest).takeWhile (fun c => !isQuote c) = s.toList := by
    rw [List.takeWhile_append_of_pos hall, List.takeWhile_cons_of_neg (p := fun c => !isQuote c) hquote,
      List.append_nil]
  have hrest : (s.toList ++ '\x22' :: rest).dropWhile (fun c => !isQuote c) = '\x22' :: rest := by
    rw [List.dropWhile_append_of_pos hall, List.dropWhile_cons_of_neg (p := fun c => !isQuote c) hquote]
  simp only [toList_quoted, field?, afterQuote?_quote, Option.bind_eq_bind, Option.bind_some, hbody,
    hrest, Option.pure_def]

theorem filledField?_quoted {s : String} (h : Plain s) (hne : s ≠ "") (rest : List Char) :
    filledField? ((quoted s).toList ++ rest) = some (s.toList, rest) := by
  have hfilled : s.toList.isEmpty = false := by
    rw [List.isEmpty_eq_false_iff, Ne, String.toList_eq_nil_iff]
    exact hne
  rw [filledField?, field?_quoted h]
  simp [Option.filter, hfilled]

theorem afterBlanks?_quoted (s : String) (rest : List Char) :
    afterBlanks? (' ' :: ((quoted s).toList ++ rest)) = some ((quoted s).toList ++ rest) := by
  have hblank : Text.isBlank ' ' = true := by decide
  have hquote : ¬Text.isBlank '\x22' = true := by decide
  rw [toList_quoted, afterBlanks?, if_pos hblank, List.dropWhile_cons_of_neg hquote]

theorem plain_trim {s : String} (h : Plain s) : Text.trim (String.ofList s.toList) = s := by
  rw [String.ofList_toList]
  exact h.trim_eq

end Directive

open Directive (Plain quoted)

/-! ### Directives as they are written -/

/-- A component to be mounted, as an author names it. -/
structure Mounting where
  component : String
  script : String
  stylesheet : Option String
  instanceName : String
  settings : List (String × Setting)

namespace Mounting

/-- The fields of a directive, after its start. -/
def fields (m : Mounting) : String :=
  " " ++ quoted m.component ++ " " ++ quoted m.script ++ " " ++ quoted (m.stylesheet.getD "") ++ " " ++
    quoted m.instanceName ++ " " ++ quoted (MountSettings.written m.settings) ++ "\x7d\x7d"

/-- The directive that mounts a component, as it is written. -/
def written (m : Mounting) : String := "\x7b\x7bcomponent " ++ quoted "create" ++ m.fields

/-- The directive that mounts a component, as it is read at a position. -/
def directive (m : Mounting) (start : Nat) : Directive :=
  ⟨m.component, m.script, m.stylesheet, m.instanceName, MountSettings.written m.settings, start⟩

/-- What can be written in a directive. -/
structure IsWritable (m : Mounting) : Prop where
  component : Plain m.component ∧ m.component ≠ ""
  script : Plain m.script ∧ m.script ≠ ""
  stylesheet : ∀ s, m.stylesheet = some s → Plain s ∧ s ≠ "" ∧ Text.lower s ≠ "null"
  instanceName : Plain m.instanceName ∧ m.instanceName ≠ ""
  settings : ∀ p ∈ m.settings, MountSettings.IsName p.1 ∧ p.2.IsWritable
  distinct : (m.settings.map Prod.fst).Nodup

variable {m : Mounting}

theorem plain_stylesheet (h : m.IsWritable) : Plain (m.stylesheet.getD "") := by
  cases hs : m.stylesheet with
  | none => exact (by decide : Plain "")
  | some s => exact (h.stylesheet s hs).1

theorem stylesheetOf_written (h : m.IsWritable) :
    Directive.stylesheetOf (m.stylesheet.getD "").toList = m.stylesheet := by
  rw [Directive.stylesheetOf, Directive.plain_trim (plain_stylesheet h)]
  cases hs : m.stylesheet with
  | none => rfl
  | some s =>
    obtain ⟨-, hne, hnull⟩ := h.stylesheet s hs
    simp [hne, hnull]

theorem read?_fields (h : m.IsWritable) (start : Nat) (rest : List Char) :
    Directive.read? start (m.fields.toList ++ rest) = some (m.directive start) := by
  have hsettings := MountSettings.plain_written h.settings
  have hspace : " ".toList = [' '] := rfl
  have hclosing : ("\x7d\x7d" : String).toList ++ rest = Directive.closing ++ rest := rfl
  have hbrace : ¬Text.isBlank '\x7d' = true := by decide
  have hend : Text.after? Directive.closing ((Directive.closing ++ rest).dropWhile Text.isBlank) =
      some rest := by
    rw [Directive.closing, List.cons_append, List.dropWhile_cons_of_neg hbrace]
    rfl
  have htext : m.fields.toList ++ rest =
      ' ' :: ((quoted m.component).toList ++ ' ' :: ((quoted m.script).toList ++
        ' ' :: ((quoted (m.stylesheet.getD "")).toList ++ ' ' :: ((quoted m.instanceName).toList ++
          ' ' :: ((quoted (MountSettings.written m.settings)).toList ++ (Directive.closing ++ rest)))))) := by
    simp only [fields, String.toList_append, hspace, List.append_assoc, hclosing, List.cons_append,
      List.nil_append]
  -- field by field, each with the blank before it
  rw [htext]
  simp only [Directive.read?, Directive.afterBlanks?_quoted,
    Directive.filledField?_quoted h.component.1 h.component.2,
    Directive.filledField?_quoted h.script.1 h.script.2, Directive.field?_quoted (plain_stylesheet h),
    Directive.filledField?_quoted h.instanceName.1 h.instanceName.2, Directive.field?_quoted hsettings,
    hend, Option.bind_eq_bind, Option.bind_some, Option.pure_def, Directive.plain_trim h.component.1,
    Directive.plain_trim h.script.1, Directive.plain_trim h.instanceName.1,
    Directive.plain_trim hsettings, stylesheetOf_written h]
  rfl

theorem afterStart?_written (m : Mounting) (rest : List Char) :
    Directive.afterStart? (m.written.toList ++ rest) = some (m.fields.toList ++ rest) := by
  have hpiece : ∀ piece s : List Char, Text.after? piece (piece ++ s) = some s :=
    fun _ _ => Text.after?_eq_some.mpr rfl
  have hstart : "\x7b\x7bcomponent ".toList = Directive.opening ++ ("component".toList ++ [' ']) := by
    decide
  have htext : m.written.toList ++ rest = Directive.opening ++ ("component".toList ++
      ' ' :: ((quoted "create").toList ++ (m.fields.toList ++ rest))) := by
    simp only [written, String.toList_append, hstart, List.append_assoc, List.cons_append,
      List.nil_append]
  have hword : ∀ s : List Char, ("component".toList ++ s).dropWhile Text.isBlank = "component".toList ++ s :=
    fun _ => rfl
  rw [htext, Directive.afterStart?]
  simp only [hpiece, hword, Directive.afterBlanks?_quoted, Option.bind_eq_bind, Option.bind_some]
  rw [Directive.toList_quoted]
  simp only [hpiece, Directive.afterQuote?_quote, Option.bind_some]

theorem tokenAt?_written (h : m.IsWritable) (start : Nat) (rest : List Char) :
    Directive.tokenAt? start (m.written.toList ++ rest) = some (.directive (m.directive start)) := by
  rw [Directive.tokenAt?, afterStart?_written, Option.map_some, read?_fields h]

/-- A written directive is found in any text around it, with all its fields and at its place, and its
settings are read back in their order. -/
theorem find_written (h : m.IsWritable) (before after : String) :
    (∃ earlier later, Directive.find (before ++ m.written ++ after) =
        earlier ++ .directive (m.directive before.length) :: later ∧
      (∀ t ∈ earlier, t.start < before.length) ∧ ∀ t ∈ later, before.length < t.start) ∧
    MountSettings.read (m.directive before.length).settings =
      .ok ⟨m.settings.map fun p => (.text p.1, p.2.value), []⟩ := by
  refine ⟨?_, MountSettings.read_written h.settings h.distinct⟩
  obtain ⟨earlier, hfind, hearlier⟩ :=
    Directive.findFrom_append 0 before.toList (m.written.toList ++ after.toList)
  have hlength : 0 + before.toList.length = before.length := by
    rw [Nat.zero_add, String.length_toList]
  rw [hlength] at hfind hearlier
  have htoken := tokenAt?_written h before.length after.toList
  obtain ⟨c, cs, hcons⟩ : ∃ c cs, m.written.toList ++ after.toList = c :: cs :=
    ⟨'\x7b', _, by simp only [written, String.toList_append, List.append_assoc]; rfl⟩
  have hhere : Directive.findFrom before.length (m.written.toList ++ after.toList) =
      .directive (m.directive before.length) :: Directive.findFrom (before.length + 1) cs := by
    rw [hcons] at htoken ⊢
    rw [Directive.findFrom, htoken]
  refine ⟨earlier, Directive.findFrom (before.length + 1) cs, ?_, hearlier, ?_⟩
  · calc Directive.find (before ++ m.written ++ after)
        = Directive.findFrom 0 (before.toList ++ (m.written.toList ++ after.toList)) := by
          rw [Directive.find, String.toList_append, String.toList_append, List.append_assoc]
      _ = earlier ++ Directive.findFrom before.length (m.written.toList ++ after.toList) := hfind
      _ = earlier ++ .directive (m.directive before.length) ::
            Directive.findFrom (before.length + 1) cs := by rw [hhere]
  · intro t ht
    exact Directive.le_start_of_mem_findFrom ht

/-- A component with one setting of each kind. -/
def keeper : Mounting where
  component := "Keeper"
  script := "./keeper.js"
  stylesheet := some "null.css"
  instanceName := "keeper"
  settings := [("open", .truth true), ("slots", .whole (-3)), ("label", .words "a=b")]

theorem isWritable_keeper : keeper.IsWritable where
  component := by decide +kernel
  script := by decide +kernel
  stylesheet := by
    intro s hs
    obtain rfl : "null.css" = s := Option.some.inj hs
    decide +kernel
  instanceName := by decide +kernel
  settings := by
    have hwords : ¬ReadsAsWhole "a=b".toList ∧ ¬ReadsAsDecimal "a=b".toList :=
      not_readsAs_of_mem 'a' (by decide) (by decide) (by decide) (by decide)
    have hplain : Plain "a=b" := by decide +kernel
    intro p hp
    simp only [keeper, List.mem_cons, List.not_mem_nil, or_false] at hp
    rcases hp with rfl | rfl | rfl
    · exact ⟨by decide +kernel, .truth true⟩
    · exact ⟨by decide +kernel, .whole (Json.isOverlong_of_digit (by decide))⟩
    · exact ⟨by decide +kernel, .words hplain (by decide) (by decide) (by decide) hwords.1 hwords.2⟩
  distinct := by decide

theorem find_written_keeper : keeper.IsWritable ∧ ∃ earlier later,
    Directive.find ("\x7b\x7bcomponent " ++ keeper.written ++ "\x7d\x7d") =
      earlier ++ .directive ⟨"Keeper", "./keeper.js", some "null.css", "keeper",
        "open=true,slots=-3,label=a=b", 12⟩ :: later := by
  refine ⟨isWritable_keeper, ?_⟩
  obtain ⟨⟨earlier, later, hfind, -, -⟩, -⟩ :=
    find_written isWritable_keeper "\x7b\x7bcomponent " "\x7d\x7d"
  have hlength : "\x7b\x7bcomponent ".length = 12 := by decide
  have hsettings : MountSettings.written keeper.settings = "open=true,slots=-3,label=a=b" := by decide
  rw [hlength, directive, hsettings] at hfind
  exact ⟨earlier, later, hfind⟩

end Mounting

end Storybind
