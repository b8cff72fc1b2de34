import Mathlib.Tactic
import Storybind.Page.Document
import Storybind.Proofs.Json.Guarded
import Storybind.Proofs.Json.Writing

/-!
The data in a page. It holds no closing tag and no two opening braces, and reads as the value that was
written.
-/

namespace Storybind.Page

open Text (HasPair replacePair)

theorem toList_replace {a b : Char} {piece : String} (h : piece.toList = [a, b]) (s new : String) :
    (Text.replace s piece new).toList = replacePair a b new.toList s.toList := by
  rw [Text.replace, String.toList_ofList, h, Text.replaceChars_pair]

theorem toList_guardData (s : String) :
    (guardData s).toList = replacePair '\x7b' '\x7b' "\x7b\\u007b".toList
      (replacePair '<' '/' "<\\/".toList s.toList) := by
  have hslash : "</".toList = ['<', '/'] := by decide
  have hbrace : "\x7b\x7b".toList = ['\x7b', '\x7b'] := by decide
  rw [guardData, toList_replace hbrace, toList_replace hslash]

theorem isGuard_slash : Json.IsGuard '<' '/' ['\\', '/'] where
  first := by decide
  second := by decide
  escape := by decide
  unescaped := by decide
  spells := Json.SpellsChar.short rfl

theorem isGuard_brace : Json.IsGuard '\x7b' '\x7b' "\\u007b".toList where
  first := by decide
  second := by decide
  escape := by decide
  unescaped := by decide
  spells := Json.SpellsChar.code (n := 0x7b) rfl (by decide)

/-- Guarded data holds no closing tag and no slot of a template. -/
theorem not_hasPair_guardData (s : String) :
    ¬HasPair '<' '/' (guardData s).toList ∧ ¬HasPair '\x7b' '\x7b' (guardData s).toList := by
  rw [toList_guardData]
  have hslash : ¬HasPair '<' '/' (replacePair '<' '/' "<\\/".toList s.toList) :=
    Text.not_hasPair_replacePair (by decide) (by decide)
  exact ⟨Text.not_hasPair_replacePair_of_not_mem (by decide) hslash,
    Text.not_hasPair_replacePair (by decide) (by decide)⟩

/-- Guarded JSON text reads as the value that it spells. -/
theorem read_guardData {t : List Char} {v : Value} (h : Json.Spells t v) :
    Json.read (guardData (String.ofList t)) = .ok v := by
  have ht : (String.ofList t).toList = t := String.toList_ofList
  rw [Json.read, toList_guardData, ht]
  exact Json.readChars_spells
    (Json.spells_replacePair isGuard_brace (Json.spells_replacePair isGuard_slash h))

namespace Content

/-- A scene whose name opens a slot behind a backslash. -/
def taleScene : Value := .record [("name", .text "\\\x7b\x7bVN_TITLE"),
  ("steps", .list 1 [.int (-3), .float (Float.ofBits 0x3fe0000000000000), .bool true])]

/-- A page whose script closes a script element and opens a slot. -/
def tale : Content where
  template := ""
  scripts := []
  theme := ⟨"base", "Base", []⟩
  look := ""
  title := "Tale"
  metadata := []
  script := "</script>\x7b\x7b\x7b"
  scenes := [taleScene]
  gameVariables := []
  assets := []
  mounts := []
  parts := Parts.empty
  bundle := Bundle.empty
  manifest := .record []
  generated := ""
  customStyle := ""
  customScript := ""
  minify := false

theorem isJson_tale : Json.IsJson [] tale.data := by
  have hhalf : floatView (Float.ofBits 0x3fe0000000000000) = .finite false ⟨2 ^ 52, -53⟩ := rfl
  have hscene : Json.IsJson [0, 0, 0] taleScene := by
    refine Json.isJson_record (by decide) ?_
    simp only [List.forall_mem_cons]
    refine ⟨.text _, .list (fun _ => by decide) ?_, nofun⟩
    simp only [List.forall_mem_cons]
    exact ⟨.int (Json.isOverlong_of_digit (by decide)), .float hhalf, .bool true, nofun⟩
  refine Json.isJson_record (by decide) ?_
  simp only [List.forall_mem_cons]
  refine ⟨Json.isJson_record (by decide) ?_, Json.isJson_record (by decide) ?_, nofun⟩
  · simp only [List.forall_mem_cons]
    exact ⟨.text _, Json.isJson_ofList (List.forall_mem_cons.mpr ⟨hscene, nofun⟩),
      Json.isJson_nothing, Json.isJson_nothing, Json.isJson_nothing, Json.isJson_ofList nofun,
      nofun⟩
  · simp only [List.forall_mem_cons]
    exact ⟨.text _, .bool _, .text _, .text _, Json.isJson_nothing, nofun⟩

end Content
end Storybind.Page
