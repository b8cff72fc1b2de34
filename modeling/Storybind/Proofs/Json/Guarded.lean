import Mathlib.Tactic
import Storybind.Proofs.Json.Spelling

/-!
Replacing a pair of characters that only texts between quotes hold leaves what a JSON text spells. What
is written holds no control characters but line feeds.
-/

namespace Storybind.Json

open Text (replacePair)

variable {a b : Char} {spelling : List Char}

theorem not_mem_of_frame (hg : IsGuard a b spelling) {t : List Char} (h : ∀ c ∈ t, c ∈ frame) :
    a ∉ t := fun ha => hg.first (h a ha)

theorem frame_of_all {t : List Char} (h : t.all frame.contains = true) : ∀ c ∈ t, c ∈ frame := by
  intro c hc
  simpa using List.all_eq_true.mp h c hc

theorem head?_ne_of_frame (hg : IsGuard a b spelling) {c : Char} (hc : c ∈ frame)
    (cs : List Char) : (c :: cs).head? ≠ some b := by
  intro h
  exact hg.second (Option.some.inj h ▸ hc)

theorem frame_of_allBlanks {ws : List Char} (h : AllBlanks ws) : ∀ c ∈ ws, c ∈ frame := by
  intro c hc
  rcases h c hc with rfl | rfl <;> decide

theorem frame_of_allDigits {ds : List Char} (h : AllDigits ds) : ∀ c ∈ ds, c ∈ frame := by
  intro c hc
  have hdigit := h c hc
  simp only [Text.isAsciiDigit, Bool.and_eq_true, decide_eq_true_eq] at hdigit
  have hall : ∀ k < 58, 48 ≤ k → Char.ofNat k ∈ frame := by decide
  have hmem := hall c.toNat (by omega) hdigit.1
  rwa [Char.ofNat_toNat] at hmem

theorem frame_of_numeral {n : Numeral} (h : n.IsWellFormed) : ∀ c ∈ n.text, c ∈ frame := by
  intro c hc
  rw [Numeral.text, List.mem_append, List.mem_append, List.mem_append] at hc
  rcases hc with ((hc | hc) | hc) | hc
  · split at hc
    · obtain rfl := List.mem_singleton.mp hc
      decide
    · cases hc
  · exact frame_of_allDigits h.whole c hc
  · unfold Numeral.partText at hc
    split at hc
    · cases hc
    · rcases List.mem_cons.mp hc with rfl | hc
      · decide
      · exact frame_of_allDigits h.part c hc
  · unfold Numeral.exponentText at hc
    cases hexp : n.exponent with
    | none =>
      rw [hexp] at hc
      cases hc
    | some e =>
      rw [hexp] at hc
      simp only [List.mem_cons] at hc
      rcases hc with rfl | rfl | hc
      · decide
      · split <;> decide
      · exact frame_of_allDigits (h.exponent e hexp).1 c hc

theorem replacePair_joinItems (hg : IsGuard a b spelling) (layout : Layout) (depth : Nat)
    (ts : List (List Char)) :
    replacePair a b (a :: spelling) (joinItems (itemMark layout depth) ts) =
      joinItems (itemMark layout depth) (ts.map (replacePair a b (a :: spelling))) := by
  induction ts with
  | nil => rfl
  | cons t ts ih =>
    cases ts with
    | nil => rfl
    | cons u us =>
      obtain ⟨ws, hmark, hws⟩ := exists_itemMark layout depth
      -- the items are apart by a mark of the frame, so no pair goes over it
      have hcomma : ',' ∈ frame := by decide
      have hframe : ∀ c ∈ ',' :: ws, c ∈ frame :=
        List.forall_mem_cons.mpr ⟨hcomma, frame_of_allBlanks hws⟩
      have hhead : ((',' :: ws) ++ joinItems (itemMark layout depth) (u :: us)).head? ≠ some b :=
        head?_ne_of_frame hg hcomma _
      rw [List.map_cons, List.map_cons, joinItems_cons, joinItems_cons, ← List.map_cons, ← ih,
        hmark, Text.replacePair_append (hmark ▸ hhead),
        Text.replacePair_append_of_not_mem (not_mem_of_frame hg hframe)]

/-- A replaced pair stands neither in the marks of a container nor across one of them. -/
theorem replacePair_enclose (hg : IsGuard a b spelling) (layout : Layout) (depth : Nat)
    {opening closing : Char} (hclosing : closing ∈ frame) {ts : List (List Char)}
    (hopening : opening ∈ frame ∨ ∀ t ∈ ts, StartsIn frame t) :
    replacePair a b (a :: spelling) (enclose layout depth opening closing ts) =
      enclose layout depth opening closing (ts.map (replacePair a b (a :: spelling))) := by
  cases ts with
  | nil =>
    have hpair : ¬(opening = a ∧ closing = b) := fun h => hg.second (h.2 ▸ hclosing)
    have hempty : enclose layout depth opening closing [] = [opening, closing] := rfl
    rw [hempty, List.map_nil, hempty, replacePair, if_neg hpair]
    rfl
  | cons t ts =>
    have hlead := frame_of_allBlanks (allBlanks_breakAt layout (depth + 1))
    have htrail := frame_of_allBlanks (allBlanks_breakAt layout depth)
    -- behind the items only characters of the frame follow
    have hend : ∀ c ∈ breakAt layout depth ++ [closing], c ∈ frame := by
      intro c hc
      rcases List.mem_append.mp hc with hc | hc
      · exact htrail c hc
      · rwa [List.mem_singleton.mp hc]
    have hendHead : (breakAt layout depth ++ [closing]).head? ≠ some b := by
      intro h
      exact hg.second (hend b (List.mem_of_head? h))
    have hinside : replacePair a b (a :: spelling) (breakAt layout (depth + 1) ++
        (joinItems (itemMark layout (depth + 1)) (t :: ts) ++ (breakAt layout depth ++ [closing]))) =
        breakAt layout (depth + 1) ++ (joinItems (itemMark layout (depth + 1))
          ((t :: ts).map (replacePair a b (a :: spelling))) ++
            (breakAt layout depth ++ [closing])) := by
      rw [Text.replacePair_append_of_not_mem (not_mem_of_frame hg hlead),
        Text.replacePair_append hendHead, replacePair_joinItems hg,
        Text.replacePair_of_not_mem (not_mem_of_frame hg hend)]
    have hwritten (us : List (List Char)) (u : List Char) :
        enclose layout depth opening closing (u :: us) = opening :: (breakAt layout (depth + 1) ++
          (joinItems (itemMark layout (depth + 1)) (u :: us) ++
            (breakAt layout depth ++ [closing]))) := by
      rw [← enclose_cons, List.append_nil]
    rw [hwritten, List.map_cons, hwritten, ← List.map_cons, ← hinside]
    rcases hopening with hopening | hstart
    · exact Text.replacePair_cons_of_ne fun h => hg.first (h ▸ hopening)
    -- The opening mark may be of the pair, but what follows it is not.
    · have hhead : (breakAt layout (depth + 1) ++ (joinItems (itemMark layout (depth + 1)) (t :: ts) ++
          (breakAt layout depth ++ [closing]))).head? ≠ some b := by
        have hitem : StartsIn frame t := hstart t List.mem_cons_self
        obtain ⟨c, hc, hc'⟩ := (startsIn_joinItems hitem (itemMark layout (depth + 1)) ts).append
          (breakAt layout depth ++ [closing])
        rw [List.head?_append, hc']
        intro h
        refine hg.second ?_
        cases hbreak : (breakAt layout (depth + 1)).head? with
        | none =>
          rw [hbreak] at h
          exact Option.some.inj h ▸ hc
        | some d =>
          rw [hbreak] at h
          exact Option.some.inj h ▸ hlead d (List.mem_of_head? hbreak)
      exact Text.replacePair_append (s := [opening]) hhead

/-- A field with the pair replaced in its name and in its value. -/
def SpelledField.guarded (a b : Char) (spelling : List Char) (f : SpelledField) : SpelledField :=
  { f with
    literal := replacePair a b (a :: spelling) f.literal
    body := replacePair a b (a :: spelling) f.body }

theorem text_guarded (hg : IsGuard a b spelling) (f : SpelledField) :
    replacePair a b (a :: spelling) f.text = (f.guarded a b spelling).text := by
  have hcolon : ':' ∈ frame := by decide
  have hmark : a ∉ [':', ' '] := not_mem_of_frame hg (frame_of_all (by decide))
  have hhead : ([':', ' '] ++ f.body).head? ≠ some b := head?_ne_of_frame hg hcolon _
  have htext : f.text = f.literal ++ ([':', ' '] ++ f.body) := rfl
  rw [htext, Text.replacePair_append hhead, Text.replacePair_append_of_not_mem hmark]
  rfl

/-- A text goes on spelling its value when a guarded pair is replaced. -/
theorem spells_replacePair (hg : IsGuard a b spelling) {t : List Char} {v : Value}
    (h : Spells t v) : Spells (replacePair a b (a :: spelling) t) v := by
  induction h with
  | null =>
    rw [Text.replacePair_of_not_mem (not_mem_of_frame hg (frame_of_all (by decide)))]
    exact Spells.null
  | true =>
    rw [Text.replacePair_of_not_mem (not_mem_of_frame hg (frame_of_all (by decide)))]
    exact Spells.true
  | false =>
    rw [Text.replacePair_of_not_mem (not_mem_of_frame hg (frame_of_all (by decide)))]
    exact Spells.false
  | number h =>
    rw [Text.replacePair_of_not_mem (not_mem_of_frame hg (frame_of_numeral h))]
    exact Spells.number h
  | text h => exact Spells.text (literal_replacePair hg h)
  | @list layout depth parts h ih =>
    let guarded := parts.map fun p => (replacePair a b (a :: spelling) p.1, p.2)
    have hparts : ∀ p ∈ guarded, Spells p.1 p.2 := by
      intro p hp
      obtain ⟨q, hq, rfl⟩ := List.mem_map.mp hp
      exact ih q hq
    have hspells : Spells (enclose layout depth '[' ']' (guarded.map Prod.fst))
        (.ofList (guarded.map Prod.snd)) := Spells.list hparts
    have hvalues : guarded.map Prod.snd = parts.map Prod.snd := List.map_map
    rw [replacePair_enclose hg layout depth (by decide) (Or.inl (by decide)), List.map_map]
    rw [hvalues, List.map_map] at hspells
    exact hspells
  | @mapping layout depth fields hnames hliterals h ih =>
    -- an opening brace is followed by a quote, blanks or the closing brace, never by another one
    have hstart : ∀ t ∈ fields.map SpelledField.text, StartsIn frame t := by
      intro t ht
      obtain ⟨f, hf, rfl⟩ := List.mem_map.mp ht
      obtain ⟨c, hc, hhead⟩ := (startsIn_literal (hliterals f hf)).append (':' :: ' ' :: f.body)
      obtain rfl := List.mem_singleton.mp hc
      exact ⟨'\x22', by decide, hhead⟩
    let guarded := fields.map (SpelledField.guarded a b spelling)
    have hguarded : ∀ g ∈ guarded, Literal g.literal g.name ∧ Spells g.body g.value := by
      intro g hg'
      obtain ⟨f, hf, rfl⟩ := List.mem_map.mp hg'
      exact ⟨literal_replacePair hg (hliterals f hf), ih f hf⟩
    have hnames' : guarded.map SpelledField.name = fields.map SpelledField.name := List.map_map
    have hentries : SpelledField.entries guarded = SpelledField.entries fields := List.map_map
    have hspells : Spells (enclose layout depth '\x7b' '\x7d' (guarded.map SpelledField.text))
        (.ofEntries (SpelledField.entries guarded)) :=
      Spells.mapping (by rwa [hnames']) (fun g hg' => (hguarded g hg').1)
        fun g hg' => (hguarded g hg').2
    have htexts : (fields.map SpelledField.text).map (replacePair a b (a :: spelling)) =
        guarded.map SpelledField.text := by
      rw [List.map_map, List.map_map]
      exact List.map_congr_left fun f _ => text_guarded hg f
    rw [replacePair_enclose hg layout depth (by decide) (Or.inr hstart), htexts, ← hentries]
    exact hspells

/-! ### Control characters -/

/-- A line feed, or no control character. -/
def IsPrinted (c : Char) : Prop := c = '\n' ∨ 32 ≤ c.toNat

theorem isPrinted_of_frame {c : Char} (h : c ∈ frame) : IsPrinted c := by
  have hall : (frame.all fun c => c = '\n' || 32 ≤ c.toNat) = true := by decide
  simpa [IsPrinted] using List.all_eq_true.mp hall c h

theorem isPrinted_of_escapes {c : Char} (h : c ∈ escapes) : IsPrinted c := by
  have hall : (escapes.all fun c => c = '\n' || 32 ≤ c.toNat) = true := by decide
  simpa [IsPrinted] using List.all_eq_true.mp hall c h

theorem isPrinted_of_spellsChar {u : List Char} {c : Char} (h : SpellsChar u c) :
    ∀ d ∈ u, IsPrinted d := by
  have hslash : '\\' ∈ escapes := by decide
  cases h with
  | plain _ _ hcontrol =>
    intro d hd
    obtain rfl := List.mem_singleton.mp hd
    exact .inr hcontrol
  | short h =>
    refine List.forall_mem_cons.mpr ⟨isPrinted_of_escapes hslash, fun d hd => ?_⟩
    obtain rfl := List.mem_singleton.mp hd
    exact isPrinted_of_escapes (mem_escapes_of_shortEscape? h)
  | code h _ => exact fun d hd => isPrinted_of_escapes (mem_escapes_of_unitEscape h d hd)
  | @pair p q r s p' q' r' s' _ _ hhigh hlow _ _ =>
    have hunits : ∀ d ∈ ['\\', 'u', p, q, r, s] ++ ['\\', 'u', p', q', r', s'], IsPrinted d :=
      List.forall_mem_append.mpr
        ⟨fun d hd => isPrinted_of_escapes (mem_escapes_of_unitEscape hhigh d hd),
          fun d hd => isPrinted_of_escapes (mem_escapes_of_unitEscape hlow d hd)⟩
    exact hunits

theorem isPrinted_flatten {us : List (List Char)} {cs : List Char}
    (h : List.Forall₂ SpellsChar us cs) : ∀ d ∈ us.flatten, IsPrinted d := by
  induction h with
  | nil => exact nofun
  | cons hu _ ih =>
    rw [List.flatten_cons]
    exact List.forall_mem_append.mpr ⟨isPrinted_of_spellsChar hu, ih⟩

theorem isPrinted_of_literal {t : List Char} {s : String} (h : Literal t s) : ∀ c ∈ t, IsPrinted c := by
  have hquote : IsPrinted '\x22' := isPrinted_of_frame (by decide)
  cases h with
  | @quoted us _ h =>
    have hclosing : ∀ d ∈ ['\x22'], IsPrinted d := List.forall_mem_cons.mpr ⟨hquote, nofun⟩
    exact List.forall_mem_cons.mpr
      ⟨hquote, List.forall_mem_append.mpr ⟨isPrinted_flatten h, hclosing⟩⟩

theorem isPrinted_joinItems {mark : List Char} {ts : List (List Char)}
    (hmark : ∀ c ∈ mark, IsPrinted c) (h : ∀ t ∈ ts, ∀ c ∈ t, IsPrinted c) :
    ∀ c ∈ joinItems mark ts, IsPrinted c := by
  induction ts with
  | nil => exact nofun
  | cons t ts ih =>
    obtain ⟨ht, hts⟩ := List.forall_mem_cons.mp h
    cases ts with
    | nil => exact ht
    | cons u us =>
      rw [joinItems_cons]
      exact List.forall_mem_append.mpr ⟨ht, List.forall_mem_append.mpr ⟨hmark, ih hts⟩⟩

theorem isPrinted_enclose (layout : Layout) (depth : Nat) {opening closing : Char}
    {ts : List (List Char)} (hopening : IsPrinted opening) (hclosing : IsPrinted closing)
    (h : ∀ t ∈ ts, ∀ c ∈ t, IsPrinted c) :
    ∀ c ∈ enclose layout depth opening closing ts, IsPrinted c := by
  have hbreak (n : Nat) : ∀ c ∈ breakAt layout n, IsPrinted c := fun c hc =>
    isPrinted_of_frame (frame_of_allBlanks (allBlanks_breakAt layout n) c hc)
  have hmark : ∀ c ∈ itemMark layout (depth + 1), IsPrinted c := by
    obtain ⟨ws, hws, hblanks⟩ := exists_itemMark layout (depth + 1)
    rw [hws]
    exact List.forall_mem_cons.mpr ⟨isPrinted_of_frame (by decide),
      fun c hc => isPrinted_of_frame (frame_of_allBlanks hblanks c hc)⟩
  cases ts with
  | nil => exact List.forall_mem_cons.mpr ⟨hopening, List.forall_mem_cons.mpr ⟨hclosing, nofun⟩⟩
  | cons t ts =>
    have hinside := enclose_cons layout depth opening closing t ts []
    rw [List.append_nil] at hinside
    rw [hinside]
    refine List.forall_mem_cons.mpr ⟨hopening, List.forall_mem_append.mpr ⟨hbreak _, ?_⟩⟩
    refine List.forall_mem_append.mpr ⟨isPrinted_joinItems hmark h, ?_⟩
    exact List.forall_mem_append.mpr ⟨hbreak _, List.forall_mem_cons.mpr ⟨hclosing, nofun⟩⟩

/-- JSON text holds no control characters but line feeds. -/
theorem isPrinted_of_spells {t : List Char} {v : Value} (h : Spells t v) : ∀ c ∈ t, IsPrinted c := by
  have hword {t : List Char} (h : t.all frame.contains = true) : ∀ c ∈ t, IsPrinted c := fun c hc =>
    isPrinted_of_frame (frame_of_all h c hc)
  induction h with
  | null => exact hword (by decide)
  | true => exact hword (by decide)
  | false => exact hword (by decide)
  | number h => exact fun c hc => isPrinted_of_frame (frame_of_numeral h c hc)
  | text h => exact isPrinted_of_literal h
  | @list layout depth parts h ih =>
    refine isPrinted_enclose layout depth (isPrinted_of_frame (by decide))
      (isPrinted_of_frame (by decide)) fun t ht => ?_
    obtain ⟨p, hp, rfl⟩ := List.mem_map.mp ht
    exact ih p hp
  | @mapping layout depth fields hnames hliterals h ih =>
    refine isPrinted_enclose layout depth (.inr (by decide)) (isPrinted_of_frame (by decide))
      fun t ht => ?_
    obtain ⟨f, hf, rfl⟩ := List.mem_map.mp ht
    have hmiddle : ∀ c ∈ ':' :: ' ' :: f.body, IsPrinted c :=
      List.forall_mem_cons.mpr ⟨isPrinted_of_frame (by decide),
        List.forall_mem_cons.mpr ⟨isPrinted_of_frame (by decide), ih f hf⟩⟩
    exact List.forall_mem_append.mpr ⟨isPrinted_of_literal (hliterals f hf), hmiddle⟩

end Storybind.Json
