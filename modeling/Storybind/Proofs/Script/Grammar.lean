import Mathlib.Tactic
import Storybind.Proofs.Text.Pieces
import Storybind.Script.Directive

/-!
The grammar of directives, and how it is read. Every quote of a directive is the first after a blank or
the end of a field, so a directive is read in one way only, and no directive starts within another.
-/

namespace Storybind.Directive

/-- Blanks and nothing else. -/
def Blanks (s : List Char) : Prop := ∀ c ∈ s, Text.isBlank c = true

/-- The start of a directive: its opening braces, the word for components and that for mounting. -/
inductive IsStart : List Char → Prop where
  | intro {gap space : List Char} {q q' : Char} (hgap : Blanks gap) (hspace : Blanks space)
      (hne : space ≠ []) (hq : isQuote q = true) (hq' : isQuote q' = true) :
      IsStart (opening ++ (gap ++ ("component".toList ++ (space ++ q :: ("create".toList ++ [q'])))))

/-- A quoted field with the blanks before it. -/
inductive IsField (body : List Char) : List Char → Prop where
  | intro {space : List Char} {q q' : Char} (hspace : Blanks space) (hne : space ≠ [])
      (hq : isQuote q = true) (hq' : isQuote q' = true) (hbody : ∀ c ∈ body, isQuote c = false) :
      IsField body (space ++ q :: (body ++ [q']))

/-- The fields of a directive, as they stand between their quotes. -/
structure Fields where
  component : List Char
  script : List Char
  stylesheet : List Char
  instanceName : List Char
  settings : List Char

/-- The directive with given fields, at a position. -/
def Fields.directive (f : Fields) (start : Nat) : Directive where
  component := Text.trim (String.ofList f.component)
  script := Text.trim (String.ofList f.script)
  stylesheet := stylesheetOf f.stylesheet
  instanceName := Text.trim (String.ofList f.instanceName)
  settings := Text.trim (String.ofList f.settings)
  start := start

/-- What follows the start of a directive: five fields, of which those for the stylesheet and the
settings may be empty, and the closing braces. -/
inductive IsRest (f : Fields) : List Char → Prop where
  | intro {component script stylesheet name settings gap : List Char}
      (hcomponent : f.component ≠ [] ∧ IsField f.component component)
      (hscript : f.script ≠ [] ∧ IsField f.script script)
      (hstylesheet : IsField f.stylesheet stylesheet)
      (hname : f.instanceName ≠ [] ∧ IsField f.instanceName name)
      (hsettings : IsField f.settings settings) (hgap : Blanks gap) :
      IsRest f (component ++ (script ++ (stylesheet ++ (name ++ (settings ++ (gap ++ closing))))))

/-- A directive as it is written. -/
inductive IsWritten (f : Fields) : List Char → Prop where
  | intro {start rest : List Char} (hstart : IsStart start) (hrest : IsRest f rest) :
      IsWritten f (start ++ rest)

variable {f g : Fields} {s t u body rest : List Char} {c q : Char}

theorem blanks_space : Blanks [' '] := List.forall_mem_singleton.mpr rfl

/-- Every field without quotes can be written. -/
theorem exists_isField (h : ∀ c ∈ body, isQuote c = false) : ∃ t, IsField body t :=
  ⟨[' '] ++ '\x22' :: (body ++ ['\x22']), .intro blanks_space (List.cons_ne_nil ' ' []) rfl rfl h⟩

theorem exists_isStart : ∃ t, IsStart t :=
  ⟨opening ++ ([] ++ ("component".toList ++ ([' '] ++ '\x22' :: ("create".toList ++ ['\x22'])))),
    .intro nofun blanks_space (List.cons_ne_nil ' ' []) rfl rfl⟩

/-- Every directive of fields without quotes can be written. -/
theorem exists_isWritten (hcomponent : f.component ≠ [] ∧ ∀ c ∈ f.component, isQuote c = false)
    (hscript : f.script ≠ [] ∧ ∀ c ∈ f.script, isQuote c = false)
    (hstylesheet : ∀ c ∈ f.stylesheet, isQuote c = false)
    (hname : f.instanceName ≠ [] ∧ ∀ c ∈ f.instanceName, isQuote c = false)
    (hsettings : ∀ c ∈ f.settings, isQuote c = false) : ∃ t, IsWritten f t := by
  obtain ⟨start, hstart⟩ := exists_isStart
  obtain ⟨component, hcomponent'⟩ := exists_isField hcomponent.2
  obtain ⟨script, hscript'⟩ := exists_isField hscript.2
  obtain ⟨stylesheet, hstylesheet'⟩ := exists_isField hstylesheet
  obtain ⟨name, hname'⟩ := exists_isField hname.2
  obtain ⟨settings, hsettings'⟩ := exists_isField hsettings
  have hgap : Blanks [] := nofun
  exact ⟨_, .intro hstart (.intro ⟨hcomponent.1, hcomponent'⟩ ⟨hscript.1, hscript'⟩ hstylesheet'
    ⟨hname.1, hname'⟩ hsettings' hgap)⟩

/-! ### Blanks and quotes -/

theorem isBlank_of_isQuote (h : isQuote q = true) : Text.isBlank q = false := by
  simp only [isQuote, Bool.or_eq_true, decide_eq_true_eq] at h
  rcases h with rfl | rfl <;> decide

theorem dropWhile_blanks (hs : Blanks s) (hc : Text.isBlank c = false) :
    (s ++ c :: rest).dropWhile Text.isBlank = c :: rest := by
  rw [List.dropWhile_append_of_pos hs, List.dropWhile_cons_of_neg (by simp [hc])]

theorem takeWhile_blanks (s : List Char) : Blanks (s.takeWhile Text.isBlank) :=
  fun _ hc => List.all_eq_true.mp List.all_takeWhile _ hc

/-- Up to the first quote a text can be read in one way. -/
theorem eq_of_append_quote {s' rest' : List Char} {q' : Char} (hs : ∀ c ∈ s, isQuote c = false)
    (hs' : ∀ c ∈ s', isQuote c = false) (hq : isQuote q = true) (hq' : isQuote q' = true)
    (h : s ++ q :: rest = s' ++ q' :: rest') : s = s' ∧ q = q' ∧ rest = rest' := by
  have htake {a r : List Char} {d : Char} (ha : ∀ c ∈ a, isQuote c = false) (hd : isQuote d = true) :
      (a ++ d :: r).takeWhile (fun c => !isQuote c) = a := by
    have hpass : ∀ c ∈ a, (!isQuote c) = true := fun c hc => by rw [ha c hc]; rfl
    rw [List.takeWhile_append_of_pos hpass, List.takeWhile_cons_of_neg (by simp [hd]), List.append_nil]
  have hsame : s = s' := by rw [← htake hs hq, h, htake hs' hq']
  subst hsame
  obtain ⟨rfl, rfl⟩ := List.cons.inj (List.append_cancel_left h)
  exact ⟨rfl, rfl, rfl⟩

/-! ### Reading the grammar -/

theorem afterQuote?_eq_some : afterQuote? s = some rest ↔ ∃ q, isQuote q = true ∧ s = q :: rest := by
  cases s with
  | nil => simp [afterQuote?]
  | cons c cs =>
    rw [afterQuote?]
    constructor
    · intro h
      split at h
      · next hc => exact ⟨c, hc, by rw [Option.some.inj h]⟩
      · cases h
    · rintro ⟨q, hq, heq⟩
      obtain ⟨rfl, rfl⟩ := List.cons.inj heq
      rw [if_pos hq]

theorem field?_eq_some : field? s = some (body, rest) ↔
    (∀ c ∈ body, isQuote c = false) ∧ ∃ q q', isQuote q = true ∧ isQuote q' = true ∧
      s = q :: (body ++ q' :: rest) := by
  unfold field?
  simp only [Option.bind_eq_bind, Option.bind_eq_some_iff, afterQuote?_eq_some, Option.pure_def,
    Option.some.injEq, Prod.mk.injEq]
  constructor
  · rintro ⟨s', ⟨q, hq, rfl⟩, r, ⟨q', hq', hdrop⟩, rfl, rfl⟩
    refine ⟨fun c hc => ?_, q, q', hq, hq', ?_⟩
    · simpa using List.all_eq_true.mp List.all_takeWhile c hc
    · rw [← hdrop, List.takeWhile_append_dropWhile]
  · rintro ⟨hbody, q, q', hq, hq', rfl⟩
    have hpass : ∀ c ∈ body, (!isQuote c) = true := fun c hc => by rw [hbody c hc]; rfl
    have hstop : ¬(!isQuote q') = true := by simp [hq']
    refine ⟨_, ⟨q, hq, rfl⟩, rest, ⟨q', hq', ?_⟩, ?_, rfl⟩
    · rw [List.dropWhile_append_of_pos hpass, List.dropWhile_cons_of_neg (p := fun c => !isQuote c) hstop]
    · rw [List.takeWhile_append_of_pos hpass, List.takeWhile_cons_of_neg (p := fun c => !isQuote c) hstop,
        List.append_nil]

theorem afterBlanks?_eq_some (hq : isQuote q = true) : afterBlanks? s = some (q :: rest) ↔
    ∃ space, Blanks space ∧ space ≠ [] ∧ s = space ++ q :: rest := by
  have hquote := isBlank_of_isQuote hq
  cases s with
  | nil => simp [afterBlanks?]
  | cons c cs =>
    rw [afterBlanks?]
    constructor
    · intro h
      split at h
      · next hc =>
        refine ⟨c :: cs.takeWhile Text.isBlank, ?_, List.cons_ne_nil _ _, ?_⟩
        · exact List.forall_mem_cons.mpr ⟨hc, takeWhile_blanks cs⟩
        · rw [← Option.some.inj h, List.cons_append, List.takeWhile_append_dropWhile]
      · cases h
    · rintro ⟨space, hspace, hne, heq⟩
      obtain ⟨d, ds, rfl⟩ := List.exists_cons_of_ne_nil hne
      obtain ⟨rfl, rfl⟩ := List.cons.inj heq
      obtain ⟨hc, hds⟩ := List.forall_mem_cons.mp hspace
      rw [if_pos hc]
      exact congrArg some (dropWhile_blanks hds hquote)

/-- What is read after at least one blank. -/
def spaced? {α : Type} (read : List Char → Option α) (s : List Char) : Option α :=
  (afterBlanks? s).bind read

theorem spaced?_field : spaced? field? s = some (body, rest) ↔
    ∃ t, IsField body t ∧ s = t ++ rest := by
  rw [spaced?, Option.bind_eq_some_iff]
  constructor
  · rintro ⟨s', hs', hfield⟩
    obtain ⟨hbody, q, q', hq, hq', rfl⟩ := field?_eq_some.mp hfield
    obtain ⟨space, hspace, hne, rfl⟩ := (afterBlanks?_eq_some hq).mp hs'
    exact ⟨_, .intro hspace hne hq hq' hbody, by simp⟩
  · rintro ⟨t, ⟨hspace, hne, hq, hq', hbody⟩, rfl⟩
    refine ⟨_, (afterBlanks?_eq_some hq).mpr ⟨_, hspace, hne, ?_⟩,
      field?_eq_some.mpr ⟨hbody, _, _, hq, hq', rfl⟩⟩
    simp

theorem spaced?_filledField : spaced? filledField? s = some (body, rest) ↔
    body ≠ [] ∧ ∃ t, IsField body t ∧ s = t ++ rest := by
  rw [← spaced?_field, spaced?, spaced?]
  cases afterBlanks? s with
  | none => simp
  | some r =>
    rw [Option.bind_some, Option.bind_some, filledField?, Option.filter_eq_some_iff, and_comm]
    simp

/-- The fields after the start of a directive, and what follows it. -/
def fields? (s : List Char) : Option (Fields × List Char) := do
  let (component, s) ← spaced? filledField? s
  let (script, s) ← spaced? filledField? s
  let (stylesheet, s) ← spaced? field? s
  let (name, s) ← spaced? filledField? s
  let (settings, s) ← spaced? field? s
  let rest ← Text.after? closing (s.dropWhile Text.isBlank)
  pure (⟨component, script, stylesheet, name, settings⟩, rest)

theorem read?_eq (start : Nat) (s : List Char) :
    read? start s = (fields? s).map fun r => r.1.directive start := by
  simp only [read?, fields?, spaced?, Option.bind_eq_bind, Option.bind_assoc, Option.map_bind,
    Option.pure_def, Function.comp_def, Option.map_some]
  rfl

theorem closing_eq_some : Text.after? closing (s.dropWhile Text.isBlank) = some rest ↔
    ∃ gap, Blanks gap ∧ s = gap ++ (closing ++ rest) := by
  have hbrace : Text.isBlank '\x7d' = false := by decide
  rw [Text.after?_eq_some]
  constructor
  · intro h
    refine ⟨_, takeWhile_blanks s, ?_⟩
    rw [← h, List.takeWhile_append_dropWhile]
  · rintro ⟨gap, hgap, rfl⟩
    exact dropWhile_blanks hgap hbrace

/-- Reading finds the fields and what follows exactly where the grammar has them. -/
theorem fields?_eq_some : fields? s = some (f, rest) ↔ ∃ t, IsRest f t ∧ s = t ++ rest := by
  simp only [fields?, Option.bind_eq_bind, Option.bind_eq_some_iff, spaced?_filledField,
    spaced?_field, closing_eq_some, Option.pure_def, Option.some.injEq, Prod.mk.injEq,
    Prod.exists]
  constructor
  · rintro ⟨component, _, ⟨hne, a, ha, rfl⟩, script, _, ⟨hne', b, hb, rfl⟩, stylesheet, _,
      ⟨d, hd, rfl⟩, name, _, ⟨hne'', e, he, rfl⟩, settings, _, ⟨k, hk, rfl⟩, r, ⟨gap, hgap, rfl⟩,
      rfl, rfl⟩
    exact ⟨_, .intro ⟨hne, ha⟩ ⟨hne', hb⟩ hd ⟨hne'', he⟩ hk hgap, by simp⟩
  · rintro ⟨t, ⟨hcomponent, hscript, hstylesheet, hname, hsettings, hgap⟩, rfl⟩
    refine ⟨_, _, ⟨hcomponent.1, _, hcomponent.2, ?_⟩, _, _, ⟨hscript.1, _, hscript.2, rfl⟩, _, _,
      ⟨_, hstylesheet, rfl⟩, _, _, ⟨hname.1, _, hname.2, rfl⟩, _, _, ⟨_, hsettings, rfl⟩, _,
      ⟨_, hgap, rfl⟩, rfl, rfl⟩
    simp

theorem afterStart?_eq_some : afterStart? s = some rest ↔ ∃ t, IsStart t ∧ s = t ++ rest := by
  have hletter : Text.isBlank 'c' = false := by decide
  unfold afterStart?
  simp only [Option.bind_eq_bind, Option.bind_eq_some_iff, Text.after?_eq_some]
  constructor
  · rintro ⟨a, rfl, b, hb, d, hd, e, he, k, rfl, hk⟩
    obtain ⟨q, hq, rfl⟩ := afterQuote?_eq_some.mp he
    obtain ⟨q', hq', rfl⟩ := afterQuote?_eq_some.mp hk
    obtain ⟨space, hspace, hne, rfl⟩ := (afterBlanks?_eq_some hq).mp hd
    refine ⟨_, .intro (takeWhile_blanks a) hspace hne hq hq', ?_⟩
    conv_lhs => rw [← List.takeWhile_append_dropWhile (p := Text.isBlank) (l := a), hb]
    simp
  · rintro ⟨t, hstart, rfl⟩
    cases hstart with
    | @intro gap space q q' hgap hspace hne hq hq' =>
      have hword (r : List Char) : (gap ++ ("component".toList ++ r)).dropWhile Text.isBlank =
          "component".toList ++ r := dropWhile_blanks hgap hletter
      refine ⟨_, List.append_assoc _ _ _, _, ?_, _, (afterBlanks?_eq_some hq).mpr ⟨_, hspace, hne, rfl⟩,
        _, afterQuote?_eq_some.mpr ⟨_, hq, rfl⟩, _, rfl, afterQuote?_eq_some.mpr ⟨_, hq', rfl⟩⟩
      rw [List.append_assoc, List.append_assoc, hword]
      simp

/-! ### One reading -/

theorem afterStart?_append (h : IsStart t) (rest : List Char) : afterStart? (t ++ rest) = some rest :=
  afterStart?_eq_some.mpr ⟨t, h, rfl⟩

theorem fields?_append (h : IsRest f t) (rest : List Char) : fields? (t ++ rest) = some (f, rest) :=
  fields?_eq_some.mpr ⟨t, h, rfl⟩

theorem IsStart.unique {t' rest' : List Char} (h : IsStart t) (h' : IsStart t')
    (heq : t ++ rest = t' ++ rest') : t = t' ∧ rest = rest' := by
  have hread := afterStart?_append h rest
  rw [heq, afterStart?_append h'] at hread
  obtain rfl := Option.some.inj hread
  exact ⟨List.append_cancel_right heq, rfl⟩

/-- At a position a directive can be read in one way only. -/
theorem IsWritten.unique (h : IsWritten f t) (h' : IsWritten g u) (ht : t <+: s) (hu : u <+: s) :
    f = g ∧ t = u := by
  obtain ⟨r, rfl⟩ := ht
  obtain ⟨r', heq⟩ := hu
  cases h with
  | @intro start fields hstart hfields =>
    cases h' with
    | @intro start' fields' hstart' hfields' =>
      rw [List.append_assoc, List.append_assoc] at heq
      obtain ⟨rfl, hrest⟩ := hstart'.unique hstart heq
      have hread := fields?_append hfields' r'
      rw [hrest, fields?_append hfields] at hread
      obtain ⟨rfl, rfl⟩ := Prod.mk.inj (Option.some.inj hread)
      rw [List.append_cancel_right hrest]
      exact ⟨rfl, rfl⟩

/-! ### Directives do not overlap -/

/-- Whether a directive starts at the beginning of a text. -/
def Starts (s : List Char) : Prop := ∃ t, IsStart t ∧ t <+: s

/-- Whether no directive starts within a text that another one follows. -/
def Startless (t rest : List Char) : Prop := ∀ a u, t = a ++ u → u ≠ [] → ¬Starts (u ++ rest)

/-- The first quote after a start stands before a letter. -/
theorem Starts.shape (h : Starts s) : ∃ before q more, s = '\x7b' :: '\x7b' :: (before ++ q :: 'c' :: more) ∧
    isQuote q = true ∧ (∀ c ∈ before, isQuote c = false) ∧ '\x7b' ∉ before := by
  have hblank {d : Char} (hd : Text.isBlank d = true) : isQuote d = false ∧ d ≠ '\x7b' := by
    refine ⟨Bool.eq_false_of_not_eq_true fun hq => ?_, ?_⟩
    · rw [isBlank_of_isQuote hq] at hd
      cases hd
    · rintro rfl
      exact absurd hd (by decide)
  have hletters : ("component".toList.all fun c => !isQuote c && c != '\x7b') = true := by decide
  have hword : ∀ c ∈ "component".toList, isQuote c = false ∧ c ≠ '\x7b' := by
    simpa only [List.all_eq_true, Bool.and_eq_true, Bool.not_eq_true', bne_iff_ne] using hletters
  obtain ⟨t, hstart, r, rfl⟩ := h
  cases hstart with
  | @intro gap space q q' hgap hspace hne hq hq' =>
    have hbefore : ∀ c ∈ gap ++ ("component".toList ++ space), isQuote c = false ∧ c ≠ '\x7b' := by
      intro c hc
      rcases List.mem_append.mp hc with hc | hc
      · exact hblank (hgap c hc)
      · rcases List.mem_append.mp hc with hc | hc
        · exact hword c hc
        · exact hblank (hspace c hc)
    refine ⟨gap ++ ("component".toList ++ space), q, "reate".toList ++ q' :: r, ?_, hq,
      fun c hc => (hbefore c hc).1, fun hmem => (hbefore _ hmem).2 rfl⟩
    simp [opening]

theorem Startless.append (h : Startless t (u ++ rest)) (h' : Startless u rest) :
    Startless (t ++ u) rest := by
  intro a v heq hne hstarts
  -- the start stands in the one part or in the other
  rcases List.append_eq_append_iff.mp heq with ⟨b, rfl, rfl⟩ | ⟨b, rfl, rfl⟩
  · exact h' b v rfl hne hstarts
  · cases b with
    | nil => exact h' [] u rfl hne hstarts
    | cons d ds =>
      rw [List.append_assoc] at hstarts
      exact h a (d :: ds) rfl (List.cons_ne_nil d ds) hstarts

theorem startless_of_not_mem (h : '\x7b' ∉ t) (rest : List Char) : Startless t rest := by
  rintro a u rfl hne hstarts
  obtain ⟨d, ds, rfl⟩ := List.exists_cons_of_ne_nil hne
  obtain ⟨before, q, more, hs, -⟩ := hstarts.shape
  obtain ⟨rfl, -⟩ := List.cons.inj hs
  exact h (by simp)

theorem startless_blanks (h : Blanks t) (rest : List Char) : Startless t rest :=
  startless_of_not_mem (fun hmem => absurd (h _ hmem) (by decide)) rest

/-- What stands before a quote holds no start unless a letter follows the quote. -/
theorem startless_quoted (hbody : ∀ c ∈ body, isQuote c = false) (hq : isQuote q = true)
    (hnext : rest.head? ≠ some 'c') : Startless (body ++ [q]) rest := by
  intro a u heq hne hstarts
  obtain ⟨before, q', more, hs, hq', hbefore, -⟩ := hstarts.shape
  rcases List.append_eq_append_iff.mp heq with ⟨b, rfl, hu⟩ | ⟨b, rfl, rfl⟩
  · -- then the start would begin with the quote
    have hbrace : u.head? = some '\x7b' := by
      cases u with
      | nil => exact absurd rfl hne
      | cons d ds => rw [(List.cons.inj hs).1, List.head?_cons]
    cases b with
    | nil =>
      rw [List.nil_append] at hu
      rw [← hu, List.head?_cons] at hbrace
      rw [Option.some.inj hbrace] at hq
      exact absurd hq (by decide)
    | cons d ds => simp_all
  · have hb : ∀ c ∈ b, isQuote c = false := fun c hc => hbody c (List.mem_append_right a hc)
    have hbraces : ∀ c ∈ '\x7b' :: '\x7b' :: before, isQuote c = false :=
      List.forall_mem_cons.mpr ⟨by decide, List.forall_mem_cons.mpr ⟨by decide, hbefore⟩⟩
    have hsplit : b ++ q :: rest = '\x7b' :: '\x7b' :: before ++ q' :: 'c' :: more := by
      simpa using hs
    obtain ⟨-, -, hrest⟩ := eq_of_append_quote hb hbraces hq hq' hsplit
    rw [hrest] at hnext
    exact hnext rfl

theorem IsField.head? (h : IsField body t) (rest : List Char) :
    ∃ c, (t ++ rest).head? = some c ∧ Text.isBlank c = true := by
  cases h with
  | @intro space q q' hspace hne hq hq' hbody =>
    obtain ⟨d, ds, rfl⟩ := List.exists_cons_of_ne_nil hne
    exact ⟨d, rfl, hspace d List.mem_cons_self⟩

theorem head?_ne_of_blank (hc : s.head? = some c) (hblank : Text.isBlank c = true) :
    s.head? ≠ some 'c' := by
  intro heq
  rw [hc] at heq
  rw [Option.some.inj heq] at hblank
  exact absurd hblank (by decide)

/-- A field before a text that holds no start and begins with no letter makes another such text. -/
theorem IsField.startless_append (h : IsField body t)
    (hu : Startless u rest ∧ (u ++ rest).head? ≠ some 'c') :
    Startless (t ++ u) rest ∧ (t ++ u ++ rest).head? ≠ some 'c' := by
  obtain ⟨c, hhead, hc⟩ := h.head? (u ++ rest)
  have hnext : (t ++ u ++ rest).head? ≠ some 'c' := by
    rw [List.append_assoc]
    exact head?_ne_of_blank hhead hc
  refine ⟨?_, hnext⟩
  cases h with
  | @intro space q q' hspace hne hq hq' hbody =>
    have hquote : '\x7b' ∉ [q] := by
      intro hmem
      rw [← List.mem_singleton.mp hmem] at hq
      exact absurd hq (by decide)
    have hfield := startless_quoted hbody hq' hu.2
    have hopened := (startless_of_not_mem hquote _).append hfield
    exact ((startless_blanks hspace _).append hopened).append hu.1

theorem IsRest.startless (h : IsRest f t) (rest : List Char) : Startless t rest := by
  cases h with
  | @intro component script stylesheet name settings gap hcomponent hscript hstylesheet hname hsettings
      hgap =>
    have hend : Startless (gap ++ closing) rest ∧ (gap ++ closing ++ rest).head? ≠ some 'c' := by
      refine ⟨(startless_blanks hgap _).append (startless_of_not_mem (by decide) rest), ?_⟩
      cases gap with
      | nil =>
        intro heq
        exact absurd (Option.some.inj heq) (by decide)
      | cons d ds => exact head?_ne_of_blank rfl (hgap d List.mem_cons_self)
    -- every field is followed by a blank or by the closing braces
    have hnamed := hname.2.startless_append (hsettings.startless_append hend)
    have hstyled := hstylesheet.startless_append hnamed
    exact (hcomponent.2.startless_append (hscript.2.startless_append hstyled)).1

theorem IsStart.ne_nil (h : IsStart t) : t ≠ [] := by
  cases h
  exact List.cons_ne_nil _ _

/-- Behind its first character the start of a directive holds no other one. -/
theorem IsStart.startless (h : IsStart t) (rest : List Char) : Startless t.tail rest := by
  cases h with
  | @intro gap space q q' hgap hspace hne hq hq' =>
    have hquote {d : Char} (hd : isQuote d = true) : d ≠ '\x7b' := by
      rintro rfl
      exact absurd hd (by decide)
    have hbrace {a : List Char} (ha : Blanks a) : '\x7b' ∉ a := fun hmem =>
      absurd (ha _ hmem) (by decide)
    have hplain : '\x7b' ∉ gap ++ ("component".toList ++ (space ++ q :: ("create".toList ++ [q']))) := by
      simp [hbrace hgap, hbrace hspace, (hquote hq).symm, (hquote hq').symm]
    have hsecond : Startless ['\x7b']
        (gap ++ ("component".toList ++ (space ++ q :: ("create".toList ++ [q']))) ++ rest) := by
      intro a u heq hu hstarts
      obtain ⟨before, q₁, more, hs, -⟩ := hstarts.shape
      have huq : u = ['\x7b'] := by
        cases a with
        | nil => exact heq.symm
        | cons d a => simp_all
      subst huq
      -- the second brace is followed by a blank or by the word
      have hnext := (List.cons.inj hs).2
      cases gap with
      | nil => simp at hnext
      | cons d ds =>
        have hd := hgap d List.mem_cons_self
        rw [(List.cons.inj hnext).1] at hd
        exact absurd hd (by decide)
    exact hsecond.append (startless_of_not_mem hplain rest)

/-- Behind its first character a directive holds no start of another one. -/
theorem IsWritten.startless (h : IsWritten f t) (rest : List Char) : Startless t.tail rest := by
  cases h with
  | @intro start fields hstart hfields =>
    rw [List.tail_append_of_ne_nil hstart.ne_nil]
    exact (hstart.startless (fields ++ rest)).append (hfields.startless rest)

/-- Where a text holds no start behind its first character, the next start is behind the text. -/
theorem length_le_of_starts {n m : Nat} (ht : t <+: s.drop n) (hfree : ∀ rest, Startless t.tail rest)
    (hnm : n < m) (hstarts : Starts (s.drop m)) : n + t.length ≤ m := by
  by_contra hlt
  obtain ⟨rest, hrest⟩ := ht
  obtain ⟨k, rfl⟩ : ∃ k, m = n + (k + 1) := ⟨m - n - 1, by omega⟩
  have hk : k + 1 ≤ t.length := by omega
  have hdrop : s.drop (n + (k + 1)) = t.tail.drop k ++ rest := by
    rw [← List.drop_drop, ← hrest, List.drop_append_of_le_length hk, ← List.drop_tail]
  rw [hdrop] at hstarts
  have hne : t.tail.drop k ≠ [] := by
    rw [Ne, List.drop_eq_nil_iff, List.length_tail]
    omega
  exact hfree rest (t.tail.take k) (t.tail.drop k) (List.take_append_drop k t.tail).symm hne hstarts

end Storybind.Directive
