import Mathlib.Data.List.DropRight
import Mathlib.Tactic
import Storybind.Dependency.Shorthand
import Storybind.Proofs.Dependency.Valid
import Storybind.Proofs.Except
import Storybind.Proofs.Text.Pieces
import Storybind.Proofs.Text.Trim

/-!
Packages in short. The package that is loaded is the name, with the version behind it where there is
one. It is the canonical form of what was written, as reading it gives the same declaration, except
where at signs were dropped from the end and what is left would have been cut itself.
-/

namespace Storybind

namespace Declaration

variable {name url : String} {kind : DependencyKind} {version : Option String} {d : Declaration}

/-- What is given of a declaration of few fields. -/
def plainFields (name : String) (kind : DependencyKind) (version : Option String) (url : String) :
    Entries :=
  Entries.ofTexts [("name", .text name), ("kind", .text kind.word), ("version", .ofOption version),
    ("url", .text url)]

theorem infers_plain : Infers (plainFields name kind version url)
    (Entries.set "format" (.text (DependencyFormat.ofAddress url).word)
      (plainFields name kind version url)) := by
  refine .inferred rfl ?_
  by_cases hurl : url = ""
  · subst hurl
    exact .inr ⟨rfl, rfl⟩
  · have htruthy : (Value.text url).isTruthy = true := by simpa [Value.isTruthy] using hurl
    exact .inl (Option.filter_eq_some_iff.mpr ⟨rfl, htruthy⟩)

theorem reads_plain (f : DependencyFormat) :
    Reads (Entries.set "format" (.text f.word) (plainFields name kind version url))
      { plain name kind version url with format := f } where
  name := Form.required_of_some (v := .text name) rfl rfl
  kind := Form.withDefault_of_some rfl (readKind_word kind)
  url := Form.withDefault_of_some (v := .text url) rfl rfl
  version := Form.withDefault_of_some rfl (Form.optional_text_ofOption version)
  integrity := Form.withDefault_of_none rfl
  priority := Form.withDefault_of_none rfl
  defer := Form.withDefault_of_none rfl
  async := Form.withDefault_of_none rfl
  isModule := Form.withDefault_of_none rfl
  noModule := Form.withDefault_of_none rfl
  crossorigin := Form.withDefault_of_none rfl
  condition := Form.withDefault_of_none rfl
  format := Form.withDefault_of_some (lookupFirst_set _ _ _) (readFormat_word _)
  content := Form.withDefault_of_none rfl
  minify := Form.withDefault_of_none rfl

end Declaration

namespace Shorthand

open Declaration

variable {pattern text name url : String} {kind : DependencyKind} {version : Option String}
  {d d' : Declaration}

/-- Given fields make the declaration of these fields, where it lacks nothing. -/
theorem declare_eq_ok : declare name kind version url = .ok d ↔
    d = plain name kind version url ∧ complaint? d = none := by
  have hdeclare : declare name kind version url = .ok d ↔
      (ofValue (.mapping 0 (plainFields name kind version url))).outcome = .ok d :=
    Except.mapError_eq_ok
  rw [hdeclare, ofValue_eq_ok]
  constructor
  · rintro ⟨_, _, es', hmapping, hinfer, hreads, hcomplete⟩
    obtain ⟨-, rfl⟩ := Value.mapping.inj hmapping
    have hinferred := (inferFormat_eq_ok.mpr hinfer).symm.trans (inferFormat_eq_ok.mpr infers_plain)
    obtain rfl := Except.ok.inj hinferred
    have hfields := (fields_of_reads hreads).symm.trans (fields_of_reads (reads_plain _))
    exact ⟨Except.ok.inj hfields, hcomplete⟩
  · rintro ⟨rfl, hcomplete⟩
    exact ⟨0, _, _, rfl, infers_plain, reads_plain _, hcomplete⟩

/-! ### Entries that name a package -/

/-- A name with the version behind it, where there is one. -/
def withVersion (name : String) : Option String → String
  | some version => name ++ "@" ++ version
  | none => name

/-- The package of a library. -/
def packageText (d : Declaration) : String := withVersion d.name d.version

/-- Whether a text without blanks around it names a package. -/
structure NamesPackage (s : String) : Prop where
  nonempty : s ≠ ""
  not_preset : ¬"preset:".toList <+: s.toList
  not_bundle : ¬"bundle:".toList <+: s.toList

theorem startsWith_iff {s piece : String} :
    Text.startsWith s piece = true ↔ piece.toList <+: s.toList := by
  rw [Text.startsWith, Option.isSome_iff_exists]
  simp only [Text.after?_eq_some]
  exact ⟨fun ⟨rest, h⟩ => ⟨rest, h.symm⟩, fun ⟨rest, h⟩ => ⟨rest, h.symm⟩⟩

theorem NamesPackage.of_prefix {s t : String} (hs : NamesPackage s) (ht : t ≠ "")
    (h : t.toList <+: s.toList) : NamesPackage t :=
  ⟨ht, fun hp => hs.not_preset (hp.trans h), fun hp => hs.not_bundle (hp.trans h)⟩

/-- The package that a text names. -/
def packageNamed (text : String) : String :=
  withVersion (package (Text.trim text)).1 (package (Text.trim text)).2

theorem one_eq (pattern text : String) : one pattern text =
    if (Text.trim text).isEmpty then .error .empty
    else if Text.startsWith (Text.trim text) "preset:" then .error (.namesPreset (Text.trim text))
    else if Text.startsWith (Text.trim text) "bundle:" then
      bundle (Text.trim (Text.drop 7 (Text.trim text)))
    else ((Slots.fill [("package", packageNamed text)] pattern).mapError .slot).bind
      (declare (package (Text.trim text)).1 .remote (package (Text.trim text)).2) := by
  unfold one packageNamed
  dsimp only
  generalize Text.trim text = t
  generalize package t = p
  obtain ⟨name, version⟩ := p
  cases t.isEmpty with
  | true => rfl
  | false =>
    cases Text.startsWith t "preset:" with
    | true => rfl
    | false => cases version <;> rfl

/-- A text that names a package gives a remote library at the address of the package. -/
theorem one_of_namesPackage (h : NamesPackage (Text.trim text)) :
    one pattern text =
      ((Slots.fill [("package", packageNamed text)] pattern).mapError .slot).bind
        (declare (package (Text.trim text)).1 .remote (package (Text.trim text)).2) := by
  have hempty : ¬(Text.trim text).isEmpty = true := by simpa using h.nonempty
  rw [one_eq, if_neg hempty, if_neg fun hp => h.not_preset (startsWith_iff.mp hp),
    if_neg fun hp => h.not_bundle (startsWith_iff.mp hp)]

/-- An entry in short is complained about, or it is bundled, or it names a package. -/
theorem one_cases (pattern text : String) :
    (∃ e, one pattern text = .error e ∧ e.isComplaint = true) ∨
      one pattern text = bundle (Text.trim (Text.drop 7 (Text.trim text))) ∨
      NamesPackage (Text.trim text) := by
  rw [one_eq]
  split
  · exact .inl ⟨.empty, rfl, rfl⟩
  · next hempty =>
    split
    · exact .inl ⟨.namesPreset _, rfl, rfl⟩
    · next hpreset =>
      split
      · exact .inr (.inl rfl)
      · next hbundle =>
        exact .inr (.inr ⟨by simpa using hempty, fun hp => hpreset (startsWith_iff.mpr hp),
          fun hp => hbundle (startsWith_iff.mpr hp)⟩)

theorem bundle_eq (location : String) : bundle location =
    if location.isEmpty then .error .nothingToBundle
    else (lastSegment location).bind fun segment =>
      declare (if (stem segment).isEmpty then "unnamed" else stem segment) .bundled none location := by
  unfold bundle
  cases location.isEmpty <;> rfl

theorem kind_of_bundle {location : String} (h : bundle location = .ok d) : d.kind = .bundled := by
  rw [bundle_eq] at h
  split at h
  · cases h
  · obtain ⟨segment, -, h⟩ := Except.bind_eq_ok.mp h
    rw [(declare_eq_ok.mp h).1, plain_kind]

theorem namesPackage_of_one (h : one pattern text = .ok d) (hkind : d.kind = .remote) :
    NamesPackage (Text.trim text) := by
  rcases one_cases pattern text with ⟨e, he, -⟩ | hbundle | hnames
  · rw [h] at he
    cases he
  · have hbundled := kind_of_bundle (hbundle.symm.trans h)
    rw [hkind] at hbundled
    cases hbundled
  · exact hnames

/-- A remote library in short is named by its package, and its address is that of the package. -/
theorem one_remote : one pattern text = .ok d ∧ d.kind = .remote ↔
    NamesPackage (Text.trim text) ∧ complaint? d = none ∧
      ∃ url, Slots.fill [("package", packageText d)] pattern = .ok url ∧
        package (Text.trim text) = (d.name, d.version) ∧ d = plain d.name .remote d.version url := by
  constructor
  · rintro ⟨h, hkind⟩
    have hnames := namesPackage_of_one h hkind
    rw [one_of_namesPackage hnames] at h
    obtain ⟨url, hurl, h⟩ := Except.bind_eq_ok.mp h
    obtain ⟨hplain, hcomplete⟩ := declare_eq_ok.mp h
    have hname : (package (Text.trim text)).1 = d.name := by rw [hplain, plain_name]
    have hversion : (package (Text.trim text)).2 = d.version := by rw [hplain, plain_version]
    have hpackage : package (Text.trim text) = (d.name, d.version) := Prod.ext hname hversion
    rw [packageNamed, hpackage] at hurl
    rw [hpackage] at hplain
    exact ⟨hnames, hcomplete, url, Except.mapError_eq_ok.mp hurl, hpackage, hplain⟩
  · rintro ⟨hnames, hcomplete, url, hurl, hpackage, hplain⟩
    have hkind : d.kind = .remote := by
      rw [hplain, plain_kind]
    refine ⟨?_, hkind⟩
    rw [one_of_namesPackage hnames, packageNamed, hpackage]
    exact Except.bind_eq_ok.mpr
      ⟨url, Except.mapError_eq_ok.mpr hurl, declare_eq_ok.mpr ⟨hplain, hcomplete⟩⟩

/-! ### Entries that are refused -/

variable {e : EntryError}

theorem isComplaint_of_declare (h : declare name kind version url = .error e) :
    e.isComplaint = true := by
  obtain ⟨fe, hfe, rfl⟩ := Except.mapError_eq_error.mp h
  cases fe with
  | flaws fs => rfl
  | noLetters k =>
    have hunknown := formatUnknown_iff.mpr ⟨hfe, nofun⟩
    cases (inferFormat_eq_error.mpr hunknown).symm.trans (inferFormat_eq_ok.mpr infers_plain)
  | bytesAddress =>
    have hunknown := formatUnknown_iff.mpr ⟨hfe, nofun⟩
    cases (inferFormat_eq_error.mpr hunknown).symm.trans (inferFormat_eq_ok.mpr infers_plain)

theorem isComplaint_of_bundle {location : String} (h : bundle location = .error e) :
    e.isComplaint = true := by
  rw [bundle_eq] at h
  split at h
  · cases h
    rfl
  · rcases Except.bind_eq_error.mp h with hsegment | ⟨segment, -, hdeclare⟩
    · rcases Except.bind_eq_error.mp hsegment with haddress | ⟨_, -, hpure⟩
      · obtain ⟨_, -, rfl⟩ := Except.mapError_eq_error.mp haddress
        rfl
      · cases hpure
    · exact isComplaint_of_declare hdeclare

/-- An entry in short is refused without a complaint where its package does not fit into the address
of packages. -/
theorem one_refused (he : e.isComplaint = false) : one pattern text = .error e ↔
    NamesPackage (Text.trim text) ∧
      ∃ slot, Slots.fill [("package", packageNamed text)] pattern = .error slot ∧
        e = .slot slot := by
  constructor
  · intro h
    rcases one_cases pattern text with ⟨e', he', hcomplaint⟩ | hbundle | hnames
    · cases he'.symm.trans h
      rw [he] at hcomplaint
      cases hcomplaint
    · rw [isComplaint_of_bundle (hbundle.symm.trans h)] at he
      cases he
    · rw [one_of_namesPackage hnames] at h
      rcases Except.bind_eq_error.mp h with hslot | ⟨url, -, hdeclare⟩
      · obtain ⟨slot, hslot, hslote⟩ := Except.mapError_eq_error.mp hslot
        exact ⟨hnames, slot, hslot, hslote.symm⟩
      · rw [isComplaint_of_declare hdeclare] at he
        cases he
  · rintro ⟨hnames, slot, hslot, rfl⟩
    rw [one_of_namesPackage hnames, hslot]
    rfl

/-! ### Cutting a package -/

theorem rdropWhile_mark_eq_self {s : List Char} :
    s.rdropWhile (· = '@') = s ↔ s.getLast? ≠ some '@' := by
  rw [List.rdropWhile_eq_self_iff]
  constructor
  · intro h hlast
    have hne : s ≠ [] := List.ne_nil_of_mem (List.mem_of_getLast? hlast)
    rw [List.getLast?_eq_getLast_of_ne_nil hne] at hlast
    exact h hne (decide_eq_true (Option.some.inj hlast))
  · intro h hne hmark
    exact h (by rw [List.getLast?_eq_getLast_of_ne_nil hne, of_decide_eq_true hmark])

/-- A package is cut where something stands on both sides of the last at sign. -/
theorem package_cases (s : String) :
    (∃ before rest, s.toList = before ++ '@' :: rest ∧ before ≠ [] ∧ rest ≠ [] ∧ '@' ∉ rest ∧
        package s = (String.ofList before, some (String.ofList rest))) ∨
      package s = (String.ofList (s.toList.rdropWhile (· = '@')), none) ∧
        ∀ before rest, s.toList = before ++ '@' :: rest → '@' ∉ rest → before = [] ∨ rest = [] := by
  unfold package
  split
  · next before rest hcut =>
    obtain ⟨hs, hrest⟩ := Text.cutAtLast?_eq_some.mp hcut
    split
    · next hparts =>
      simp only [Bool.or_eq_true, List.isEmpty_iff] at hparts
      refine .inr ⟨rfl, fun before' rest' hs' hrest' => ?_⟩
      -- the last at sign stands at one place only
      have hsame := hcut.symm.trans (Text.cutAtLast?_eq_some.mpr ⟨hs', hrest'⟩)
      obtain ⟨rfl, rfl⟩ := Prod.mk.inj (Option.some.inj hsame)
      exact hparts
    · next hparts =>
      simp only [Bool.or_eq_true, List.isEmpty_iff, not_or] at hparts
      exact .inl ⟨before, rest, hs, hparts.1, hparts.2, hrest, rfl⟩
  · next hcut =>
    have hmark := Text.cutAtLast?_eq_none.mp hcut
    have hself : s.toList.rdropWhile (· = '@') = s.toList :=
      rdropWhile_mark_eq_self.mpr fun hlast => hmark (List.mem_of_getLast? hlast)
    rw [hself, String.ofList_toList]
    refine .inr ⟨rfl, fun before rest hs _ => absurd ?_ hmark⟩
    rw [hs]
    exact List.mem_append_right _ List.mem_cons_self

/-- A text is the name of its package where it neither ends with an at sign nor holds one after its
first character. -/
theorem package_eq_self {s : String} : package s = (s, none) ↔
    s.toList.getLast? ≠ some '@' ∧ '@' ∉ s.toList.tail := by
  rcases package_cases s with ⟨before, rest, hs, hbefore, hrest, hmark, hpackage⟩ | ⟨hpackage, hcut⟩
  · rw [hpackage]
    refine iff_of_false (fun h => nomatch (Prod.mk.inj h).2) fun h => h.2 ?_
    rw [hs, List.tail_append_of_ne_nil hbefore]
    exact List.mem_append_right _ List.mem_cons_self
  · have hself : package s = (s, none) ↔ s.toList.getLast? ≠ some '@' := by
      rw [hpackage, ← rdropWhile_mark_eq_self, Prod.mk.injEq, ← String.toList_inj,
        String.toList_ofList]
      exact and_iff_left rfl
    rw [hself]
    refine ⟨fun hlast => ⟨hlast, fun hmark => ?_⟩, And.left⟩
    -- the last at sign would be one to cut at
    obtain ⟨before, rest, htail, hrest⟩ := Text.exists_last_of_mem hmark
    cases hs : s.toList with
    | nil =>
      rw [hs] at htail
      cases before <;> cases htail
    | cons c cs =>
      rw [hs, List.tail_cons] at htail
      rw [htail, ← List.cons_append] at hs
      rcases hcut _ _ hs hrest with hnil | rfl
      · cases hnil
      · apply hlast
        rw [hs, List.getLast?_concat]

/-! ### Reading a package again -/

/-- A text from whose end at signs are dropped, where what is left would be cut itself: it ends with
a blank, or holds an at sign after its first character. -/
def Blurred (text : String) : Prop :=
  ∃ (name : List Char) (n : Nat), (Text.trim text).toList = name ++ List.replicate (n + 1) '@' ∧
    name.getLast? ≠ some '@' ∧
    ((∃ c, name.getLast? = some c ∧ Text.isBlank c = true) ∨ '@' ∈ name.tail)

theorem rdropWhile_append_marks {s : List Char} (hs : s.getLast? ≠ some '@') (n : Nat) :
    (s ++ List.replicate n '@').rdropWhile (· = '@') = s := by
  induction n with
  | zero =>
    rw [List.replicate_zero, List.append_nil]
    exact rdropWhile_mark_eq_self.mpr hs
  | succ n ih =>
    rw [List.replicate_succ', ← List.append_assoc, List.rdropWhile_concat_pos _ _ _ (by decide), ih]

theorem exists_marks (s : List Char) :
    ∃ n, s = s.rdropWhile (· = '@') ++ List.replicate n '@' := by
  have hall : s.rtakeWhile (· = '@') =
      List.replicate (s.rtakeWhile (· = '@')).length '@' := by
    refine List.eq_replicate_iff.mpr ⟨rfl, fun c hc => ?_⟩
    have hc := List.mem_rtakeWhile_imp hc
    exact of_decide_eq_true hc
  refine ⟨(s.rtakeWhile (· = '@')).length, ?_⟩
  rw [← hall, List.rdropWhile_append_rtakeWhile]

theorem package_prefix (s : String) : (package s).1.toList <+: s.toList := by
  rcases package_cases s with ⟨before, rest, hs, -, -, -, hpackage⟩ | ⟨hpackage, -⟩
  · rw [hpackage, hs, String.toList_ofList]
    exact List.prefix_append before _
  · rw [hpackage, String.toList_ofList]
    exact List.rdropWhile_prefix _ _

theorem one_trim : one pattern (Text.trim text) = one pattern text := by
  unfold one
  rw [Text.trim_trim]

/-- A package without a version is read as itself where it is neither trimmed nor cut. -/
theorem one_packageText_of_none (h : one pattern text = .ok d) (hkind : d.kind = .remote)
    (hversion : d.version = none) : one pattern (packageText d) = .ok d ↔
      Text.Trimmed d.name.toList ∧ package d.name = (d.name, none) := by
  obtain ⟨hnames, hcomplete, url, hurl, hpackage, hplain⟩ := one_remote.mp ⟨h, hkind⟩
  have htext : packageText d = d.name := by rw [packageText, hversion, withVersion]
  rw [htext]
  constructor
  · intro hagain
    obtain ⟨-, -, _, -, hcut, -⟩ := one_remote.mp ⟨hagain, hkind⟩
    -- a name that is left over from the trimmed name is as long as it was, so nothing was trimmed
    have hbegins := package_prefix (Text.trim d.name)
    rw [hcut] at hbegins
    have hlength := (Text.trim_infix d.name).length_le
    have htrim : Text.trim d.name = d.name :=
      String.toList_inj.mp (List.IsPrefix.eq_of_length_le hbegins hlength).symm
    rw [htrim, hversion] at hcut
    exact ⟨Text.trim_eq_self.mp htrim, hcut⟩
  · rintro ⟨htrimmed, hcut⟩
    have htrim := Text.trim_eq_self.mpr htrimmed
    obtain ⟨⟨c, hc, -⟩, -⟩ := complete_of_complaint? hcomplete
    have hne : d.name ≠ "" := by
      intro hempty
      rw [hempty] at hc
      cases hc
    have hbegins := package_prefix (Text.trim text)
    rw [hpackage] at hbegins
    refine (one_remote.mpr ⟨?_, hcomplete, url, hurl, ?_, hplain⟩).1
    · rw [htrim]
      exact hnames.of_prefix hne hbegins
    · rw [htrim, hversion]
      exact hcut

theorem blurred_iff {bare : List Char} (hbare : bare = (Text.trim text).toList.rdropWhile (· = '@')) :
    Blurred text ↔ bare ≠ (Text.trim text).toList ∧
      ((∃ c, bare.getLast? = some c ∧ Text.isBlank c = true) ∨ '@' ∈ bare.tail) := by
  constructor
  · rintro ⟨name, n, hmarks, hname, hcut⟩
    rw [hmarks, rdropWhile_append_marks hname] at hbare
    subst hbare
    refine ⟨fun heq => ?_, hcut⟩
    have hlength := congrArg List.length (heq.trans hmarks)
    rw [List.length_append, List.length_replicate] at hlength
    omega
  · rintro ⟨hne, hcut⟩
    obtain ⟨n, hmarks⟩ := exists_marks (Text.trim text).toList
    rw [← hbare] at hmarks
    cases n with
    | zero =>
      rw [List.replicate_zero, List.append_nil] at hmarks
      exact absurd hmarks.symm hne
    | succ n =>
      refine ⟨bare, n, hmarks, ?_, hcut⟩
      rw [hbare]
      exact rdropWhile_mark_eq_self.mp (List.rdropWhile_idempotent _ _)

/-- A text with a version ends in no at sign. -/
theorem not_blurred_of_version {before rest : List Char}
    (hs : (Text.trim text).toList = before ++ '@' :: rest) (hrest : rest ≠ []) (hmark : '@' ∉ rest) :
    ¬Blurred text := by
  rw [blurred_iff rfl, not_and_or, not_not]
  refine .inl (rdropWhile_mark_eq_self.mpr fun hlast => ?_)
  rw [hs, List.getLast?_append_of_ne_nil _ (List.cons_ne_nil _ _),
    List.getLast?_cons_of_ne_nil hrest] at hlast
  exact hmark (List.mem_of_getLast? hlast)

/-- What is loaded in short is read again as the same library, except where it was blurred. -/
theorem one_packageText (h : one pattern text = .ok d) (hkind : d.kind = .remote) :
    one pattern (packageText d) = .ok d ↔ ¬Blurred text := by
  obtain ⟨-, hcomplete, url, -, hpackage, -⟩ := one_remote.mp ⟨h, hkind⟩
  rcases package_cases (Text.trim text) with
    ⟨before, rest, hs, -, hrest, hmark, hcut⟩ | ⟨hcut, -⟩
  · -- with a version the package is the whole text
    obtain ⟨hname, hversion⟩ := Prod.mk.inj (hpackage.symm.trans hcut)
    have htext : packageText d = Text.trim text := by
      rw [packageText, hname, hversion, withVersion, ← String.toList_inj, hs]
      simp
    exact iff_of_true (by rw [htext, one_trim, h]) (not_blurred_of_version hs hrest hmark)
  · -- without one it is what is left when the at signs at the end are gone
    obtain ⟨hname, hversion⟩ := Prod.mk.inj (hpackage.symm.trans hcut)
    have hbare : d.name.toList = (Text.trim text).toList.rdropWhile (· = '@') := by
      rw [hname, String.toList_ofList]
    have htrimmed : Text.Trimmed (Text.trim text).toList := Text.trim_eq_self.mp (Text.trim_trim text)
    rw [one_packageText_of_none h hkind hversion, package_eq_self, blurred_iff hbare]
    constructor
    · rintro ⟨hself, -, htail⟩ ⟨-, ⟨c, hc, hblank⟩ | hcut⟩
      · rw [hself.last c hc] at hblank
        cases hblank
      · exact htail hcut
    · intro hclear
      by_cases hsame : d.name.toList = (Text.trim text).toList
      · -- nothing was dropped, and the whole text was not cut
        have hself : package d.name = (d.name, none) := by
          rw [String.toList_inj.mp hsame, hpackage, hversion, String.toList_inj.mp hsame]
        rw [← hsame] at htrimmed
        exact ⟨htrimmed, package_eq_self.mp hself⟩
      · obtain ⟨hblank, htail⟩ := not_or.mp (not_and.mp hclear hsame)
        have hbegins : d.name.toList <+: (Text.trim text).toList := by
          rw [hbare]
          exact List.rdropWhile_prefix _ _
        refine ⟨⟨fun c hc => htrimmed.head c ?_, fun c hc => ?_⟩, ?_, htail⟩
        · obtain ⟨dropped, hdropped⟩ := hbegins
          rw [← hdropped]
          exact List.mem_head?_append_of_mem_head? hc
        · exact Bool.eq_false_iff.mpr fun hb => hblank ⟨c, hc, hb⟩
        · rw [hbare]
          exact rdropWhile_mark_eq_self.mp (List.rdropWhile_idempotent _ _)

theorem version_of_one (h : one pattern text = .ok d) (hkind : d.kind = .remote) {v : String}
    (hv : d.version = some v) : v ≠ "" ∧ '@' ∉ v.toList := by
  obtain ⟨-, -, -, -, hpackage, -⟩ := one_remote.mp ⟨h, hkind⟩
  rcases package_cases (Text.trim text) with ⟨before, rest, -, -, hrest, hmark, hcut⟩ | ⟨hcut, -⟩
  · have hversion := (Prod.mk.inj (hpackage.symm.trans hcut)).2
    obtain rfl := Option.some.inj (hv.symm.trans hversion)
    rw [String.toList_ofList]
    refine ⟨fun hempty => hrest ?_, hmark⟩
    simpa using congrArg String.toList hempty
  · have hversion := (Prod.mk.inj (hpackage.symm.trans hcut)).2
    rw [hv] at hversion
    cases hversion

/-- A remote library in short is loaded from the address of its package: its name, or its name and a
version, which is not empty and holds no at sign. Unless the text was blurred, the package is read
as the same library again; so two texts for the same package, neither of them blurred, give the same
library, which merging keeps once. -/
theorem remote_canonical (h : one pattern text = .ok d) (hkind : d.kind = .remote) :
    (∃ url, Slots.fill [("package", packageText d)] pattern = .ok url ∧
        d = plain d.name .remote d.version url) ∧
      (∀ version, d.version = some version → version ≠ "" ∧ '@' ∉ version.toList) ∧
      (one pattern (packageText d) = .ok d ↔ ¬Blurred text) ∧
      ∀ text' d', one pattern text' = .ok d' → d'.kind = .remote →
        ¬Blurred text → ¬Blurred text' → packageText d' = packageText d →
        d' = d ∧ merge [[d], [d']] = [d] := by
  obtain ⟨-, -, url, hurl, -, hplain⟩ := one_remote.mp ⟨h, hkind⟩
  have hagain := one_packageText h hkind
  refine ⟨⟨url, hurl, hplain⟩, fun version => version_of_one h hkind, hagain, ?_⟩
  intro text' d' h' hkind' hclear hclear' hsame
  have hread := (one_packageText h' hkind').mpr hclear'
  rw [hsame, hagain.mpr hclear] at hread
  obtain rfl := Except.ok.inj hread
  exact ⟨rfl, by simp [merge, place]⟩

/-- The address of packages, and a package of a scope. -/
def cdn : String := "https://cdn.example/\x7bpackage\x7d"

def scopedKit : Declaration :=
  plain "@kit/menu" .remote (some "1.2") "https://cdn.example/@kit/menu@1.2"

theorem remote_canonical_scoped :
    one cdn " @kit/menu@1.2 " = .ok scopedKit ∧ ¬Blurred " @kit/menu@1.2 " ∧
      one cdn "@kit/menu@1.2" = .ok scopedKit ∧ merge [[scopedKit], [scopedKit]] = [scopedKit] := by
  have hpadded : one cdn " @kit/menu@1.2 " = .ok scopedKit := by decide +kernel
  have hplain : one cdn "@kit/menu@1.2" = .ok scopedKit := by decide +kernel
  have hcanonical := remote_canonical hpadded rfl
  have hpackage : packageText scopedKit = "@kit/menu@1.2" := by decide +kernel
  have hclear : ¬Blurred " @kit/menu@1.2 " := hcanonical.2.2.1.mp (by rw [hpackage, hplain])
  have hclear' : ¬Blurred "@kit/menu@1.2" :=
    (remote_canonical hplain rfl).2.2.1.mp (by rw [hpackage, hplain])
  exact ⟨hpadded, hclear, hplain,
    (hcanonical.2.2.2 _ _ hplain rfl hclear hclear' rfl).2⟩

/-- Where at signs are dropped from the end, a package is not cut that is cut without them. -/
theorem not_canonical_trailing :
    ¬∀ (pattern text : String) (d : Declaration), one pattern text = .ok d → d.kind = .remote →
      one pattern (packageText d) = .ok d := by
  intro h
  have htrailing : one cdn "a@1@" = .ok (plain "a@1" .remote none "https://cdn.example/a@1") := by
    decide +kernel
  have hagain := h cdn "a@1@" _ htrailing rfl
  have hcut : one cdn "a@1" = .ok (plain "a" .remote (some "1") "https://cdn.example/a@1") := by
    decide +kernel
  have hpackage : packageText (plain "a@1" .remote none "https://cdn.example/a@1") = "a@1" := rfl
  rw [hpackage, hcut] at hagain
  exact absurd (congrArg name (Except.ok.inj hagain)) (by decide)

end Shorthand
end Storybind
