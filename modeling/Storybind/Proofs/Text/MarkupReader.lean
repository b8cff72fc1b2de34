import Mathlib.Tactic
import Storybind.Proofs.Page.Closing
import Storybind.Proofs.Text.Pieces
import Storybind.Text.Element

/-!
How a reader of markup goes through tags and comments, character by character: names are read in lower
case, of two attributes with one name the first counts, and character references in values stand for
characters. An element is read as the data that it was written from, whatever its values hold, and a
comment ends where it was written to end. Characters stand for themselves: what a reader makes of line
ends and of characters that no document may hold comes before this.
-/

namespace Storybind.Markup

/-! ### Character references -/

/-- The references that are written, without the `&` before them. -/
def escapes : List (List Char × Char) :=
  [(['a', 'm', 'p', ';'], '&'), (['l', 't', ';'], '<'), (['g', 't', ';'], '>'),
    (['q', 'u', 'o', 't', ';'], '\x22'), (['#', 'x', '2', '7', ';'], '\x27')]

/-- A reader of character references. What follows `&` gives the characters that are meant and the text
after the reference, if it begins with one. Which other references it knows is left open. -/
structure References where
  read : List Char → Option (List Char × List Char)
  shorter : ∀ s found rest, read s = some (found, rest) → rest.length ≤ s.length
  known : ∀ x ∈ escapes, ∀ rest, read (x.1 ++ rest) = some ([x.2], rest)

/-- The reference among those that are written with which a text begins. -/
def readEscape (s : List Char) : Option (List Char × List Char) :=
  escapes.findSome? fun x => (Text.after? x.1 s).map fun rest => ([x.2], rest)

theorem length_le_of_readEscape (s found rest : List Char) (h : readEscape s = some (found, rest)) :
    rest.length ≤ s.length := by
  obtain ⟨x, -, hx⟩ := List.exists_of_findSome?_eq_some h
  obtain ⟨r, hr, heq⟩ := Option.map_eq_some_iff.mp hx
  obtain ⟨-, rfl⟩ := Prod.mk.inj heq
  rw [Text.after?_eq_some.mp hr, List.length_append]
  omega

theorem readEscape_append : ∀ x ∈ escapes, ∀ rest, readEscape (x.1 ++ rest) = some ([x.2], rest) := by
  simp only [escapes, List.forall_mem_cons, List.not_mem_nil, false_implies, implies_true, and_true]
  exact ⟨fun _ => rfl, fun _ => rfl, fun _ => rfl, fun _ => rfl, fun _ => rfl⟩

/-- The reader that knows no other references. -/
def References.basic : References where
  read := readEscape
  shorter := length_le_of_readEscape
  known := readEscape_append

/-- The text that a value stands for. -/
def References.decode (refs : References) : List Char → List Char
  | [] => []
  | c :: s =>
    if c = '&' then
      match _h : refs.read s with
      | some (found, rest) => found ++ refs.decode rest
      | none => c :: refs.decode s
    else c :: refs.decode s
termination_by s => s.length
decreasing_by
  · have hrest := refs.shorter s found rest ‹_›
    simp only [List.length_cons]
    omega
  · simp
  · simp

variable {refs : References}

theorem escapeMarkupChar_cases (c : Char) :
    (∃ x ∈ escapes, x.2 = c ∧ Text.escapeMarkupChar c = '&' :: x.1) ∨
      c ∉ ['&', '<', '>', '\x22', '\x27'] ∧ Text.escapeMarkupChar c = [c] := by
  unfold Text.escapeMarkupChar
  split_ifs with hamp hless hgreater hquote hmark
  · exact Or.inl ⟨_, List.mem_cons_self, hamp.symm, rfl⟩
  · exact Or.inl ⟨(['l', 't', ';'], '<'), by decide, hless.symm, rfl⟩
  · exact Or.inl ⟨(['g', 't', ';'], '>'), by decide, hgreater.symm, rfl⟩
  · exact Or.inl ⟨(['q', 'u', 'o', 't', ';'], '\x22'), by decide, hquote.symm, rfl⟩
  · exact Or.inl ⟨(['#', 'x', '2', '7', ';'], '\x27'), by decide, hmark.symm, rfl⟩
  · exact Or.inr ⟨by simp [hamp, hless, hgreater, hquote, hmark], rfl⟩

/-- A reader gets back the text that was escaped. -/
theorem decode_escaped (s : List Char) : refs.decode (s.flatMap Text.escapeMarkupChar) = s := by
  induction s with
  | nil => rw [List.flatMap_nil, References.decode]
  | cons c s ih =>
    rw [List.flatMap_cons]
    rcases escapeMarkupChar_cases c with ⟨x, hx, rfl, hwritten⟩ | ⟨hplain, hwritten⟩
    · -- every reader knows the references that are written, whatever follows them
      have hread := refs.known x hx (s.flatMap Text.escapeMarkupChar)
      rw [hwritten, List.cons_append, References.decode, if_pos rfl]
      split
      · next found rest hfound =>
        obtain ⟨rfl, rfl⟩ := Prod.mk.inj (Option.some.inj (hfound.symm.trans hread))
        rw [ih, List.singleton_append]
      · next hnone => rw [hread] at hnone; cases hnone
    · have hamp : c ≠ '&' := fun h => hplain (by rw [h]; decide)
      rw [hwritten, List.singleton_append, References.decode, if_neg hamp, ih]

/-- No character that ends a value or a tag is left in a text that was escaped. -/
theorem not_mem_escaped {c : Char} (hc : c ∈ ['<', '>', '\x22', '\x27']) (s : String) :
    c ∉ (Text.escapeMarkup s).toList := by
  rw [Text.escapeMarkup, String.toList_ofList, List.mem_flatMap]
  rintro ⟨d, -, hmem⟩
  rcases escapeMarkupChar_cases d with ⟨x, hx, -, hwritten⟩ | ⟨hplain, hwritten⟩
  · have hnone : ∀ x ∈ escapes, ∀ c ∈ ['<', '>', '\x22', '\x27'], c ∉ '&' :: x.1 := by simp [escapes]
    exact hnone x hx c hc (hwritten ▸ hmem)
  · rw [hwritten, List.mem_singleton] at hmem
    exact hplain (List.mem_cons_of_mem '&' (hmem ▸ hc))

/-! ### The reader -/

/-- What a reader gives on. What is neither a tag nor a comment, such as a declaration, is one of the
others. -/
inductive Token where
  | opening (name : String) (attributes : List Attribute) (closed : Bool)
  | closing (name : String)
  | comment (text : String)
  | other (text : String)
  | text (c : Char)
deriving DecidableEq

/-- A tag as far as it is read. -/
structure Tag where
  closing : Bool
  name : List Char
  attributes : List Attribute
deriving DecidableEq

namespace Tag

/-- The tag with one more attribute, unless there is one of that name. -/
def add (a : Attribute) (t : Tag) : Tag :=
  if a.name ∈ t.attributes.map Attribute.name then t else { t with attributes := t.attributes ++ [a] }

/-- What a reader makes of a tag at its end; attributes of a closing tag are left out. -/
def token (closed : Bool) (t : Tag) : Token :=
  if t.closing then .closing (String.ofList t.name)
  else .opening (String.ofList t.name) t.attributes closed

end Tag

/-- Where a reader stands. The names say what was read last, and what is kept of it. -/
inductive State where
  | data
  | tagOpen
  | closingOpen
  | tagName (t : Tag)
  | beforeName (t : Tag)
  | attributeName (t : Tag) (name : List Char)
  | afterName (t : Tag) (name : List Char)
  | beforeValue (t : Tag) (name : List Char)
  | quoted (mark : Char) (t : Tag) (name value : List Char)
  | unquoted (t : Tag) (name value : List Char)
  | afterValue (t : Tag)
  | slash (t : Tag)
  | exclamation
  | exclamationDash
  | commentStart
  | commentStartDash
  | comment (text : List Char)
  | commentDash (text : List Char)
  | commentDashes (text : List Char)
  | commentBang (text : List Char)
  | other (text : List Char)
deriving DecidableEq

/-- The blanks between attributes. -/
def isBlank (c : Char) : Bool := c = ' ' || c = '\t' || c = '\n' || c = '\r' || c = '\x0c'

namespace State

/-- The state after a character outside of tags, and what is given on. -/
def inData (c : Char) : State × List Token :=
  if c = '<' then (tagOpen, []) else (data, [.text c])

/-- The state after a character where an attribute may begin. -/
def inTag (t : Tag) (c : Char) : State × List Token :=
  if isBlank c then (beforeName t, [])
  else if c = '/' then (slash t, [])
  else if c = '>' then (data, [t.token false])
  else (attributeName t [c.toLower], [])

/-- The state after a character in a comment. -/
def inComment (text : List Char) (c : Char) : State × List Token :=
  if c = '-' then (commentDash text, []) else (comment (text ++ [c]), [])

/-- The attribute whose name and value were read. -/
def valued (refs : References) (name value : List Char) : Attribute :=
  .valued (String.ofList name) (String.ofList (refs.decode value))

/-- The state after one more character, and what is given on. -/
def step (refs : References) : State → Char → State × List Token
  | data, c => inData c
  | tagOpen, c =>
    if Text.isAsciiLetter c then (tagName ⟨false, [c.toLower], []⟩, [])
    else if c = '/' then (closingOpen, [])
    else if c = '!' then (exclamation, [])
    else if c = '?' then (other [c], [])
    else ((inData c).1, .text '<' :: (inData c).2)
  | closingOpen, c =>
    if Text.isAsciiLetter c then (tagName ⟨true, [c.toLower], []⟩, [])
    else if c = '>' then (data, [])
    else (other [c], [])
  | tagName t, c =>
    if isBlank c then (beforeName t, [])
    else if c = '/' then (slash t, [])
    else if c = '>' then (data, [t.token false])
    else (tagName { t with name := t.name ++ [c.toLower] }, [])
  | beforeName t, c => inTag t c
  | attributeName t name, c =>
    if isBlank c then (afterName t name, [])
    else if c = '=' then (beforeValue t name, [])
    else if c = '/' || c = '>' then inTag (t.add (.flag (String.ofList name))) c
    else (attributeName t (name ++ [c.toLower]), [])
  | afterName t name, c =>
    if isBlank c then (afterName t name, [])
    else if c = '=' then (beforeValue t name, [])
    else inTag (t.add (.flag (String.ofList name))) c
  | beforeValue t name, c =>
    if isBlank c then (beforeValue t name, [])
    else if c = '\x22' || c = '\x27' then (quoted c t name [], [])
    else if c = '>' then inTag (t.add (valued refs name [])) c
    else (unquoted t name [c], [])
  | quoted mark t name value, c =>
    if c = mark then (afterValue (t.add (valued refs name value)), [])
    else (quoted mark t name (value ++ [c]), [])
  | unquoted t name value, c =>
    if isBlank c || c = '>' then inTag (t.add (valued refs name value)) c
    else (unquoted t name (value ++ [c]), [])
  | afterValue t, c => inTag t c
  | slash t, c => if c = '>' then (data, [t.token true]) else inTag t c
  | exclamation, c =>
    if c = '-' then (exclamationDash, [])
    else if c = '>' then (data, [.other ""])
    else (other [c], [])
  | exclamationDash, c =>
    if c = '-' then (commentStart, [])
    else if c = '>' then (data, [.other "-"])
    else (other ['-', c], [])
  | commentStart, c =>
    if c = '-' then (commentStartDash, [])
    else if c = '>' then (data, [.comment ""])
    else inComment [] c
  | commentStartDash, c =>
    if c = '-' then (commentDashes [], [])
    else if c = '>' then (data, [.comment ""])
    else inComment ['-'] c
  | comment text, c => inComment text c
  | commentDash text, c =>
    if c = '-' then (commentDashes text, []) else inComment (text ++ ['-']) c
  | commentDashes text, c =>
    if c = '>' then (data, [.comment (String.ofList text)])
    else if c = '!' then (commentBang text, [])
    else if c = '-' then (commentDashes (text ++ ['-']), [])
    else inComment (text ++ ['-', '-']) c
  | commentBang text, c =>
    if c = '>' then (data, [.comment (String.ofList text)])
    else inComment (text ++ ['-', '-', '!']) c
  | other text, c =>
    if c = '>' then (data, [.other (String.ofList text)]) else (other (text ++ [c]), [])

/-- The state after a text, and what is given on. -/
def run (refs : References) : State → List Char → State × List Token
  | q, [] => (q, [])
  | q, c :: s =>
    let (q', found) := step refs q c
    let (q'', more) := run refs q' s
    (q'', found ++ more)

variable {q q' q'' : State} {s t : List Char} {found more : List Token} {c : Char}

theorem run_cons (h : step refs q c = (q', found)) (ht : run refs q' s = (q'', more)) :
    run refs q (c :: s) = (q'', found ++ more) := by
  rw [run, h]
  simp only [ht]

theorem run_append (h : run refs q s = (q', found)) (ht : run refs q' t = (q'', more)) :
    run refs q (s ++ t) = (q'', found ++ more) := by
  induction s generalizing q found with
  | nil =>
    obtain ⟨rfl, rfl⟩ := Prod.mk.inj h
    exact ht
  | cons c s ih =>
    cases hstep : step refs q c with
    | mk q₁ first =>
      cases hrest : run refs q₁ s with
      | mk q₂ rest =>
        obtain ⟨rfl, rfl⟩ := Prod.mk.inj ((run_cons hstep hrest).symm.trans h)
        rw [List.append_assoc]
        exact run_cons hstep (ih hrest)

/-- What is given on of the beginning of a text is given on of the text. -/
theorem run_beginning (h : (run refs q (s ++ t)).2 = []) : (run refs q s).2 = [] := by
  have hboth : run refs q (s ++ t) = _ := run_append rfl rfl
  rw [hboth] at h
  exact (List.append_eq_nil_iff.mp h).1

theorem run_singleton (h : step refs q c = (q', found)) : run refs q [c] = (q', found) := by
  simpa using run_cons h (s := []) rfl

/-! ### Elements -/

/-- The characters of the names of tags. -/
def isSmall (c : Char) : Bool := 97 ≤ c.toNat && c.toNat ≤ 122

/-- The characters of the names of attributes. -/
def isNameChar (c : Char) : Bool := isSmall c || c = '-'

theorem isNameChar_of_isSmall (h : isSmall c = true) : isNameChar c = true := by
  rw [isNameChar, h, Bool.true_or]

/-- Whether a text can be a name, of some characters. -/
def IsNameOf (p : Char → Bool) (s : String) : Prop := s.toList ≠ [] ∧ s.toList.all p = true

instance (p : Char → Bool) (s : String) : Decidable (IsNameOf p s) :=
  inferInstanceAs (Decidable (_ ∧ _))

/-- What a reader takes a character of a name for. -/
structure Plain (c : Char) : Prop where
  lower : c.toLower = c
  blank : isBlank c = false
  slash : c ≠ '/'
  greater : c ≠ '>'
  equal : c ≠ '='

theorem plain_of_isNameChar (h : isNameChar c = true) : Plain c := by
  simp only [isNameChar, isSmall, Bool.or_eq_true, Bool.and_eq_true, decide_eq_true_eq] at h
  rcases h with hletter | rfl
  · have hother (d : Char) (hd : d.toNat < 97) : c ≠ d := by
      rintro rfl
      omega
    refine ⟨?_, ?_, hother _ (by decide), hother _ (by decide), hother _ (by decide)⟩
    · have hsame := Page.toNat_toLower c
      rw [if_neg (by omega)] at hsame
      exact Char.toNat_inj.mp hsame
    · simp [isBlank, hother ' ' (by decide), hother '\t' (by decide), hother '\n' (by decide),
        hother '\r' (by decide), hother '\x0c' (by decide)]
  · exact ⟨by decide, by decide, by decide, by decide, by decide⟩

/-- Where a reader stands after the name of a tag or after an attribute, when all of the tag was
read. -/
inductive Between : Tag → State → Prop where
  | name (t : Tag) : Between t (tagName t)
  | value (t : Tag) : Between t (afterValue t)
  | flag (t : Tag) (name : List Char) : Between (t.add (.flag (String.ofList name))) (attributeName t name)

variable {tag : Tag}

theorem run_tagName (h : ∀ c ∈ s, isNameChar c = true) (tag : Tag) :
    run refs (tagName tag) s = (tagName { tag with name := tag.name ++ s }, []) := by
  induction s generalizing tag with
  | nil => rw [run, List.append_nil]
  | cons c s ih =>
    have hc := plain_of_isNameChar (h c List.mem_cons_self)
    have hstep : step refs (tagName tag) c = (tagName { tag with name := tag.name ++ [c] }, []) := by
      simp [step, hc.blank, hc.slash, hc.greater, hc.lower]
    have hrest := ih (fun d hd => h d (List.mem_cons_of_mem c hd)) { tag with name := tag.name ++ [c] }
    simpa using run_cons hstep hrest

theorem run_attributeName (refs : References) (h : ∀ c ∈ s, isNameChar c = true) (name : List Char) :
    run refs (attributeName tag name) s = (attributeName tag (name ++ s), []) := by
  induction s generalizing name with
  | nil => rw [run, List.append_nil]
  | cons c s ih =>
    have hc := plain_of_isNameChar (h c List.mem_cons_self)
    have hstep : step refs (attributeName tag name) c = (attributeName tag (name ++ [c]), []) := by
      simp [step, hc.blank, hc.slash, hc.greater, hc.equal, hc.lower]
    have hrest := ih (fun d hd => h d (List.mem_cons_of_mem c hd)) (name ++ [c])
    simpa using run_cons hstep hrest

theorem run_quoted (h : '\x22' ∉ s) (name value : List Char) :
    run refs (quoted '\x22' tag name value) s = (quoted '\x22' tag name (value ++ s), []) := by
  induction s generalizing value with
  | nil => rw [run, List.append_nil]
  | cons c s ih =>
    obtain ⟨hc, hs⟩ := List.ne_and_not_mem_of_not_mem_cons h
    have hstep : step refs (quoted '\x22' tag name value) c =
        (quoted '\x22' tag name (value ++ [c]), []) := by
      simp [step, Ne.symm hc]
    simpa using run_cons hstep (ih hs (value ++ [c]))

/-- After a blank the name of the next attribute begins. -/
theorem run_blank (h : Between tag q) (hc : isNameChar c = true)
    (hs : ∀ d ∈ s, isNameChar d = true) :
    run refs q (' ' :: c :: s) = (attributeName tag (c :: s), []) := by
  have hplain := plain_of_isNameChar hc
  -- only after a flag is an attribute still open, and it is taken in before the next one begins
  have hrest : run refs (attributeName tag [c]) s = (attributeName tag (c :: s), []) :=
    run_attributeName refs hs [c]
  have hbegin : inTag tag c = (attributeName tag [c], []) := by
    simp [inTag, hplain.blank, hplain.slash, hplain.greater, hplain.lower]
  cases h with
  | name =>
    have hblank : step refs (tagName tag) ' ' = (beforeName tag, []) := rfl
    have hstep : step refs (beforeName tag) c = (attributeName tag [c], []) := hbegin
    exact run_cons hblank (run_cons hstep hrest)
  | value =>
    have hblank : step refs (afterValue tag) ' ' = (beforeName tag, []) := rfl
    have hstep : step refs (beforeName tag) c = (attributeName tag [c], []) := hbegin
    exact run_cons hblank (run_cons hstep hrest)
  | flag t name =>
    have hblank : step refs (attributeName t name) ' ' = (afterName t name, []) := rfl
    have hstep : step refs (afterName t name) c =
        (attributeName (t.add (.flag (String.ofList name))) [c], []) := by
      simp [step, hplain.blank, hplain.equal, hbegin]
    exact run_cons hblank (run_cons hstep hrest)

/-- A written attribute is read as it was, whatever its value holds. -/
theorem run_attribute (refs : References) {a : Attribute} (h : Between tag q)
    (hname : IsNameOf isNameChar a.name) :
    ∃ q', run refs q a.render.toList = (q', []) ∧ Between (tag.add a) q' := by
  obtain ⟨c, s, hcs⟩ := List.exists_cons_of_ne_nil hname.1
  have hbegin : run refs q (' ' :: a.name.toList) = (attributeName tag a.name.toList, []) := by
    have hchars := List.all_eq_true.mp hname.2
    rw [hcs] at hchars ⊢
    exact run_blank h (hchars c List.mem_cons_self) fun d hd => hchars d (List.mem_cons_of_mem c hd)
  cases a with
  | flag name =>
    have hrender : (Attribute.flag name).render.toList = ' ' :: name.toList := by
      simp [Attribute.render]
    refine ⟨_, hrender ▸ hbegin, ?_⟩
    have hflag := Between.flag tag name.toList
    rwa [String.ofList_toList] at hflag
  | valued name value =>
    -- an escaped value holds no quote, so the first quote behind it ends it
    have hquote : '\x22' ∉ (Text.escapeMarkup value).toList := not_mem_escaped (by decide) value
    have hvalue : valued refs name.toList (Text.escapeMarkup value).toList = .valued name value := by
      rw [valued, Text.escapeMarkup, String.toList_ofList, decode_escaped, String.ofList_toList,
        String.ofList_toList]
    have hend : step refs (quoted '\x22' tag name.toList (Text.escapeMarkup value).toList) '\x22' =
        (afterValue (tag.add (.valued name value)), []) := by
      rw [step, if_pos rfl, hvalue]
    have hopen : run refs (attributeName tag name.toList) ['=', '\x22'] =
        (quoted '\x22' tag name.toList [], []) := rfl
    have hrender : (Attribute.valued name value).render.toList = (' ' :: name.toList) ++
        (['=', '\x22'] ++ ((Text.escapeMarkup value).toList ++ ['\x22'])) := by
      simp [Attribute.render]
    refine ⟨_, ?_, Between.value _⟩
    rw [hrender]
    exact run_append hbegin (run_append hopen (run_append (run_quoted hquote _ []) (run_singleton hend)))

/-- Attributes one after another are read one after another. -/
theorem run_attributes (refs : References) {attributes : List Attribute} (h : Between tag q)
    (hnames : ∀ a ∈ attributes, IsNameOf isNameChar a.name) :
    ∃ q', run refs q (String.join (attributes.map Attribute.render)).toList = (q', []) ∧
      Between (attributes.foldl (fun t a => t.add a) tag) q' := by
  induction attributes generalizing tag q with
  | nil => exact ⟨q, rfl, h⟩
  | cons a attributes ih =>
    obtain ⟨q₁, hfirst, hbetween⟩ := run_attribute refs h (hnames a List.mem_cons_self)
    obtain ⟨q₂, hrest, hend⟩ := ih hbetween fun b hb => hnames b (List.mem_cons_of_mem a hb)
    refine ⟨q₂, ?_, hend⟩
    rw [List.map_cons, String.join_cons, String.toList_append]
    exact run_append hfirst hrest

/-- A tag ends at `>` in all of these places. -/
theorem step_greater (refs : References) (h : Between tag q) : step refs q '>' = (data, [tag.token false]) := by
  cases h with
  | name => rfl
  | value => rfl
  | flag t name => rfl

end State

theorem Tag.foldl_add {attributes : List Attribute} (t : Tag)
    (h : ((t.attributes ++ attributes).map Attribute.name).Nodup) :
    attributes.foldl (fun t a => t.add a) t = { t with attributes := t.attributes ++ attributes } := by
  induction attributes generalizing t with
  | nil => rw [List.foldl_nil, List.append_nil]
  | cons a attributes ih =>
    have hnew : a.name ∉ t.attributes.map Attribute.name := by
      rw [List.map_append, List.nodup_append] at h
      exact fun hmem => h.2.2 a.name hmem a.name List.mem_cons_self rfl
    rw [List.foldl_cons, Tag.add, if_neg hnew, ih]
    · rw [List.append_assoc, List.singleton_append]
    · rwa [List.append_assoc, List.singleton_append]

/-- Whether the names of an element are such that it can be read again. -/
structure IsPlain (e : Element) : Prop where
  name : State.IsNameOf State.isSmall e.name
  names : ∀ a ∈ e.attributes, State.IsNameOf State.isNameChar a.name
  distinct : (e.attributes.map Attribute.name).Nodup

/-- What a reader gives on of an element. -/
def tokens (e : Element) : List Token :=
  .opening e.name e.attributes false :: if e.paired then [.closing e.name] else []

/-- An element is read as the data that it was written from, and nothing else is. -/
theorem run_render (refs : References) {e : Element} (h : IsPlain e) :
    State.run refs .data e.render.toList = (.data, tokens e) := by
  obtain ⟨c, s, hcs⟩ := List.exists_cons_of_ne_nil h.name.1
  have hletters := List.all_eq_true.mp h.name.2
  rw [hcs] at hletters
  have hchars : ∀ d ∈ s, State.isNameChar d = true :=
    fun d hd => State.isNameChar_of_isSmall (hletters d (List.mem_cons_of_mem c hd))
  have hsmall : State.isSmall c = true := hletters c List.mem_cons_self
  have hletter : Text.isAsciiLetter c = true := by
    rw [Text.isAsciiLetter, ← State.isSmall, hsmall, Bool.or_true]
  have hlower : c.toLower = c :=
    (State.plain_of_isNameChar (State.isNameChar_of_isSmall hsmall)).lower
  -- the name of a tag, after `<` and after `</`: the first letter decides that it is one
  have hname (q : State) (closing : Bool)
      (hstep : State.step refs q c = (.tagName ⟨closing, [c], []⟩, [])) :
      State.run refs q e.name.toList = (.tagName ⟨closing, e.name.toList, []⟩, []) := by
    rw [hcs]
    exact State.run_cons hstep (State.run_tagName hchars ⟨closing, [c], []⟩)
  have hopens : State.run refs .data ('<' :: e.name.toList) =
      (.tagName ⟨false, e.name.toList, []⟩, []) := by
    refine State.run_cons rfl (hname .tagOpen false ?_)
    simp [State.step, hletter, hlower]
  obtain ⟨q, hattributes, hbetween⟩ := State.run_attributes refs
    (State.Between.name ⟨false, e.name.toList, []⟩) h.names
  rw [Tag.foldl_add ⟨false, e.name.toList, []⟩ h.distinct] at hbetween
  have hend := State.run_singleton (State.step_greater refs hbetween)
  have hopening : State.run refs .data e.openingTag.toList =
      (.data, [.opening e.name e.attributes false]) := by
    have hwhole := State.run_append hopens (State.run_append hattributes hend)
    simpa [Element.openingTag, Tag.token] using hwhole
  unfold Element.render tokens
  cases e.paired with
  | false => exact hopening
  | true =>
    have hcloses : State.run refs .data ('<' :: '/' :: e.name.toList) =
        (.tagName ⟨true, e.name.toList, []⟩, []) := by
      refine State.run_cons rfl (State.run_cons rfl (hname .closingOpen true ?_))
      simp [State.step, hletter, hlower]
    have hlast := State.run_singleton
      (State.step_greater refs (State.Between.name ⟨true, e.name.toList, []⟩))
    have hwhole := State.run_append hopening (State.run_append hcloses hlast)
    simpa [Tag.token] using hwhole

/-! ### Comments -/

namespace State

/-- What was read of a comment, for a reader who stands in it. -/
def seen : State → Option (List Char)
  | commentStart => some []
  | commentStartDash => some ['-']
  | comment text => some text
  | commentDash text => some (text ++ ['-'])
  | commentDashes text => some (text ++ ['-', '-'])
  | commentBang text => some (text ++ ['-', '-', '!'])
  | _ => none

theorem seen_inComment (text : List Char) (c : Char) :
    ∃ q, inComment text c = (q, []) ∧ seen q = some (text ++ [c]) := by
  unfold inComment
  split
  · next hc => exact ⟨_, rfl, by rw [hc]; rfl⟩
  · exact ⟨_, rfl, rfl⟩

/-- Nothing but `>` ends a comment. -/
theorem step_seen (refs : References) (h : seen q = some s) (hc : c ≠ '>') :
    ∃ q', step refs q c = (q', []) ∧ seen q' = some (s ++ [c]) := by
  cases q with
  | commentStart =>
    obtain rfl := Option.some.inj h
    simp only [step, if_neg hc]
    split
    · next hdash => exact ⟨_, rfl, by rw [hdash]; rfl⟩
    · exact seen_inComment [] c
  | commentStartDash =>
    obtain rfl := Option.some.inj h
    simp only [step, if_neg hc]
    split
    · next hdash => exact ⟨_, rfl, by rw [hdash]; rfl⟩
    · exact seen_inComment ['-'] c
  | comment text =>
    obtain rfl := Option.some.inj h
    exact seen_inComment text c
  | commentDash text =>
    obtain rfl := Option.some.inj h
    simp only [step]
    split
    · next hdash => exact ⟨_, rfl, by simp [hdash, seen]⟩
    · exact seen_inComment (text ++ ['-']) c
  | commentDashes text =>
    obtain rfl := Option.some.inj h
    simp only [step, if_neg hc]
    split
    · next hbang => exact ⟨_, rfl, by simp [hbang, seen]⟩
    · split
      · next hdash => exact ⟨_, rfl, by simp [hdash, seen]⟩
      · exact seen_inComment (text ++ ['-', '-']) c
  | commentBang text =>
    obtain rfl := Option.some.inj h
    simp only [step, if_neg hc]
    exact seen_inComment (text ++ ['-', '-', '!']) c
  | _ => cases h

theorem run_seen (refs : References) (h : seen q = some s) (ht : '>' ∉ t) :
    ∃ q', run refs q t = (q', []) ∧ seen q' = some (s ++ t) := by
  induction t generalizing q s with
  | nil => exact ⟨q, rfl, by rwa [List.append_nil]⟩
  | cons c t ih =>
    obtain ⟨hc, ht⟩ := List.ne_and_not_mem_of_not_mem_cons ht
    obtain ⟨q₁, hstep, hseen⟩ := step_seen refs h (Ne.symm hc)
    obtain ⟨q₂, hrest, hend⟩ := ih hseen ht
    refine ⟨q₂, run_cons hstep hrest, ?_⟩
    rw [hend, List.append_assoc, List.singleton_append]

/-- After a blank a reader stands in the text of the comment, with no hyphen in mind. -/
theorem eq_comment_of_seen (h : seen q = some (s ++ [' '])) : q = comment (s ++ [' ']) := by
  have hlast := congrArg (fun found => found.bind List.getLast?) h
  cases q with
  | comment text => rw [Option.some.inj h]
  | commentStart => simp [seen] at h
  | commentStartDash => simp [seen] at hlast
  | commentDash text => simp [seen] at hlast
  | commentDashes text => simp [seen] at hlast
  | commentBang text => simp [seen] at hlast
  | _ => cases h

end State

/-- A written comment is read as one comment, with all of its text; before its end nothing is given
on. -/
theorem run_comment (refs : References) {text : String} (h : '>' ∉ text.toList) :
    State.run refs .data (Element.comment text).toList = (.data, [.comment (" " ++ text ++ " ")]) ∧
      ∀ s, s <+: (Element.comment text).toList → s ≠ (Element.comment text).toList →
        (State.run refs .data s).2 = [] := by
  let body := ' ' :: text.toList ++ [' ']
  have hwhole : (Element.comment text).toList = ['<', '!', '-', '-'] ++ (body ++ ['-', '-']) ++ ['>'] := by
    simp [Element.comment, body]
  have hbefore : State.run refs .data (['<', '!', '-', '-'] ++ (body ++ ['-', '-'])) =
      (.commentDashes body, []) := by
    have hbody : '>' ∉ body := by simp [body, h]
    have hopen : State.run refs .data ['<', '!', '-', '-'] = (.commentStart, []) := rfl
    obtain ⟨q, htext, hseen⟩ := State.run_seen refs (q := .commentStart) rfl hbody
    obtain rfl := State.eq_comment_of_seen hseen
    exact State.run_append hopen (State.run_append htext rfl)
  have hend : State.step refs (.commentDashes body) '>' = (.data, [.comment (" " ++ text ++ " ")]) := by
    have htext : String.ofList body = " " ++ text ++ " " := by
      rw [← String.toList_inj]
      simp [body]
    rw [State.step, if_pos rfl, htext]
  rw [hwhole]
  refine ⟨State.run_append hbefore (State.run_singleton hend), fun s hs hne => ?_⟩
  -- a beginning of the comment is one of what stands before its end
  obtain ⟨rest, hrest⟩ := (List.prefix_concat_iff.mp hs).resolve_left hne
  exact State.run_beginning (t := rest) (by rw [hrest, hbefore])

end Storybind.Markup
