import Mathlib.Tactic
import Storybind.Proofs.Json.Spelling

/-!
Reading gives the value that a text spells.
-/

namespace Storybind.Json

/-- Whether a text reads as a value wherever it stands. -/
def ReadsAs (t : List Char) (v : Value) : Prop :=
  ∀ fuel rest position, t.length < fuel → Delimited rest →
    valueAt fuel ⟨t ++ rest, position⟩ = .ok (v, ⟨rest, position + t.length⟩)

/-- A value that begins with none of the marks is a word or a number. -/
theorem valueAt_plain {d : Char} (hd : d ∉ ['\x22', '\x7b', '[']) (fuel : Nat) (cs : List Char)
    (position : Nat) :
    valueAt (fuel + 1) ⟨d :: cs, position⟩ =
      match wordAt? ⟨d :: cs, position⟩ with
      | some r => .ok r
      | none =>
        match numberAt ⟨d :: cs, position⟩ with
        | .error e => .error e
        | .ok (some r) => .ok r
        | .ok none => Cursor.fail ⟨d :: cs, position⟩ .expectingValue := by
  simp only [List.mem_cons, List.not_mem_nil, or_false, not_or] at hd
  unfold valueAt
  split
  · next heq => cases heq
  · next heq => exact absurd (List.cons.inj heq).1 hd.1
  · next heq => exact absurd (List.cons.inj heq).1 hd.2.1
  · next heq => exact absurd (List.cons.inj heq).1 hd.2.2
  · rfl

theorem readsAs_word {d : Char} {cs : List Char} {v : Value} (hd : d ∉ ['\x22', '\x7b', '['])
    (h : ∀ rest position, wordAt? ⟨d :: cs ++ rest, position⟩ =
      some (v, ⟨rest, position + (d :: cs).length⟩)) : ReadsAs (d :: cs) v := by
  intro fuel rest position hfuel _
  obtain ⟨fuel, rfl⟩ := Nat.exists_eq_succ_of_ne_zero (Nat.ne_zero_of_lt hfuel)
  have hword := h rest position
  rw [List.cons_append] at hword ⊢
  rw [valueAt_plain hd, hword]

theorem readsAs_null : ReadsAs "null".toList .null :=
  readsAs_word (by decide) fun _ _ => rfl

theorem readsAs_true : ReadsAs "true".toList (.bool true) :=
  readsAs_word (by decide) fun _ _ => rfl

theorem readsAs_false : ReadsAs "false".toList (.bool false) :=
  readsAs_word (by decide) fun _ _ => rfl

theorem not_mem_of_isAsciiDigit {d : Char} (h : Text.isAsciiDigit d = true) :
    d ∉ ['n', 't', 'f', 'N', 'I', '-', '\x22', '\x7b', '['] := by
  have hall : (['n', 't', 'f', 'N', 'I', '-', '\x22', '\x7b', '['].all fun c =>
      !Text.isAsciiDigit c) = true := by decide
  intro hd
  have hnone := List.all_eq_true.mp hall d hd
  rw [h] at hnone
  cases hnone

/-- No word begins like a numeral. -/
theorem wordAt?_numeral {n : Numeral} (h : n.IsWellFormed) (rest : List Char) (position : Nat) :
    wordAt? ⟨n.text ++ rest, position⟩ = none := by
  obtain ⟨d, ds, hd⟩ := List.exists_cons_of_ne_nil h.nonempty
  have hne := not_mem_of_isAsciiDigit (h.whole d (by rw [hd]; exact List.mem_cons_self))
  simp only [List.mem_cons, List.not_mem_nil, or_false, not_or] at hne
  rw [Numeral.text, hd]
  cases n.negative with
  | true => simp [wordAt?, Text.after?, Ne.symm hne.2.2.2.2.1]
  | false =>
    simp [wordAt?, Text.after?, Ne.symm hne.1, Ne.symm hne.2.1, Ne.symm hne.2.2.1,
      Ne.symm hne.2.2.2.1, Ne.symm hne.2.2.2.2.1, Ne.symm hne.2.2.2.2.2.1]

theorem readsAs_numeral {n : Numeral} (h : n.IsWellFormed) : ReadsAs n.text n.value := by
  intro fuel rest position hfuel hrest
  obtain ⟨fuel, rfl⟩ := Nat.exists_eq_succ_of_ne_zero (Nat.ne_zero_of_lt hfuel)
  have hword := wordAt?_numeral h rest position
  have hnumber := Numeral.numberAt_numeral h hrest position
  obtain ⟨c, cs, hc, hplain⟩ : ∃ c cs, n.text ++ rest = c :: cs ∧ c ∉ ['\x22', '\x7b', '['] := by
    obtain ⟨d, ds, hd⟩ := List.exists_cons_of_ne_nil h.nonempty
    have hne := not_mem_of_isAsciiDigit (h.whole d (by rw [hd]; exact List.mem_cons_self))
    rw [Numeral.text, hd]
    cases n.negative with
    | true => exact ⟨'-', _, rfl, by decide⟩
    | false =>
      refine ⟨d, _, rfl, fun hmem => hne ?_⟩
      exact List.mem_append_right ['n', 't', 'f', 'N', 'I', '-'] hmem
  rw [hc] at hword hnumber ⊢
  rw [valueAt_plain hplain, hword, hnumber]

theorem readsAs_literal {t : List Char} {s : String} (h : Literal t s) : ReadsAs t (.text s) := by
  intro fuel rest position hfuel _
  obtain ⟨fuel, rfl⟩ := Nat.exists_eq_succ_of_ne_zero (Nat.ne_zero_of_lt hfuel)
  have hread := stringAt_literal h rest position
  cases h with
  | quoted h =>
    simp only [List.cons_append] at hread ⊢
    unfold valueAt
    simp only [hread]
    rfl

/-! ### Containers -/

theorem exists_joinItems (layout : Layout) (depth : Nat) (t u : List Char) (us : List (List Char)) :
    ∃ ws, AllBlanks ws ∧ joinItems (itemMark layout depth) (t :: u :: us) =
      t ++ ',' :: (ws ++ joinItems (itemMark layout depth) (u :: us)) := by
  obtain ⟨ws, hmark, hws⟩ := exists_itemMark layout depth
  refine ⟨ws, hws, ?_⟩
  rw [joinItems_cons, hmark, List.cons_append]

theorem startsIn_cons {among : List Char} {c : Char} (hc : c ∈ among) (cs : List Char) :
    StartsIn among (c :: cs) :=
  ⟨c, hc, rfl⟩

theorem StartsIn.ne_cons {among t : List Char} (h : StartsIn among t) {c : Char} (hc : c ∉ among)
    (cs : List Char) : t ≠ c :: cs := by
  rintro rfl
  obtain ⟨d, hd, hhead⟩ := h
  exact hc (Option.some.inj hhead ▸ hd)

theorem blanks_mark {c : Char} (hc : c ∈ solids) (rest : List Char) (position : Nat) :
    Cursor.blanks ⟨c :: rest, position⟩ = ⟨c :: rest, position⟩ :=
  blanks_of_solid (startsIn_cons hc rest) position

theorem blanks_close {trail : List Char} (htrail : AllBlanks trail) {c : Char} (hc : c ∈ solids)
    (rest : List Char) (position : Nat) :
    Cursor.blanks ⟨trail ++ c :: rest, position⟩ = ⟨c :: rest, position + trail.length⟩ :=
  blanks_append htrail (startsIn_cons hc rest) position

theorem blanks_comma {ws others : List Char} (hws : AllBlanks ws) (hothers : StartsIn solids others)
    (position : Nat) : (Cursor.skip 1 ⟨',' :: (ws ++ others), position⟩).blanks =
      ⟨others, position + 1 + ws.length⟩ :=
  blanks_append hws hothers (position + 1)

/-- An item reads as its value, and reading goes on behind it. -/
theorem itemsAt_item {t : List Char} {v : Value} (hread : ReadsAs t v) {fuel : Nat} (hfuel : t.length < fuel)
    {tail : List Char} (htail : Delimited tail) (position : Nat) :
    itemsAt (fuel + 1) ⟨t ++ tail, position⟩ =
      let c := Cursor.blanks ⟨tail, position + t.length⟩
      match c.rest with
      | ']' :: _ => pure ([v], c.skip 1)
      | ',' :: _ => do
        let (vs, c) ← itemsAt fuel (c.skip 1).blanks
        pure (v :: vs, c)
      | _ => c.fail .expectingComma := by
  rw [itemsAt, hread fuel tail position hfuel htail]
  rfl

/-- The items of an array read as the values that they spell. -/
theorem itemsAt_parts (layout : Layout) (depth : Nat) {trail : List Char}
    (htrail : AllBlanks trail) {parts : List (List Char × Value)} (hne : parts ≠ [])
    (hstart : ∀ p ∈ parts, StartsIn openings p.1) (hread : ∀ p ∈ parts, ReadsAs p.1 p.2)
    (fuel : Nat) (rest : List Char) (position : Nat)
    (hfuel : (joinItems (itemMark layout depth) (parts.map Prod.fst)).length + 1 < fuel) :
    itemsAt fuel ⟨joinItems (itemMark layout depth) (parts.map Prod.fst) ++ (trail ++ ']' :: rest),
        position⟩ =
      .ok (parts.map Prod.snd, ⟨rest, position +
        (joinItems (itemMark layout depth) (parts.map Prod.fst)).length + trail.length + 1⟩) := by
  induction parts generalizing fuel position with
  | nil => exact absurd rfl hne
  | cons p ps ih =>
    obtain ⟨fuel, rfl⟩ := Nat.exists_eq_succ_of_ne_zero (Nat.ne_zero_of_lt hfuel)
    have hp := hread p List.mem_cons_self
    have hlength := Nat.le_of_lt_succ hfuel
    cases ps with
    | nil =>
      simp only [List.map_cons, List.map_nil, joinItems] at hlength ⊢
      rw [itemsAt_item hp hlength (delimited_append htrail (delimited_cons (by decide) rest))]
      simp only [blanks_close htrail (c := ']') (by decide)]
      rfl
    | cons q qs =>
      have hopening : StartsIn openings
          (joinItems (itemMark layout depth) ((q :: qs).map Prod.fst)) :=
        startsIn_joinItems (hstart q (List.mem_cons_of_mem p List.mem_cons_self)) _ _
      obtain ⟨ws, hws, hjoin⟩ : ∃ ws, AllBlanks ws ∧
          joinItems (itemMark layout depth) ((p :: q :: qs).map Prod.fst) =
            p.1 ++ ',' :: (ws ++ joinItems (itemMark layout depth) ((q :: qs).map Prod.fst)) :=
        exists_joinItems layout depth _ _ _
      -- the comma is one character of fuel at least, which is what the next items may take
      have hrest := ih (List.cons_ne_nil q qs) (fun r hr => hstart r (List.mem_cons_of_mem p hr))
        (fun r hr => hread r (List.mem_cons_of_mem p hr)) fuel (position + p.1.length + 1 + ws.length)
      rw [hjoin] at hlength ⊢
      generalize joinItems (itemMark layout depth) ((q :: qs).map Prod.fst) = others at *
      have hothers := (solid_of_opening hopening).append (trail ++ ']' :: rest)
      simp only [List.length_append, List.length_cons] at hlength
      simp only [List.append_assoc, List.cons_append]
      rw [itemsAt_item hp (by omega) (delimited_cons (by decide) _)]
      simp only [blanks_mark (c := ',') (by decide), blanks_comma hws hothers]
      rw [hrest (by omega)]
      simp only [bind, Except.bind, pure, Except.pure, List.length_append, List.length_cons, List.map_cons]
      congr 4
      omega

/-- An array whose items read reads as the list of them. -/
theorem readsAs_list {layout : Layout} {depth : Nat} {parts : List (List Char × Value)}
    (hstart : ∀ p ∈ parts, StartsIn openings p.1) (hread : ∀ p ∈ parts, ReadsAs p.1 p.2) :
    ReadsAs (enclose layout depth '[' ']' (parts.map Prod.fst)) (.ofList (parts.map Prod.snd)) := by
  intro fuel rest position hfuel hrest
  obtain ⟨fuel, rfl⟩ := Nat.exists_eq_succ_of_ne_zero (Nat.ne_zero_of_lt hfuel)
  have hlead := allBlanks_breakAt layout (depth + 1)
  have htrail := allBlanks_breakAt layout depth
  cases parts with
  | nil =>
    have hempty : enclose layout depth '[' ']' (([] : List (List Char × Value)).map Prod.fst) ++ rest =
        '[' :: ']' :: rest := rfl
    rw [hempty, valueAt]
    simp only [Cursor.skip, List.drop_succ_cons, List.drop_zero, blanks_mark (c := ']') (by decide)]
    rfl
  | cons p ps =>
    have hitems := startsIn_joinItems (hstart p List.mem_cons_self)
      (itemMark layout (depth + 1)) (ps.map Prod.fst)
    rw [List.map_cons, length_enclose_cons] at hfuel ⊢
    have hvalues := itemsAt_parts layout (depth + 1) htrail
      (List.cons_ne_nil p ps) hstart hread fuel rest
      (position + 1 + (breakAt layout (depth + 1)).length) (by rw [List.map_cons]; omega)
    rw [List.map_cons] at hvalues
    rw [enclose_cons, valueAt]
    have hfilled := hitems.append (breakAt layout depth ++ ']' :: rest)
    simp only [Cursor.skip, List.drop_succ_cons, List.drop_zero,
      blanks_append hlead (solid_of_opening hfilled)]
    split
    · next tail heq => exact absurd heq (hfilled.ne_cons (by decide) tail)
    · rw [hvalues]
      simp only [Except.map, List.map_cons]
      congr 3
      omega

theorem put_of_forall {key : Scalar} {v : Value} {es : Entries}
    (h : ∀ e ∈ es, e.1.sameKey key = false) : Entries.put key v es = es ++ [(key, v)] := by
  induction es with
  | nil => rfl
  | cons e es ih =>
    obtain ⟨k, x⟩ := e
    have hk := h (k, x) List.mem_cons_self
    rw [Entries.put, if_neg (by rw [hk]; exact Bool.false_ne_true),
      ih fun e he => h e (List.mem_cons_of_mem _ he), List.cons_append]

/-- A field with a new name comes after those before it. -/
theorem set_entries {f : SpelledField} {done : List SpelledField}
    (h : f.name ∉ done.map SpelledField.name) :
    Entries.set f.name f.value (SpelledField.entries done) =
      SpelledField.entries (done ++ [f]) := by
  have hnew : ∀ e ∈ SpelledField.entries done, e.1.sameKey (.text f.name) = false := by
    intro e he
    obtain ⟨g, hg, rfl⟩ := List.mem_map.mp he
    have hne : g.name ≠ f.name := fun hname => h (List.mem_map.mpr ⟨g, hg, hname⟩)
    simpa [Scalar.sameKey] using hne
  rw [Entries.set, put_of_forall hnew]
  simp [SpelledField.entries]

theorem exists_of_literal {t : List Char} {s : String} (h : Literal t s) :
    ∃ cs, t = '\x22' :: cs := by
  cases h
  exact ⟨_, rfl⟩

/-- A field reads as its name and value, and reading goes on behind it. -/
theorem fieldsAt_field {f : SpelledField} (hliteral : Literal f.literal f.name)
    (hstart : StartsIn openings f.body) (hread : ReadsAs f.body f.value) {fuel : Nat}
    (hfuel : f.text.length ≤ fuel) {tail : List Char} (htail : Delimited tail) (position : Nat)
    (done : Entries) :
    fieldsAt (fuel + 1) ⟨f.text ++ tail, position⟩ done =
      let c := Cursor.blanks ⟨tail, position + f.text.length⟩
      let done := Entries.set f.name f.value done
      match c.rest with
      | '\x7d' :: _ => pure (done, c.skip 1)
      | ',' :: _ => fieldsAt fuel (c.skip 1).blanks done
      | _ => c.fail .expectingComma := by
  have hlength : f.text.length = f.literal.length + (f.body.length + 2) := by
    simp [SpelledField.text]
  have hname := stringAt_literal hliteral (':' :: ' ' :: (f.body ++ tail)) position
  have hblank : AllBlanks [' '] := by simp [AllBlanks]
  have hbody := hread fuel tail (position + f.literal.length + 1 + 1) (by omega) htail
  have hsolid := (solid_of_opening hstart).append tail
  have htext : f.text ++ tail = f.literal ++ ':' :: ' ' :: (f.body ++ tail) := by
    simp [SpelledField.text]
  obtain ⟨lit, hlit⟩ := exists_of_literal hliteral
  rw [htext, hlength]
  rw [hlit, List.cons_append] at hname ⊢
  rw [fieldsAt]
  simp only [bind, Except.bind, hname, blanks_mark (c := ':') (by decide), Cursor.skip, List.drop_succ_cons,
    List.drop_zero]
  have hskip := blanks_append hblank hsolid (position + ('\x22' :: lit).length + 1)
  rw [List.singleton_append, List.length_singleton] at hskip
  have hposition : position + ('\x22' :: lit).length + 1 + 1 + f.body.length =
      position + (('\x22' :: lit).length + (f.body.length + 2)) := by
    omega
  rw [hlit, hposition] at hbody
  rewrite [hskip, hbody]
  rfl

theorem startsIn_fields {f : SpelledField} (h : Literal f.literal f.name) (mark : List Char)
    (fs : List SpelledField) : StartsIn openings (joinItems mark ((f :: fs).map SpelledField.text)) := by
  obtain ⟨c, hc, hhead⟩ := startsIn_joinItems ((startsIn_literal h).append _) mark (fs.map SpelledField.text)
  obtain rfl := List.mem_singleton.mp hc
  exact ⟨'\x22', by decide, hhead⟩

/-- The fields of an object, behind those that were read, read as the entries that they spell. -/
theorem fieldsAt_fields (layout : Layout) (depth : Nat) {trail : List Char}
    (htrail : AllBlanks trail) (done : List SpelledField) {fields : List SpelledField} (hne : fields ≠ [])
    (hnames : ((done ++ fields).map SpelledField.name).Nodup)
    (hliterals : ∀ f ∈ fields, Literal f.literal f.name)
    (hstart : ∀ f ∈ fields, StartsIn openings f.body)
    (hread : ∀ f ∈ fields, ReadsAs f.body f.value) (fuel : Nat) (rest : List Char) (position : Nat)
    (hfuel : (joinItems (itemMark layout depth) (fields.map SpelledField.text)).length < fuel) :
    fieldsAt fuel ⟨joinItems (itemMark layout depth) (fields.map SpelledField.text) ++
        (trail ++ '\x7d' :: rest), position⟩ (SpelledField.entries done) =
      .ok (SpelledField.entries (done ++ fields), ⟨rest, position +
        (joinItems (itemMark layout depth) (fields.map SpelledField.text)).length +
          trail.length + 1⟩) := by
  induction fields generalizing fuel position done with
  | nil => exact absurd rfl hne
  | cons f fs ih =>
    obtain ⟨fuel, rfl⟩ := Nat.exists_eq_succ_of_ne_zero (Nat.ne_zero_of_lt hfuel)
    have hlength := Nat.le_of_lt_succ hfuel
    have hmem := List.mem_cons_self (a := f) (l := fs)
    -- a name is new, so its entry is added behind those that were read
    have hnew : f.name ∉ done.map SpelledField.name := by
      rw [List.map_append, List.nodup_append] at hnames
      exact fun h => hnames.2.2 _ h _ (List.mem_map.mpr ⟨f, hmem, rfl⟩) rfl
    have hfield {tail : List Char} (hle : f.text.length ≤ fuel) (htail : Delimited tail) :=
      fieldsAt_field (hliterals f hmem) (hstart f hmem) (hread f hmem) hle htail
    cases fs with
    | nil =>
      simp only [List.map_cons, List.map_nil, joinItems] at hlength ⊢
      rw [hfield hlength (delimited_append htrail (delimited_cons (by decide) rest))]
      simp only [blanks_close htrail (c := '\x7d') (by decide), set_entries hnew]
      rfl
    | cons g gs =>
      have hopening := startsIn_fields (hliterals g (List.mem_cons_of_mem f List.mem_cons_self))
        (itemMark layout depth) gs
      obtain ⟨ws, hws, hjoin⟩ : ∃ ws, AllBlanks ws ∧
          joinItems (itemMark layout depth) ((f :: g :: gs).map SpelledField.text) =
            f.text ++ ',' :: (ws ++ joinItems (itemMark layout depth) ((g :: gs).map SpelledField.text)) :=
        exists_joinItems layout depth _ _ _
      have hnames' : ((done ++ [f] ++ g :: gs).map SpelledField.name).Nodup := by
        rwa [List.append_assoc]
      have hrest := ih (done ++ [f]) (List.cons_ne_nil g gs) hnames'
        (fun h hh => hliterals h (List.mem_cons_of_mem f hh))
        (fun h hh => hstart h (List.mem_cons_of_mem f hh))
        (fun h hh => hread h (List.mem_cons_of_mem f hh)) fuel
        (position + f.text.length + 1 + ws.length)
      rw [hjoin] at hlength ⊢
      generalize joinItems (itemMark layout depth) ((g :: gs).map SpelledField.text) = others at *
      have hothers := (solid_of_opening hopening).append (trail ++ '\x7d' :: rest)
      simp only [List.length_append, List.length_cons] at hlength
      simp only [List.append_assoc, List.cons_append]
      rw [hfield (by omega) (delimited_cons (by decide) _)]
      simp only [blanks_mark (c := ',') (by decide), blanks_comma hws hothers, set_entries hnew]
      rw [hrest (by omega)]
      simp only [List.length_append, List.length_cons, List.append_assoc, List.singleton_append]
      congr 3
      omega

/-- An object whose fields read reads as the mapping of them. -/
theorem readsAs_mapping {layout : Layout} {depth : Nat} {fields : List SpelledField}
    (hnames : (fields.map SpelledField.name).Nodup)
    (hliterals : ∀ f ∈ fields, Literal f.literal f.name)
    (hstart : ∀ f ∈ fields, StartsIn openings f.body)
    (hread : ∀ f ∈ fields, ReadsAs f.body f.value) :
    ReadsAs (enclose layout depth '\x7b' '\x7d' (fields.map SpelledField.text))
      (.ofEntries (SpelledField.entries fields)) := by
  intro fuel rest position hfuel hrest
  obtain ⟨fuel, rfl⟩ := Nat.exists_eq_succ_of_ne_zero (Nat.ne_zero_of_lt hfuel)
  have hlead := allBlanks_breakAt layout (depth + 1)
  have htrail := allBlanks_breakAt layout depth
  cases fields with
  | nil =>
    have hempty : enclose layout depth '\x7b' '\x7d'
        (([] : List SpelledField).map SpelledField.text) ++ rest = '\x7b' :: '\x7d' :: rest := rfl
    rw [hempty, valueAt]
    simp only [Cursor.skip, List.drop_succ_cons, List.drop_zero, blanks_mark (c := '\x7d') (by decide)]
    rfl
  | cons f fs =>
    have hfields := startsIn_fields (hliterals f List.mem_cons_self) (itemMark layout (depth + 1)) fs
    rw [List.map_cons, length_enclose_cons] at hfuel ⊢
    have hvalues := fieldsAt_fields layout (depth + 1) htrail [] (List.cons_ne_nil f fs)
      hnames hliterals hstart hread fuel rest
      (position + 1 + (breakAt layout (depth + 1)).length) (by rw [List.map_cons]; omega)
    have hnothing : SpelledField.entries [] = [] := rfl
    rw [List.map_cons, hnothing, List.nil_append] at hvalues
    rw [List.map_cons] at hfields
    rw [enclose_cons, valueAt]
    have hfilled := hfields.append (breakAt layout depth ++ '\x7d' :: rest)
    simp only [Cursor.skip, List.drop_succ_cons, List.drop_zero,
      blanks_append hlead (solid_of_opening hfilled)]
    split
    · next tail heq => exact absurd heq (hfilled.ne_cons (by decide) tail)
    · rw [hvalues]
      simp only [Except.map]
      congr 3
      omega

/-- Every text reads as the value that it spells. -/
theorem readsAs_spells {t : List Char} {v : Value} (h : Spells t v) : ReadsAs t v := by
  induction h with
  | null => exact readsAs_null
  | true => exact readsAs_true
  | false => exact readsAs_false
  | number h => exact readsAs_numeral h
  | text h => exact readsAs_literal h
  | list h ih => exact readsAs_list (fun p hp => startsIn_spells (h p hp)) ih
  | mapping hnames hliterals h ih =>
    exact readsAs_mapping hnames hliterals (fun f hf => startsIn_spells (h f hf)) ih

theorem blanks_of_allBlanks {ws : List Char} (h : AllBlanks ws) (position : Nat) :
    Cursor.blanks ⟨ws, position⟩ = ⟨[], position + ws.length⟩ := by
  have hall : ∀ c ∈ ws, (c = ' ' || c = '\t' || c = '\n' || c = '\r' : Bool) = true := by
    intro c hc
    rcases h c hc with rfl | rfl <;> rfl
  rw [Cursor.blanks, List.takeWhile_eq_self_iff.mpr hall, Cursor.skip, List.drop_length]

/-- A text that spells a value is JSON text of that value, also with blanks behind it. -/
theorem readChars_spells_append {t ws : List Char} {v : Value} (h : Spells t v) (hws : AllBlanks ws) :
    readChars (t ++ ws) = .ok v := by
  have hstart := (startsIn_spells h).append ws
  -- no value begins with a byte order mark
  have hmark : ((t ++ ws).head? == some (Char.ofNat 0xfeff)) = false := by
    obtain ⟨c, hc, hhead⟩ := hstart
    have hall : (openings.all fun c => c != Char.ofNat 0xfeff) = true := by decide
    rw [hhead]
    simpa using List.all_eq_true.mp hall c hc
  have hdelimited : Delimited ws := by
    rw [← List.append_nil ws]
    exact delimited_append hws nofun
  have hlength : t.length < (t ++ ws).length + 1 := by
    rw [List.length_append]
    omega
  have hvalue := readsAs_spells h ((t ++ ws).length + 1) ws 0 hlength hdelimited
  rw [readChars, hmark, blanks_of_solid (solid_of_opening hstart), if_neg Bool.false_ne_true, hvalue]
  simp only [bind, Except.bind, blanks_of_allBlanks hws]
  rfl

theorem readChars_spells {t : List Char} {v : Value} (h : Spells t v) : readChars t = .ok v := by
  have hnothing : AllBlanks [] := nofun
  have hread := readChars_spells_append h hnothing
  rwa [List.append_nil] at hread

end Storybind.Json
