import Mathlib.Tactic
import Storybind.Dependency.Fetch
import Storybind.Proofs.Dependency.Fields
import Storybind.Proofs.Text.Pieces

/-!
What reading a declaration checks, and what follows for its integrity value: it can be compared with
any content.
-/

namespace Storybind

namespace Declaration

variable {d : Declaration}

/-- What is checked when a declaration is read. -/
structure IsValid (d : Declaration) : Prop where
  complete : complaint? d = none
  priority : priorityComplaint? d.priority = none
  integrity : ∀ value, d.integrity = some value → isIntegrity value

theorem isIntegrity_trim_of_integrityComplaint? {given : Option String} {value : String}
    (h : integrityComplaint? given = none) (hv : given.map Text.trim = some value) :
    isIntegrity value := by
  obtain ⟨s, rfl, rfl⟩ := Option.map_eq_some_iff.mp hv
  simpa [integrityComplaint?] using h

/-- A declaration that was read is valid. -/
theorem isValid_of_ofValue {v : Value} (h : (ofValue v).outcome = .ok d) :
    IsValid d := by
  obtain ⟨_, _, _, -, -, hreads, hcomplete⟩ := ofValue_eq_ok.mp h
  refine ⟨hcomplete, ?_, fun value hvalue => ?_⟩
  · rcases Form.withDefault_ok hreads.priority with hdefault | ⟨v, hv⟩
    · rw [hdefault]
      rfl
    · exact (Form.ruled_ok hv).2
  · rcases Form.withDefault_ok hreads.integrity with hdefault | ⟨v, hv⟩
    · rw [hdefault] at hvalue
      cases hvalue
    · obtain ⟨given, hgiven, hgivenvalue⟩ := Form.map_ok hv
      rw [← hgivenvalue] at hvalue
      exact isIntegrity_trim_of_integrityComplaint? (Form.ruled_ok hgiven).2 hvalue

theorem priority_of_priorityComplaint? {n : Int} (h : priorityComplaint? n = none) :
    0 ≤ n ∧ n ≤ 100 := by
  unfold priorityComplaint? at h
  split at h
  · cases h
  · next hbounds =>
    simp only [Bool.or_eq_true, decide_eq_true_eq] at hbounds
    omega

theorem exists_of_not_isUnset {s : Option String} (h : ¬isUnset s = true) :
    ∃ t, s = some t ∧ t ≠ "" := by
  cases s with
  | none => exact absurd rfl h
  | some t => exact ⟨t, rfl, by simpa [isUnset] using h⟩

/-- A declaration that lacks nothing has a name, and an address or a content as its kind needs. -/
theorem complete_of_complaint? (h : complaint? d = none) :
    (∃ c ∈ d.name.toList, Text.isBlank c = false) ∧
      (d.kind ≠ .inlined → ∃ url, d.url = some url ∧ url ≠ "") ∧
      (d.kind = .inlined → ∃ content, d.content = some content ∧ content ≠ "") := by
  unfold complaint? at h
  split at h
  · cases h
  · next hname =>
    split at h
    · cases h
    · next hurl =>
      split at h
      · cases h
      · next hcontent =>
        rw [Bool.and_eq_true, decide_eq_true_eq, not_and] at hurl hcontent
        refine ⟨?_, fun hkind => exists_of_not_isUnset (hurl hkind),
          fun hkind => exists_of_not_isUnset (hcontent hkind)⟩
        simpa [Text.isBlankText] using hname

/-- The characters of a digest are printable ASCII. -/
theorem toNat_of_isDigestChar {c : Char} (h : isDigestChar c) : 33 ≤ c.toNat ∧ c.toNat ≤ 127 := by
  simp only [isDigestChar, Text.isAsciiAlnum, Text.isAsciiLetter, Text.isAsciiDigit, Bool.or_eq_true,
    Bool.and_eq_true, decide_eq_true_eq] at h
  rcases h with ((h | h) | rfl) | rfl
  · omega
  · omega
  · decide
  · decide

/-- An integrity value is the name of a digest, a hyphen, characters of a digest and padding. -/
theorem exists_digest_of_isIntegrity {value : String} (h : isIntegrity value) :
    ∃ name p body, Digest.named.lookup name = some p ∧
      (∀ c ∈ name.toList, Text.isAsciiAlnum c = true) ∧
      value.toList = name.toList ++ '-' :: body ∧
      ∀ c ∈ body, isDigestChar c = true ∨ c = '=' := by
  unfold isIntegrity at h
  split at h
  · cases h
  · next body hbody =>
    simp only [Bool.and_eq_true, List.all_eq_true, decide_eq_true_eq] at h
    have hchars : ∀ c ∈ body, isDigestChar c = true ∨ c = '=' := by
      intro c hc
      rw [← List.takeWhile_append_dropWhile (p := isDigestChar) (l := body)] at hc
      rcases List.mem_append.mp hc with hc | hc
      · exact .inl (List.all_eq_true.mp List.all_takeWhile c hc)
      · exact .inr (h.2 c hc)
    obtain ⟨piece, hpiece, hafter⟩ := List.exists_of_findSome?_eq_some hbody
    rw [Text.after?_eq_some] at hafter
    simp only [List.mem_cons, List.not_mem_nil, or_false] at hpiece
    rcases hpiece with rfl | rfl | rfl
    · exact ⟨"sha256", _, body, rfl, List.all_eq_true.mp rfl, hafter, hchars⟩
    · exact ⟨"sha384", _, body, rfl, List.all_eq_true.mp rfl, hafter, hchars⟩
    · exact ⟨"sha512", _, body, rfl, List.all_eq_true.mp rfl, hafter, hchars⟩

/-- The characters of an integrity value. -/
theorem mem_of_isIntegrity {value : String} (h : isIntegrity value) {c : Char}
    (hc : c ∈ value.toList) : isDigestChar c = true ∨ c = '-' ∨ c = '=' := by
  obtain ⟨name, p, body, -, hname, hvalue, hbody⟩ := exists_digest_of_isIntegrity h
  rw [hvalue] at hc
  rcases List.mem_append.mp hc with hc | hc
  · exact .inl (by simp [isDigestChar, hname c hc])
  · rcases List.mem_cons.mp hc with rfl | hc
    · exact .inr (.inl rfl)
    · exact (hbody c hc).imp_right .inr

/-- An integrity value can be compared with any content. -/
theorem exists_verify_of_isIntegrity {value : String} (h : isIntegrity value) (data : Bytes) :
    ∃ ok, Digest.verify data value = .ok ok := by
  obtain ⟨name, p, body, hname, hletters, hvalue, hbody⟩ := exists_digest_of_isIntegrity h
  have hmark : '-' ∉ name.toList := fun hm => absurd (hletters _ hm) (by decide)
  have hascii : ∀ c ∈ body, c.toNat ≤ 127 := by
    intro c hc
    rcases hbody c hc with hc | rfl
    · exact (toNat_of_isDigestChar hc).2
    · decide
  have hbefore : Text.beforeFirst '-' value = name := by
    rw [Text.beforeFirst, hvalue, List.takeWhile_append_of_pos]
    · simp
    · intro c hc
      simpa using fun hcm : c = '-' => hmark (hcm ▸ hc)
  have hafter : (Text.drop (name.length + 1) value).toList = body := by
    rw [Text.drop, String.toList_ofList, hvalue, ← String.length_toList]
    simp
  unfold Digest.verify
  simp only [hbefore, hname, hafter]
  rw [if_neg (by simpa using hascii)]
  exact ⟨_, rfl⟩

end Declaration

namespace Fetch

/-- Whether bytes have the digest asked for; where they cannot be compared they have not. -/
def accepts (integrity : Option String) (bytes : Bytes) : Bool :=
  match passes integrity bytes with
  | .ok ok => ok
  | .error _ => false

/-- The content of a valid declaration can always be checked. -/
theorem passes_eq {d : Declaration} (hd : d.IsValid) (bytes : Bytes) :
    passes d.integrity bytes = .ok (accepts d.integrity bytes) := by
  have h : ∃ ok, passes d.integrity bytes = .ok ok := by
    unfold passes
    split
    · exact ⟨true, rfl⟩
    · next value hvalue =>
      split
      · exact ⟨true, rfl⟩
      · obtain ⟨ok, hok⟩ := Declaration.exists_verify_of_isIntegrity (hd.integrity value hvalue) bytes
        exact ⟨ok, by rw [hok]; rfl⟩
  obtain ⟨ok, hok⟩ := h
  rw [accepts, hok]

end Fetch
end Storybind
