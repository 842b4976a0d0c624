import QueryTelemetry.Proofs.Text.Casing
import QueryTelemetry.Text.Blank

/-!
# Characters that are the same as few others

When the case of letters is ignored, a character may be the same as others.  The
characters below the capitals of ASCII, which are marks, digits and blanks, are the
same as no other (`LetterCase.eq_of_same`).  A letter is alone if no other small
letter has the same capital.  If one of two letters is alone, no character is the
same as both unless they are the same themselves (`LetterCase.same_apart`).
-/

namespace QueryTelemetry.Text

/-! ## Marks -/

/-- Whether a character lies below the capitals of ASCII, and is not the very first
one. -/
def IsMark (c : Char) : Prop := 0 < c.toNat ∧ c.toNat < 65

instance (c : Char) : Decidable (IsMark c) :=
  inferInstanceAs (Decidable (0 < c.toNat ∧ c.toNat < 65))

theorem lowerChar_of_isMark {c : Char} (h : IsMark c) : lowerChar c = c := by
  have hupper : ¬ c.isUpper := fun hupper => by
    have hbounds := toNat_toLower_of_isUpper hupper
    have hmark := h.2
    omega
  have hascii : c.toNat < 128 := Nat.lt_trans h.2 (by decide)
  rw [lowerChar, if_pos hascii, Char.toLower_eq_of_not_isUpper hupper]

/-- No capital outside ASCII has a mark for its small letter. -/
theorem le_of_mem_caseStretches : ∀ r ∈ caseStretches, 65 ≤ (r.first : Int) + r.offset := by
  decide +kernel

/-- Only a mark has a mark for its small form. -/
theorem eq_of_isMark_lowerChar {c : Char} (h : IsMark (lowerChar c)) : lowerChar c = c := by
  by_cases hascii : c.toNat < 128
  · rw [lowerChar, if_pos hascii] at h ⊢
    by_cases hupper : c.isUpper
    · have hbounds := toNat_toLower_of_isUpper hupper
      have hmark := h.2
      omega
    · exact Char.toLower_eq_of_not_isUpper hupper
  · rw [lowerChar, if_neg hascii] at h ⊢
    cases hfound : caseStretches.find? (·.holds c.toNat) with
    | none => rfl
    | some r =>
      rw [hfound] at h
      have hbound := le_of_mem_caseStretches r (List.mem_of_find?_eq_some hfound)
      have hholds : r.holds c.toNat = true := by simpa using List.find?_some hfound
      have hfirst : r.first ≤ c.toNat := by
        simp only [CaseStretch.holds, Bool.and_eq_true, decide_eq_true_eq] at hholds
        exact hholds.1.1
      have hsmall : (Char.ofNat (Int.toNat (c.toNat + r.offset))).toNat = _ := Char.toNat_ofNat _
      rw [IsMark, hsmall] at h
      split at h <;> omega

theorem le_of_mem_sharedCapitals : ∀ group ∈ sharedCapitals, ∀ n ∈ group, 65 ≤ n := by
  decide

theorem shareCapital_of_isMark {a b : Char} (h : IsMark b) : shareCapital a b = false := by
  refine Bool.eq_false_iff.2 fun hshare => ?_
  simp only [shareCapital, Bool.and_eq_true, List.any_eq_true, List.contains_iff_mem] at hshare
  obtain ⟨-, group, hgroup, -, hmem⟩ := hshare
  have hbound := le_of_mem_sharedCapitals group hgroup _ hmem
  have hmark := h.2
  omega

/-- A character that is the same as a mark is that mark. -/
theorem LetterCase.eq_of_same {a b : Char} (h : IsMark b) (hsame : ignored.same a b = true) :
    a = b := by
  have hlower : lowerChar a = lowerChar b := by
    simpa [same, form, sameLetter, lowerChar_of_isMark h, shareCapital_of_isMark h] using hsame
  rw [lowerChar_of_isMark h] at hlower
  exact (eq_of_isMark_lowerChar (hlower ▸ h)).symm.trans hlower

theorem LetterCase.same_comm (a b : Char) : ignored.same a b = ignored.same b a := by
  have hshare : shareCapital (lowerChar a) (lowerChar b) =
      shareCapital (lowerChar b) (lowerChar a) := by
    simp only [shareCapital, or_comm, Bool.and_comm]
  simp only [same, form, sameLetter, hshare, BEq.comm (a := lowerChar a)]

/-- A mark is the same as itself alone. -/
theorem LetterCase.same_mark_iff {a b : Char} (h : IsMark a) : ignored.same a b = true ↔ b = a := by
  constructor
  · intro hsame
    rw [same_comm] at hsame
    exact eq_of_same h hsame
  · rintro rfl
    simp [same]

/-! ## Letters -/

namespace LetterCase

/-- Whether no other small letter has the same capital as a letter. -/
def Alone (a : Char) : Prop := ∀ group ∈ sharedCapitals, (lowerChar a).toNat ∉ group

instance (a : Char) : Decidable (Alone a) :=
  inferInstanceAs (Decidable (∀ group ∈ sharedCapitals, (lowerChar a).toNat ∉ group))

variable {a b c : Char}

theorem lowerChar_eq_of_same (ha : Alone a) (h : ignored.same a c = true) :
    lowerChar c = lowerChar a := by
  have hshare : shareCapital (lowerChar a) (lowerChar c) = false := by
    refine Bool.eq_false_iff.2 fun hshare => ?_
    simp only [shareCapital, Bool.and_eq_true, List.any_eq_true, List.contains_iff_mem] at hshare
    obtain ⟨-, group, hgroup, hmem, -⟩ := hshare
    exact ha group hgroup hmem
  have hlower : lowerChar a = lowerChar c := by simpa [same, form, sameLetter, hshare] using h
  exact hlower.symm

theorem same_congr (h : lowerChar b = lowerChar c) : ignored.same a b = ignored.same a c := by
  simp only [same, form, sameLetter, h]

/-- No character is the same as two letters that are not the same, if one of them
is alone. -/
theorem same_apart (halone : Alone a ∨ Alone b) (hab : ignored.same a b = false)
    (h : ignored.same a c = true) : ignored.same b c = false := by
  rcases halone with ha | hb
  · rw [same_congr (lowerChar_eq_of_same ha h), same_comm, hab]
  · refine Bool.eq_false_iff.2 fun hbc => ?_
    rw [same_congr (lowerChar_eq_of_same hb hbc), hab] at h
    cases h

end LetterCase

/-! ## Blanks -/

/-- The code points of all blanks. -/
def blanks : List Nat :=
  [9, 10, 11, 12, 13, 28, 29, 30, 31, 32, 133, 160, 5760, 8192, 8193, 8194, 8195, 8196, 8197, 8198,
    8199, 8200, 8201, 8202, 8232, 8233, 8239, 8287, 12288]

theorem mem_blanks_of_isBlank {c : Char} (h : isBlank c = true) : c.toNat ∈ blanks := by
  simp only [isBlank, blankBounds, inRanges_cons, inRanges_nil, Bool.or_eq_true, Bool.and_eq_true,
    decide_eq_true_eq, Bool.false_eq_true, and_false, or_false] at h
  simp only [blanks, List.mem_cons, List.not_mem_nil, or_false]
  omega

end QueryTelemetry.Text
