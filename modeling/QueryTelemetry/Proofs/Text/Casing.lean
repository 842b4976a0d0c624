import Mathlib
import QueryTelemetry.Text.Case

/-!
# Small letters whatever the case

Two texts that differ in the case of their ASCII letters have the same small letters
(`Text.lower_eq_of_toLower_eq`).  The one form that depends on its surroundings, that of sigma, asks
only which characters around it are letters with case, and the case of an ASCII letter does not
change that (`Text.endsWord_toLower`).
-/

namespace QueryTelemetry.Text

/-! ## One character -/

theorem toNat_toLower_of_isUpper {c : Char} (h : c.isUpper = true) :
    65 ≤ c.toNat ∧ c.toNat ≤ 90 ∧ c.toLower.toNat = c.toNat + 32 := by
  obtain ⟨hlow, hhigh⟩ : 'A' ≤ c ∧ c ≤ 'Z' := of_decide_eq_true h
  have hlow : 65 ≤ c.toNat := hlow
  have hhigh : c.toNat ≤ 90 := hhigh
  refine ⟨hlow, hhigh, ?_⟩
  rw [Char.toLower_eq_of_isUpper h, Char.toNat_ofNat, if_pos (.inl (by omega))]

theorem toLower_eq_of_large {c : Char} (h : 128 ≤ c.toNat) : c.toLower = c := by
  refine Char.toLower_eq_of_not_isUpper fun hupper => ?_
  have hbounds := toNat_toLower_of_isUpper hupper
  omega

theorem toNat_toLower_lt_iff (c : Char) : c.toLower.toNat < 128 ↔ c.toNat < 128 := by
  by_cases h : c.isUpper
  · have hbounds := toNat_toLower_of_isUpper h
    omega
  · rw [Char.toLower_eq_of_not_isUpper h]

theorem toLower_eq_sigma_iff (c : Char) : c.toLower = 'Σ' ↔ c = 'Σ' := by
  by_cases h : c.isUpper
  · have hbounds := toNat_toLower_of_isUpper h
    constructor
    · intro hsigma
      have hnat : c.toLower.toNat = 931 := by rw [hsigma]; rfl
      omega
    · rintro rfl
      exact absurd h (by decide)
  · rw [Char.toLower_eq_of_not_isUpper h]

theorem lowerChars_toLower (c : Char) : lowerChars c.toLower = lowerChars c := by
  by_cases h : c.toNat < 128
  · have hsmall := (toNat_toLower_lt_iff c).2 h
    have hne : c.toNat ≠ 304 := by omega
    have hne' : c.toLower.toNat ≠ 304 := by omega
    simp only [lowerChars, lowerChar, if_neg hne, if_neg hne', if_pos h, if_pos hsmall,
      Char.toLower_toLower_eq_toLower]
  · rw [toLower_eq_of_large (Nat.le_of_not_lt h)]

/-- A table that does not tell a small letter from its capital. -/
def CaseBlind (bounds : List Nat) : Prop :=
  ∀ k : Fin 26, inRanges bounds (k + 65 + 32) = inRanges bounds (k + 65)

theorem caseBlind_casedBounds : CaseBlind casedBounds := by
  unfold CaseBlind
  decide +kernel

theorem caseBlind_passedBounds : CaseBlind passedBounds := by
  unfold CaseBlind
  decide +kernel

theorem CaseBlind.toLower {bounds : List Nat} (h : CaseBlind bounds) (c : Char) :
    inRanges bounds c.toLower.toNat = inRanges bounds c.toNat := by
  by_cases hupper : c.isUpper
  · obtain ⟨hlow, hhigh, hsmall⟩ := toNat_toLower_of_isUpper hupper
    have hblind := h ⟨c.toNat - 65, by omega⟩
    rwa [Nat.sub_add_cancel hlow, ← hsmall] at hblind
  · rw [Char.toLower_eq_of_not_isUpper hupper]

/-! ## The end of a word -/

theorem meetsCased_toLower (cs : List Char) : meetsCased (cs.map Char.toLower) = meetsCased cs := by
  induction cs with
  | nil => rfl
  | cons c cs ih =>
    have hpassed := caseBlind_passedBounds.toLower c
    simp only [meetsCased] at ih ⊢
    rw [List.map_cons, List.dropWhile_cons, List.dropWhile_cons, hpassed]
    cases inRanges passedBounds c.toNat with
    | true => exact ih
    | false => exact caseBlind_casedBounds.toLower c

theorem endsWord_toLower (before after : List Char) :
    endsWord (before.map Char.toLower) (after.map Char.toLower) = endsWord before after := by
  rw [endsWord, endsWord, meetsCased_toLower, meetsCased_toLower]

/-! ## Texts -/

theorem lowerAfter_toLower (before cs : List Char) :
    lowerAfter (before.map Char.toLower) (cs.map Char.toLower) = lowerAfter before cs := by
  induction cs generalizing before with
  | nil => rfl
  | cons c cs ih =>
    have hrest := ih (c :: before)
    rw [List.map_cons] at hrest
    simp only [List.map_cons, lowerAfter, toLower_eq_sigma_iff, endsWord_toLower,
      lowerChars_toLower, hrest]

theorem lower_toLower (s : String) : lower s.toLower = lower s := by
  rw [lower, String.toLower, String.toList_map]
  exact congrArg String.ofList (lowerAfter_toLower [] s.toList)

/-- Texts that are equal but for the case of ASCII letters have the same small letters. -/
theorem lower_eq_of_toLower_eq {s t : String} (h : s.toLower = t.toLower) : lower s = lower t := by
  rw [← lower_toLower s, h, lower_toLower]

end QueryTelemetry.Text
