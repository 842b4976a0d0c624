import Mathlib.Data.List.Basic
import QueryTelemetry.Text.Numeral

/-!
# Whole numbers are read as what was written

A whole number is written with the digits of ASCII, after a sign when it is negative
(`toList_toString_int`).  The reader of numerals takes them all, and they stand for the
number (`ofDigits_toDigits`).
-/

namespace QueryTelemetry.Text

theorem toNat_of_isDigit {c : Char} (h : c.isDigit = true) : 48 ≤ c.toNat ∧ c.toNat < 58 := by
  simp only [Char.isDigit, Bool.and_eq_true, decide_eq_true_eq, ge_iff_le,
    UInt32.le_iff_toNat_le] at h
  have hlow : 48 ≤ c.toNat := h.1
  have hhigh : c.toNat ≤ 57 := h.2
  omega

theorem digitValue?_of_isDigit {c : Char} (h : c.isDigit = true) :
    digitValue? c = some (c.toNat - 48) := by
  have hbounds := toNat_of_isDigit h
  have hzeros : digitZeros = 48 :: digitZeros.tail := rfl
  rw [digitValue?, hzeros, List.find?_cons_of_pos (by simp; omega)]
  rfl

theorem takeDigits_of_isDigit {cs : List Char} (h : ∀ c ∈ cs, c.isDigit = true)
    (afterDigit : Bool) : takeDigits afterDigit cs = (cs.map (·.toNat - 48), []) := by
  induction cs generalizing afterDigit with
  | nil => rfl
  | cons c cs ih =>
    have hc := digitValue?_of_isDigit (h c List.mem_cons_self)
    have hcs := ih fun d hd => h d (List.mem_cons_of_mem c hd)
    simp only [takeDigits, hc, hcs]
    rfl

theorem isDigit_of_mem_toDigits {n : Nat} {c : Char} (h : c ∈ Nat.toDigits 10 n) :
    c.isDigit = true :=
  Nat.isDigit_of_mem_toDigits (by omega) (by omega) h

theorem ofDigits_toDigits (n : Nat) : ofDigits ((Nat.toDigits 10 n).map (·.toNat - 48)) = n := by
  unfold ofDigits
  rw [List.foldl_map]
  exact Nat.ofDigitChars_toDigits (by omega) (by omega)

/-- The number behind a sign is read as a whole. -/
theorem takeDigits_toDigits (n : Nat) : takeDigits false (Nat.toDigits 10 n) =
    ((Nat.toDigits 10 n).map (·.toNat - 48), []) :=
  takeDigits_of_isDigit (fun _ hc => isDigit_of_mem_toDigits hc) false

theorem toList_toString_int (n : Int) : (toString n).toList =
    (if n < 0 then ['-'] else []) ++ Nat.toDigits 10 n.natAbs := by
  cases n with
  | ofNat n =>
    have hsign : ¬ Int.ofNat n < 0 := by simp
    rw [if_neg hsign]
    exact Nat.toList_repr
  | negSucc n =>
    rw [if_pos (Int.negSucc_lt_zero n)]
    show ("-" ++ toString (n + 1)).toList = _
    rw [String.toList_append]
    exact congrArg _ Nat.toList_repr

/-- A number without a sign begins with a digit, so no sign is taken from it. -/
theorem takeSign_toDigits (n : Nat) :
    takeSign (Nat.toDigits 10 n) = (false, Nat.toDigits 10 n) := by
  obtain ⟨c, cs, hcs⟩ := List.exists_cons_of_ne_nil (Nat.toDigits_ne_nil (n := n) (b := 10))
  have hdigit := toNat_of_isDigit (isDigit_of_mem_toDigits (n := n) (c := c) (by simp [hcs]))
  rw [hcs]
  unfold takeSign
  split
  · next heq =>
    obtain ⟨rfl, -⟩ := List.cons.inj heq
    exact absurd hdigit.1 (by decide)
  · next heq =>
    obtain ⟨rfl, -⟩ := List.cons.inj heq
    exact absurd hdigit.1 (by decide)
  · rfl

/-- The sign and the digits of a number that was written. -/
theorem takeSign_toString_int (n : Int) :
    takeSign (toString n).toList = (decide (n < 0), Nat.toDigits 10 n.natAbs) := by
  rw [toList_toString_int]
  by_cases hneg : n < 0
  · rw [if_pos hneg, decide_eq_true hneg]
    rfl
  · rw [if_neg hneg, decide_eq_false hneg, List.nil_append]
    exact takeSign_toDigits n.natAbs

end QueryTelemetry.Text
