import Mathlib.Algebra.Group.Nat.Defs
import QueryTelemetry.Propagation.TraceParent

/-!
# Hexadecimal numbers of a fixed width

A number below `16 ^ width` is written with exactly `width` digits (`Text.length_hex`), leading
zeros included, so that a reader who takes that many digits gets the number back and stops where
the digits stop (`TraceParent.takeHex_hex`).
-/

namespace QueryTelemetry

namespace Text

theorem toList_hex (width n : Nat) :
    (hex width n).toList =
      List.replicate (width - (Nat.toDigits 16 n).length) '0' ++ Nat.toDigits 16 n := by
  rw [hex, String.toList_ofList]

theorem hex_ne_empty (width n : Nat) : hex width n ≠ "" := by
  intro h
  have hlist : (hex width n).toList = [] := by rw [h]; rfl
  rw [toList_hex, List.append_eq_nil_iff] at hlist
  exact Nat.toDigits_ne_nil hlist.2

theorem length_toDigits_le {width n : Nat} (hwidth : 0 < width) (h : n < 16 ^ width) :
    (Nat.toDigits 16 n).length ≤ width :=
  (Nat.length_toDigits_le_iff (by decide) hwidth).2 h

theorem length_hex {width n : Nat} (hwidth : 0 < width) (h : n < 16 ^ width) :
    (hex width n).length = width := by
  have hle := length_toDigits_le hwidth h
  rw [← String.length_toList, toList_hex, List.length_append, List.length_replicate]
  omega

end Text

namespace Propagation.TraceParent

theorem digit?_digitChar {d : Nat} (h : d < 16) : digit? d.digitChar = some d := by
  have hall : ∀ d : Fin 16, digit? (Nat.digitChar d) = some d.val := by decide
  exact hall ⟨d, h⟩

/-- Digits are taken one after another. -/
theorem takeHex_add (a b n : Nat) (cs : List Char) :
    takeHex (a + b) n cs = (takeHex a n cs).bind fun p => takeHex b p.1 p.2 := by
  induction a generalizing n cs with
  | zero => rw [Nat.zero_add]; rfl
  | succ a ih =>
    rw [Nat.add_right_comm]
    cases cs with
    | nil => rfl
    | cons c cs =>
      simp only [takeHex, Option.bind_eq_bind, Option.bind_assoc]
      exact Option.bind_congr fun d _ => ih (16 * n + d) cs

theorem takeHex_zeros (count : Nat) (rest : List Char) :
    takeHex count 0 (List.replicate count '0' ++ rest) = some (0, rest) := by
  induction count with
  | zero => rfl
  | succ count ih => exact ih

/-- The digits of a number that stand behind others shift those to the left. -/
theorem takeHex_toDigits (n before : Nat) (rest : List Char) :
    takeHex (Nat.toDigits 16 n).length before (Nat.toDigits 16 n ++ rest) =
      some (before * 16 ^ (Nat.toDigits 16 n).length + n, rest) := by
  induction n using Nat.strongRecOn generalizing rest with
  | ind n ih =>
    by_cases hsmall : n < 16
    · rw [Nat.toDigits_of_lt_base hsmall]
      simp only [List.length_singleton, List.singleton_append, takeHex, digit?_digitChar hsmall,
        Option.bind_eq_bind, Option.bind_some, Nat.pow_one, Nat.mul_comm]
    · have hlast := digit?_digitChar (Nat.mod_lt n (by decide : 0 < 16))
      have hshift : ∀ k, 16 * (before * 16 ^ k + n / 16) + n % 16 =
          before * 16 ^ (k + 1) + n := by
        intro k
        have hbefore : 16 * (before * 16 ^ k) = before * 16 ^ (k + 1) := by
          rw [Nat.pow_succ, Nat.mul_left_comm, Nat.mul_comm 16]
        omega
      rw [Nat.toDigits_of_base_le (by decide) (Nat.le_of_not_lt hsmall), List.length_append,
        List.append_assoc, takeHex_add, ih (n / 16) (by omega)]
      simp only [List.length_singleton, List.singleton_append, Option.bind_some, takeHex, hlast,
        Option.bind_eq_bind, hshift]

/-- What was written with `width` digits is read with `width` digits. -/
theorem takeHex_hex {width n : Nat} (hwidth : 0 < width) (h : n < 16 ^ width) (rest : List Char) :
    takeHex width 0 ((Text.hex width n).toList ++ rest) = some (n, rest) := by
  have hle := Text.length_toDigits_le hwidth h
  obtain ⟨zeros, hzeros⟩ : ∃ zeros, width = zeros + (Nat.toDigits 16 n).length :=
    ⟨width - (Nat.toDigits 16 n).length, by omega⟩
  have hpad : width - (Nat.toDigits 16 n).length = zeros := by omega
  rw [Text.toList_hex, hpad, hzeros, takeHex_add, List.append_assoc, takeHex_zeros,
    Option.bind_some, takeHex_toDigits, Nat.zero_mul, Nat.zero_add]

end Propagation.TraceParent

end QueryTelemetry
