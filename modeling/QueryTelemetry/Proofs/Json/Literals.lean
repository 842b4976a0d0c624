import QueryTelemetry.Json.Reader
import QueryTelemetry.Json.Text

/-!
# Literals are read as what was written

A character of a literal is written in one of four ways (`escapeChar_cases`): as
itself, by a short escape, by one UTF-16 unit, or by a pair of units.  The reader
tells them apart by their first two characters, so a literal is read as the text
that was written, and the reader stops behind the closing quote (`takeLiteral_escaped`).
Whatever the text, a literal is printable ASCII.
-/

namespace QueryTelemetry.Json

/-- A character that stands for itself in every writing: printable ASCII. -/
def IsPlain (c : Char) : Prop := 32 ≤ c.toNat ∧ c.toNat < 127

instance (c : Char) : Decidable (IsPlain c) :=
  inferInstanceAs (Decidable (32 ≤ c.toNat ∧ c.toNat < 127))

theorem plain_of_all {cs : List Char} (h : (cs.all fun c => decide (IsPlain c)) = true) :
    ∀ c ∈ cs, IsPlain c := by
  simpa using h

/-! ## UTF-16 units -/

theorem not_surrogate (c : Char) : ¬ (55296 ≤ c.toNat ∧ c.toNat < 57344) := by
  rcases c.valid with h | h
  · have hlow : c.toNat < 55296 := h
    omega
  · have hhigh : 57343 < c.toNat := h.1
    omega

theorem toNat_lt (c : Char) : c.toNat < 1114112 := by
  rcases c.valid with h | h
  · have hlow : c.toNat < 55296 := h
    omega
  · exact h.2

theorem hexDigit_mod (n : Nat) : Text.hexDigit (n % 16) = Text.hexDigit n := by
  simp [Text.hexDigit]

theorem hexValue?_hexDigit (n : Nat) : Text.hexValue? (Text.hexDigit n) = some (n % 16) := by
  have hall : ∀ d : Fin 16, Text.hexValue? (Text.hexDigit d) = some d.val := by decide
  rw [← hexDigit_mod]
  exact hall ⟨n % 16, by omega⟩

theorem isPlain_hexDigit (n : Nat) : IsPlain (Text.hexDigit n) := by
  have hall : ∀ d : Fin 16, IsPlain (Text.hexDigit d) := by decide
  rw [← hexDigit_mod]
  exact hall ⟨n % 16, by omega⟩

/-- The digits of a unit, without the backslash and the letter in front of them. -/
def unitDigits (n : Nat) : List Char :=
  [Text.hexDigit (n / 4096), Text.hexDigit (n / 256), Text.hexDigit (n / 16), Text.hexDigit n]

theorem unitEscape_eq (n : Nat) : unitEscape n = '\\' :: 'u' :: unitDigits n := rfl

theorem takeUnit_unitDigits {n : Nat} (h : n < 65536) (rest : List Char) :
    takeUnit (unitDigits n ++ rest) = some (n, rest) := by
  have hsum : ((n / 4096 % 16 * 16 + n / 256 % 16) * 16 + n / 16 % 16) * 16 + n % 16 = n := by
    omega
  simp [unitDigits, takeUnit, hexValue?_hexDigit, hsum]

theorem isPlain_of_mem_unitEscape {n : Nat} {x : Char} (h : x ∈ unitEscape n) : IsPlain x := by
  simp only [unitEscape, List.mem_cons, List.not_mem_nil, or_false] at h
  rcases h with rfl | rfl | rfl | rfl | rfl | rfl
  · decide
  · decide
  all_goals apply isPlain_hexDigit

/-- No character is half of a pair, so a single unit stands for itself. -/
theorem takeEscapedUnit_of_small {c : Char} (h : c.toNat < 65536) (rest : List Char) :
    takeEscapedUnit (unitDigits c.toNat ++ rest) = some (c, rest) := by
  have hsingle := not_surrogate c
  unfold takeEscapedUnit
  simp only [takeUnit_unitDigits h]
  rw [if_neg (by omega), Char.ofNat_toNat]

theorem takeEscapedUnit_pair {high low : Nat} (hhigh : 55296 ≤ high ∧ high < 56320)
    (hlow : 56320 ≤ low ∧ low < 57344) (rest : List Char) :
    takeEscapedUnit (unitDigits high ++ (unitEscape low ++ rest)) =
      some (Char.ofNat (65536 + (high - 55296) * 1024 + (low - 56320)), rest) := by
  unfold takeEscapedUnit
  rw [takeUnit_unitDigits (by omega), unitEscape_eq]
  simp only [List.cons_append]
  rw [if_pos hhigh, takeUnit_unitDigits (by omega)]
  dsimp only
  rw [if_pos hlow]

theorem takeEscapedUnit_of_large {c : Char} (h : 65536 ≤ c.toNat) (rest : List Char) :
    takeEscapedUnit (unitDigits (55296 + (c.toNat - 65536) / 1024) ++
      (unitEscape (56320 + (c.toNat - 65536) % 1024) ++ rest)) = some (c, rest) := by
  have hbound := toNat_lt c
  generalize hhigh : 55296 + (c.toNat - 65536) / 1024 = high
  generalize hlow : 56320 + (c.toNat - 65536) % 1024 = low
  have hcode : 65536 + (high - 55296) * 1024 + (low - 56320) = c.toNat := by omega
  rw [takeEscapedUnit_pair (by omega) (by omega), hcode, Char.ofNat_toNat]

/-! ## Characters of a literal -/

/-- The four ways of writing a character. -/
theorem escapeChar_cases (c : Char) :
    (∃ e, IsPlain e ∧ shortEscape? e = some c ∧ escapeChar c = ['\\', e]) ∨
    (IsPlain c ∧ c ≠ '"' ∧ c ≠ '\\' ∧ escapeChar c = [c]) ∨
    (c.toNat < 65536 ∧ escapeChar c = unitEscape c.toNat) ∨
    (65536 ≤ c.toNat ∧ escapeChar c = unitEscape (55296 + (c.toNat - 65536) / 1024) ++
      unitEscape (56320 + (c.toNat - 65536) % 1024)) := by
  have hshort (d e : Char) (he : IsPlain e) (hd : shortEscape? e = some d) (hc : c = d)
      (htext : escapeChar d = ['\\', e]) :
      ∃ e, IsPlain e ∧ shortEscape? e = some c ∧ escapeChar c = ['\\', e] := by
    subst hc
    exact ⟨e, he, hd, htext⟩
  by_cases hquote : c = '"'
  · exact .inl (hshort '"' '"' (by decide) rfl hquote rfl)
  by_cases hslash : c = '\\'
  · exact .inl (hshort '\\' '\\' (by decide) rfl hslash rfl)
  by_cases hn : c = '\n'
  · exact .inl (hshort '\n' 'n' (by decide) rfl hn rfl)
  by_cases hr : c = '\r'
  · exact .inl (hshort '\r' 'r' (by decide) rfl hr rfl)
  by_cases ht : c = '\t'
  · exact .inl (hshort '\t' 't' (by decide) rfl ht rfl)
  by_cases hf : c.toNat = 12
  · exact .inl (hshort (Char.ofNat 12) 'f' (by decide) rfl (by rw [← hf, Char.ofNat_toNat]) rfl)
  by_cases hb : c.toNat = 8
  · exact .inl (hshort (Char.ofNat 8) 'b' (by decide) rfl (by rw [← hb, Char.ofNat_toNat]) rfl)
  -- What has no short escape is written by its code, unless it is printable ASCII.
  unfold escapeChar
  simp only [beq_iff_eq, if_neg hquote, if_neg hslash, if_neg hn, if_neg hr, if_neg ht, if_neg hf,
    if_neg hb]
  by_cases hplain : 32 ≤ c.toNat ∧ c.toNat < 127
  · exact .inr (.inl ⟨hplain, hquote, hslash, if_pos hplain⟩)
  rw [if_neg hplain]
  by_cases hsmall : c.toNat < 65536
  · exact .inr (.inr (.inl ⟨hsmall, if_pos hsmall⟩))
  · exact .inr (.inr (.inr ⟨by omega, if_neg hsmall⟩))

theorem isPlain_of_mem_escapeChar {c x : Char} (h : x ∈ escapeChar c) : IsPlain x := by
  rcases escapeChar_cases c with ⟨e, he, -, htext⟩ | ⟨hplain, -, -, htext⟩ | ⟨-, htext⟩ | ⟨-, htext⟩
  · rw [htext] at h
    simp only [List.mem_cons, List.not_mem_nil, or_false] at h
    rcases h with rfl | rfl
    · decide
    · exact he
  · rw [htext] at h
    rw [List.mem_singleton.1 h]
    exact hplain
  · rw [htext] at h
    exact isPlain_of_mem_unitEscape h
  · rw [htext] at h
    rcases List.mem_append.1 h with h | h
    · exact isPlain_of_mem_unitEscape h
    · exact isPlain_of_mem_unitEscape h

theorem escapeChar_ne_nil (c : Char) : escapeChar c ≠ [] := by
  rcases escapeChar_cases c with ⟨e, -, -, htext⟩ | ⟨-, -, -, htext⟩ | ⟨-, htext⟩ | ⟨-, htext⟩
  all_goals simp [htext, unitEscape]

section

variable {fuel : Nat} {cs rest after : List Char} {c : Char}

theorem takeLiteral_short {e : Char} (he : shortEscape? e = some c)
    (h : takeLiteral fuel rest = some (cs, after)) :
    takeLiteral (fuel + 1) ('\\' :: e :: rest) = some (c :: cs, after) := by
  have hu : e ≠ 'u' := by
    intro heq
    subst heq
    simp [shortEscape?] at he
  simp [takeLiteral, he, h]

theorem takeLiteral_unit {digits : List Char} (hunit : takeEscapedUnit digits = some (c, rest))
    (h : takeLiteral fuel rest = some (cs, after)) :
    takeLiteral (fuel + 1) ('\\' :: 'u' :: digits) = some (c :: cs, after) := by
  simp [takeLiteral, hunit, h]

theorem takeLiteral_plain (hquote : c ≠ '"') (hslash : c ≠ '\\')
    (h : takeLiteral fuel rest = some (cs, after)) :
    takeLiteral (fuel + 1) (c :: rest) = some (c :: cs, after) := by
  simp [takeLiteral, hslash, h]

/-- What was written for a character is read as that character. -/
theorem takeLiteral_escapeChar (c : Char) (h : takeLiteral fuel rest = some (cs, after)) :
    takeLiteral (fuel + 1) (escapeChar c ++ rest) = some (c :: cs, after) := by
  rcases escapeChar_cases c with ⟨e, -, he, htext⟩ | ⟨-, hquote, hslash, htext⟩ |
    ⟨hsmall, htext⟩ | ⟨hlarge, htext⟩
  · rw [htext]
    exact takeLiteral_short he h
  · rw [htext]
    exact takeLiteral_plain hquote hslash h
  · rw [htext, unitEscape_eq]
    exact takeLiteral_unit (takeEscapedUnit_of_small hsmall rest) h
  · rw [htext, unitEscape_eq, List.append_assoc]
    exact takeLiteral_unit (takeEscapedUnit_of_large hlarge rest) h

end

/-! ## Literals -/

/-- A literal is read as the text that was written, up to its closing quote. -/
theorem takeLiteral_escaped (cs after : List Char) {fuel : Nat} (hfuel : cs.length < fuel) :
    takeLiteral fuel (cs.flatMap escapeChar ++ '"' :: after) = some (cs, after) := by
  induction cs generalizing fuel with
  | nil =>
    obtain ⟨fuel, rfl⟩ : ∃ n, fuel = n + 1 := ⟨fuel - 1, by simp at hfuel; omega⟩
    rfl
  | cons c cs ih =>
    obtain ⟨fuel, rfl⟩ : ∃ n, fuel = n + 1 := ⟨fuel - 1, by simp at hfuel; omega⟩
    rw [List.flatMap_cons, List.append_assoc]
    apply takeLiteral_escapeChar
    exact ih (by simp at hfuel; omega)

theorem length_le_escaped (cs : List Char) : cs.length ≤ (cs.flatMap escapeChar).length := by
  induction cs with
  | nil => simp
  | cons c cs ih =>
    have hpos := List.length_pos_iff.2 (escapeChar_ne_nil c)
    simp only [List.flatMap_cons, List.length_append, List.length_cons]
    omega

theorem toList_literal (s : String) :
    (literal s).toList = '"' :: (s.toList.flatMap escapeChar ++ ['"']) := by
  rw [literal, String.toList_ofList, literalChars]
  rfl

/-- The reader has enough fuel for a literal if it has as much as there are characters
from the first one on. -/
theorem takeLiteral_literal (s : String) (after : List Char) :
    takeLiteral ((s.toList.flatMap escapeChar ++ '"' :: after).length + 1)
      (s.toList.flatMap escapeChar ++ '"' :: after) = some (s.toList, after) := by
  have hlength := length_le_escaped s.toList
  apply takeLiteral_escaped
  simp only [List.length_append, List.length_cons]
  omega

theorem isPlain_of_mem_literal {s : String} {x : Char} (h : x ∈ (literal s).toList) :
    IsPlain x := by
  rw [toList_literal] at h
  simp only [List.mem_cons, List.mem_append, List.mem_flatMap, List.not_mem_nil, or_false] at h
  rcases h with rfl | ⟨c, -, hc⟩ | rfl
  · decide
  · exact isPlain_of_mem_escapeChar hc
  · decide

end QueryTelemetry.Json
