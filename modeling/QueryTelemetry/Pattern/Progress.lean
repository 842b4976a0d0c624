import QueryTelemetry.Pattern.Replace

/-!
# Matches and replacements make progress

A match passes a piece of the text and stops behind it: the piece and what follows it are the text
that was there (`Pattern.reaches_of_mem_ways`). So a replacement that goes on behind a match has
less text before it, and the bound that `Rule.replaceAll` puts on its own steps is never what ends
it: any larger bound gives the same text (`Rule.replaceFrom_of_enough`).
-/

namespace QueryTelemetry

namespace Cursor

/-- The place `t` lies behind the place `s` of the same text. -/
def Reaches (s t : Cursor) : Prop :=
  ∃ piece, s.rest = piece ++ t.rest ∧ t.before = piece.reverse ++ s.before ∧
    t.passed = s.passed + piece.length

theorem Reaches.refl (s : Cursor) : s.Reaches s := ⟨[], rfl, rfl, rfl⟩

theorem Reaches.trans {s t u : Cursor} (h : s.Reaches t) (h' : t.Reaches u) : s.Reaches u := by
  obtain ⟨p, hrest, hbefore, hpassed⟩ := h
  obtain ⟨q, hrest', hbefore', hpassed'⟩ := h'
  refine ⟨p ++ q, ?_, ?_, ?_⟩
  · rw [hrest, hrest', List.append_assoc]
  · rw [hbefore', hbefore, List.reverse_append, List.append_assoc]
  · rw [hpassed', hpassed, List.length_append, Nat.add_assoc]

theorem rest_enter (number : Nat) (s : Cursor) : (s.enter number).rest = s.rest := by
  rw [enter]
  split
  · split <;> rfl
  · rfl

theorem reaches_of_enter {s t : Cursor} {number : Nat} (h : (s.enter number).Reaches t) :
    s.Reaches t := by
  simp only [enter] at h
  split at h
  · split at h
    · exact h
    · exact h
  · exact h

theorem reaches_capture {s t : Cursor} (h : s.Reaches t) (number : Nat) :
    s.Reaches (capture number s t) := h

theorem reaches_of_step? {wanted : Char → Bool} {s t : Cursor} (h : s.step? wanted = some t) :
    s.Reaches t := by
  simp only [step?] at h
  split at h
  · next c rest hrest =>
    split at h
    · obtain rfl := Option.some.inj h
      exact ⟨[c], hrest, rfl, rfl⟩
    · exact absurd h nofun
  · exact absurd h nofun

theorem reaches_of_steps? {letters : Text.LetterCase} {cs : List Char} {s t : Cursor}
    (h : steps? letters cs s = some t) : s.Reaches t := by
  induction cs generalizing s with
  | nil => exact Option.some.inj h ▸ .refl s
  | cons c cs ih =>
    obtain ⟨u, hu, ht⟩ := Option.bind_eq_some_iff.1 h
    exact (reaches_of_step? hu).trans (ih ht)

theorem reaches_of_looked {s t : Cursor} {negated : Bool} {found : Option Cursor}
    (h : s.looked negated found = some t) : s.Reaches t := by
  cases found <;> cases negated <;> simp only [looked, Bool.false_eq_true, if_true, if_false] at h
  · exact absurd h nofun
  · exact Option.some.inj h ▸ .refl s
  · exact Option.some.inj h ▸ .refl s
  · exact absurd h nofun

end Cursor

/-- The rounds of a repetition lead onward. -/
theorem reaches_of_mem_afterRounds {step : Cursor → List Cursor}
    (hstep : ∀ s t, t ∈ step s → s.Reaches t) (rounds : Nat) {s t : Cursor}
    (h : t ∈ afterRounds step rounds s) : s.Reaches t := by
  induction rounds generalizing s with
  | zero => exact List.mem_singleton.1 h ▸ .refl s
  | succ rounds ih =>
    obtain ⟨u, hu, ht⟩ := List.mem_flatMap.1 h
    exact (hstep s u hu).trans (ih ht)

theorem reaches_of_mem_uptoRounds {step : Cursor → List Cursor} (greedy : Bool)
    (hstep : ∀ s t, t ∈ step s → s.Reaches t) (rounds : Nat) {s t : Cursor}
    (h : t ∈ uptoRounds step greedy rounds s) : s.Reaches t := by
  induction rounds generalizing s with
  | zero => exact List.mem_singleton.1 h ▸ .refl s
  | succ rounds ih =>
    have further : t ∈ ((step s).flatMap fun u =>
        if s.passed < u.passed then uptoRounds step greedy rounds u else [u]) → s.Reaches t := by
      intro ht
      obtain ⟨u, hu, ht⟩ := List.mem_flatMap.1 ht
      split at ht
      · exact (hstep s u hu).trans (ih ht)
      · exact List.mem_singleton.1 ht ▸ hstep s u hu
    rw [uptoRounds] at h
    split at h
    · rcases List.mem_append.1 h with h | h
      · exact further h
      · exact List.mem_singleton.1 h ▸ .refl s
    · rcases List.mem_cons.1 h with rfl | h
      · exact .refl _
      · exact further h

/-- A match passes a piece of the text. -/
theorem Pattern.reaches_of_mem_ways {p : Pattern} {s t : Cursor} (h : t ∈ p.ways s) :
    s.Reaches t := by
  induction p generalizing s t with
  | empty => exact List.mem_singleton.1 h ▸ .refl s
  | set chars => exact Cursor.reaches_of_step? (Option.mem_toList.1 h)
  | anchor a =>
    rw [ways] at h
    split at h
    · exact List.mem_singleton.1 h ▸ .refl s
    · exact absurd h List.not_mem_nil
  | sequence p q ihp ihq =>
    obtain ⟨u, hu, ht⟩ := List.mem_flatMap.1 h
    exact (ihp hu).trans (ihq ht)
  | either p q ihp ihq =>
    rcases List.mem_append.1 h with h | h
    · exact ihp h
    · exact ihq h
  | group number p ih =>
    obtain ⟨u, hu, rfl⟩ := List.mem_map.1 h
    exact Cursor.reaches_capture (Cursor.reaches_of_enter (ih hu)) number
  | times greedy least most p ih =>
    obtain ⟨u, hu, ht⟩ := List.mem_flatMap.1 h
    exact (reaches_of_mem_afterRounds (fun _ _ => ih) _ hu).trans
      (reaches_of_mem_uptoRounds greedy (fun _ _ => ih) _ ht)
  | once p ih => exact ih (List.mem_of_mem_take h)
  | again letters number =>
    obtain ⟨cs, -, ht⟩ := Option.bind_eq_some_iff.1 (Option.mem_toList.1 h)
    exact Cursor.reaches_of_steps? ht
  | given number p q ihp ihq =>
    rw [ways] at h
    split at h
    · exact ihp h
    · exact ihq h
  | look back negated p ih => exact Cursor.reaches_of_looked (Option.mem_toList.1 h)

namespace Rule

/-- The match that is replaced ends behind the place where it began. -/
theorem length_of_match? {rule : Rule} {replaced : Bool} {before rest : List Char} {s : Cursor}
    (h : rule.match? replaced before rest = some s) :
    s.passed + s.rest.length = rest.length ∧ (s.passed = 0 → replaced = false) := by
  rw [match?, Pattern.first_eq_findSome?] at h
  obtain ⟨t, hmem, ht⟩ := List.exists_of_findSome?_eq_some h
  obtain ⟨hkept, ht⟩ := (Option.ite_none_right_eq_some).1 ht
  obtain rfl := Option.some.inj ht
  obtain ⟨piece, hrest, -, hpassed⟩ := Pattern.reaches_of_mem_ways hmem
  simp only [Cursor.start, Nat.zero_add] at hrest hpassed
  refine ⟨?_, ?_⟩
  · rw [hpassed, hrest, List.length_append]
  · intro hzero
    simpa [hzero] using hkept

/-- The steps that a replacement may still take: two for each character that is left, and one for a
match of nothing where there was none yet. -/
def stepsLeft (replaced : Bool) (rest : List Char) : Nat :=
  2 * rest.length + if replaced then 1 else 2

/-- A bound on the steps that is large enough may be raised without changing anything. -/
theorem replaceFrom_of_enough (rule : Rule) {fuel more : Nat} (replaced : Bool)
    (before rest : List Char) (h : stepsLeft replaced rest ≤ fuel) :
    rule.replaceFrom (fuel + more) replaced before rest =
      rule.replaceFrom fuel replaced before rest := by
  induction fuel generalizing replaced before rest with
  | zero =>
    simp only [stepsLeft] at h
    split at h <;> omega
  | succ fuel ih =>
    rw [Nat.add_right_comm]
    simp only [replaceFrom]
    simp only [stepsLeft] at h ih
    cases found : rule.match? replaced before rest with
    | some s =>
      obtain ⟨hlength, hempty⟩ := length_of_match? found
      simp only
      split
      · next hzero =>
        rw [ih true before rest]
        rw [hempty hzero] at h
        simp only [Bool.false_eq_true, if_false] at h
        simp only [if_true]
        omega
      · rw [ih false s.before s.rest]
        simp only [Bool.false_eq_true, if_false]
        split at h <;> omega
    | none =>
      cases rest with
      | nil => rfl
      | cons c rest =>
        simp only
        rw [ih false (c :: before) rest]
        simp only [List.length_cons] at h
        simp only [Bool.false_eq_true, if_false]
        split at h <;> omega

end Rule

end QueryTelemetry
