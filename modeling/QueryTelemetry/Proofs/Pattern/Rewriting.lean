import QueryTelemetry.Pattern.Progress

/-!
# Rewriting a text

`Rule.rewrite` is the text that a rule makes of what is left, without a bound on its
steps.  It replaces a piece if there is a match for it (`Rule.Takes`) and keeps a
character if there is none (`Rule.Idle`), so facts about it are proved by these two
cases (`Rule.rewrite_induction`) as soon as no match is empty.
-/

namespace QueryTelemetry.Rule

variable {rule : Rule} {before piece after written rest : List Char}

/-- The text `rest`, which stands after `before`, with every match replaced. -/
def rewrite (rule : Rule) (before rest : List Char) : List Char :=
  rule.replaceFrom (2 * rest.length + 2) false before rest

/-- A piece of text is matched, and something is written for it. -/
def Takes (rule : Rule) (before piece after written : List Char) : Prop :=
  ∃ s, rule.match? false before (piece ++ after) = some s ∧ s.rest = after ∧
    rule.replacement.expand (.start before (piece ++ after)) s = written

/-- Nothing is matched at a place. -/
def Idle (rule : Rule) (before rest : List Char) : Prop := rule.match? false before rest = none

/-- No match is empty. -/
def Advances (rule : Rule) : Prop :=
  ∀ before piece after written, rule.Takes before piece after written → piece ≠ []

theorem replaceAll_eq_rewrite (rule : Rule) (cs : List Char) :
    rule.replaceAll cs = rule.rewrite [] cs := rfl

theorem exists_takes_of_match? {s : Cursor} (h : rule.match? false before rest = some s) :
    ∃ piece after written, rest = piece ++ after ∧ rule.Takes before piece after written := by
  have hmatch := h
  rw [match?, Pattern.first_eq_findSome?] at h
  obtain ⟨t, hmem, ht⟩ := List.exists_of_findSome?_eq_some h
  obtain rfl : t = s := by simpa using ht
  obtain ⟨piece, hrest, -, -⟩ := Pattern.reaches_of_mem_ways hmem
  obtain rfl : rest = piece ++ t.rest := hrest
  exact ⟨piece, t.rest, _, rfl, t, hmatch, rfl, rfl⟩

/-- At every place there is a match or none. -/
theorem takes_or_idle (rule : Rule) (before rest : List Char) :
    (∃ piece after written, rest = piece ++ after ∧ rule.Takes before piece after written) ∨
      rule.Idle before rest := by
  cases h : rule.match? false before rest with
  | none => exact .inr h
  | some s => exact .inl (exists_takes_of_match? h)

theorem not_takes_of_idle (h : rule.Idle before (piece ++ after)) :
    ¬ rule.Takes before piece after written := by
  rintro ⟨s, hmatch, -, -⟩
  cases h.symm.trans hmatch

/-- The place behind a match. -/
theorem before_of_takes {s : Cursor} (h : rule.match? false before (piece ++ after) = some s)
    (hrest : s.rest = after) : s.before = piece.reverse ++ before ∧ s.passed = piece.length := by
  rw [match?, Pattern.first_eq_findSome?] at h
  obtain ⟨t, hmem, ht⟩ := List.exists_of_findSome?_eq_some h
  obtain rfl : t = s := by simpa using ht
  obtain ⟨passed, hpassed, hbefore, hlength⟩ := Pattern.reaches_of_mem_ways hmem
  have hpassed : piece ++ after = passed ++ t.rest := hpassed
  rw [hrest] at hpassed
  obtain rfl := List.append_cancel_right hpassed
  exact ⟨hbefore, by simpa [Cursor.start] using hlength⟩

theorem replaceFrom_of_match? (rule : Rule) (fuel : Nat) {replaced : Bool} {s : Cursor}
    (h : rule.match? replaced before rest = some s) (hpassed : s.passed ≠ 0) :
    rule.replaceFrom (fuel + 1) replaced before rest =
      rule.replacement.expand (.start before rest) s ++
        rule.replaceFrom fuel false s.before s.rest := by
  simp only [replaceFrom, h, if_neg hpassed]

theorem rewrite_of_takes (h : rule.Takes before piece after written) (hpiece : piece ≠ []) :
    rule.rewrite before (piece ++ after) =
      written ++ rule.rewrite (piece.reverse ++ before) after := by
  obtain ⟨s, hmatch, hrest, hwritten⟩ := h
  obtain ⟨hbefore, hpassed⟩ := before_of_takes hmatch hrest
  have hpos : 0 < piece.length := List.length_pos_iff.2 hpiece
  have hfuel : 2 * (piece ++ after).length + 1 =
      2 * after.length + 2 + (2 * piece.length - 1) := by
    rw [List.length_append]
    omega
  have hstep := rule.replaceFrom_of_match? (2 * (piece ++ after).length + 1) hmatch (by omega)
  rw [hwritten, hbefore, hrest] at hstep
  rw [rewrite, hstep, hfuel, rule.replaceFrom_of_enough]
  · rfl
  · simp [stepsLeft]

theorem rewrite_cons_of_idle {c : Char} (h : rule.Idle before (c :: rest)) :
    rule.rewrite before (c :: rest) = c :: rule.rewrite (c :: before) rest := by
  have hfuel : 2 * (c :: rest).length + 1 = 2 * rest.length + 2 + 1 := by
    rw [List.length_cons]
    omega
  have hstep : rule.rewrite before (c :: rest) =
      c :: rule.replaceFrom (2 * (c :: rest).length + 1) false (c :: before) rest := by
    rw [rewrite, replaceFrom, show rule.match? false before (c :: rest) = none from h]
  rw [hstep, hfuel, rule.replaceFrom_of_enough]
  · rfl
  · simp [stepsLeft]

/-- Induction along a rewriting. -/
theorem rewrite_induction (hadvances : rule.Advances) {P : List Char → List Char → Prop}
    (nil : ∀ before, P before [])
    (take : ∀ before piece after written, rule.Takes before piece after written →
      P (piece.reverse ++ before) after → P before (piece ++ after))
    (keep : ∀ before c rest, rule.Idle before (c :: rest) → P (c :: before) rest →
      P before (c :: rest))
    (before rest : List Char) : P before rest := by
  induction hlength : rest.length using Nat.strongRecOn generalizing before rest with
  | _ n ih =>
    subst hlength
    cases rest with
    | nil => exact nil before
    | cons c rest =>
      rcases rule.takes_or_idle before (c :: rest) with ⟨piece, after, written, hrest, h⟩ | h
      · have hpos : 0 < piece.length := List.length_pos_iff.2 (hadvances _ _ _ _ h)
        rw [hrest] at ih ⊢
        exact take _ _ _ _ h (ih after.length (by rw [List.length_append]; omega) _ _ rfl)
      · exact keep _ _ _ h (ih rest.length (Nat.lt_succ_self _) _ _ rfl)

section

variable (hadvances : rule.Advances)

include hadvances

theorem idle_nil (before : List Char) : rule.Idle before [] := by
  rcases rule.takes_or_idle before [] with ⟨piece, after, written, hrest, h⟩ | h
  · exact absurd (List.append_eq_nil_iff.1 hrest.symm).1 (hadvances _ _ _ _ h)
  · exact h

theorem rewrite_nil (before : List Char) : rule.rewrite before [] = [] := by
  rw [rewrite, replaceFrom, show rule.match? false before [] = none from idle_nil hadvances before]

omit hadvances in
/-- A front of a text is kept if there is no match in it. -/
theorem rewrite_append_of_idle {front : List Char}
    (h : ∀ a b, front = a ++ b → b ≠ [] → rule.Idle (a.reverse ++ before) (b ++ rest)) :
    rule.rewrite before (front ++ rest) = front ++ rule.rewrite (front.reverse ++ before) rest := by
  induction front generalizing before with
  | nil => rfl
  | cons c front ih =>
    have hidle : rule.Idle before (c :: front ++ rest) := h [] (c :: front) rfl (by simp)
    rw [List.cons_append] at hidle ⊢
    rw [rewrite_cons_of_idle hidle, ih fun a b hfront hb => ?_]
    · simp
    · have hrest := h (c :: a) b (by rw [hfront, List.cons_append]) hb
      simpa using hrest

/-- A text is kept if there is no match in it. -/
theorem rewrite_eq_self (h : ∀ a b, rest = a ++ b → b ≠ [] → rule.Idle (a.reverse ++ before) b) :
    rule.rewrite before rest = rest := by
  have hkept : rule.rewrite before (rest ++ []) =
      rest ++ rule.rewrite (rest.reverse ++ before) [] := by
    refine rewrite_append_of_idle fun a b hrest hb => ?_
    rw [List.append_nil]
    exact h a b hrest hb
  rwa [List.append_nil, rewrite_nil hadvances, List.append_nil] at hkept

/-- How often a character stands in a rewriting is related to how often it stands in
the text as it is in every match, if sums are related when their parts are. -/
theorem count_rewrite {c : Char} {r : Nat → Nat → Prop} (hrefl : ∀ n, r n n)
    (hadd : ∀ a b a' b', r a b → r a' b' → r (a + a') (b + b'))
    (hcount : ∀ before piece after written, rule.Takes before piece after written →
      r (written.count c) (piece.count c)) (before rest : List Char) :
    r ((rule.rewrite before rest).count c) (rest.count c) := by
  induction before, rest using rewrite_induction hadvances with
  | nil before =>
    rw [rewrite_nil hadvances]
    exact hrefl _
  | take before piece after written h ih =>
    rw [rewrite_of_takes h (hadvances _ _ _ _ h), List.count_append, List.count_append]
    exact hadd _ _ _ _ (hcount _ _ _ _ h) ih
  | keep before d rest h ih =>
    rw [rewrite_cons_of_idle h, List.count_cons, List.count_cons]
    exact hadd _ _ _ _ ih (hrefl _)

/-- The last character of a text stays if no match ends with it. -/
theorem getLast?_rewrite {c : Char}
    (hlast : ∀ before piece after written, rule.Takes before piece after written →
      piece.getLast? ≠ some c) (before rest : List Char) (h : rest.getLast? = some c) :
    (rule.rewrite before rest).getLast? = some c := by
  induction before, rest using rewrite_induction hadvances with
  | nil before => cases h
  | take before piece after written htakes ih =>
    rw [rewrite_of_takes htakes (hadvances _ _ _ _ htakes)]
    cases after with
    | nil => exact absurd (by simpa using h) (hlast _ _ _ _ htakes)
    | cons d after =>
      rw [List.getLast?_append, List.getLast?_cons, Option.some_or] at h
      rw [List.getLast?_append, ih (by rw [List.getLast?_cons, h]), Option.some_or]
  | keep before d rest hidle ih =>
    rw [rewrite_cons_of_idle hidle]
    cases rest with
    | nil =>
      rw [rewrite_nil hadvances]
      exact h
    | cons e rest =>
      rw [List.getLast?_cons_cons] at h
      rw [List.getLast?_cons, ih h]
      rfl

end

/-! ## Tails -/

/-- No match in a text reaches into its tail. -/
def Spares (rule : Rule) (tail before text : List Char) : Prop :=
  ∀ passed piece after written, text ++ tail = passed ++ (piece ++ after) →
    rule.Takes (passed.reverse ++ before) piece after written → tail <:+ after

theorem Spares.behind {tail passed text : List Char}
    (h : rule.Spares tail before (passed ++ text)) :
    rule.Spares tail (passed.reverse ++ before) text := by
  intro passed' piece after written htext htakes
  refine h (passed ++ passed') piece after written ?_ ?_
  · rw [List.append_assoc, htext, List.append_assoc]
  · rwa [List.reverse_append, List.append_assoc]

/-- Matches that end with a character spare a tail without it. -/
theorem spares_of_getLast? {c : Char} {tail : List Char}
    (hlast : ∀ before piece after written, rule.Takes before piece after written →
      piece.getLast? = some c) (hc : c ∉ tail) (before text : List Char) :
    rule.Spares tail before text := by
  intro passed piece after written htext htakes
  rw [← List.append_assoc] at htext
  rcases List.append_eq_append_iff.1 htext with ⟨a, hpassed, htail⟩ | ⟨b, -, hafter⟩
  · cases hend : a.getLast? with
    | none =>
      obtain rfl := List.getLast?_eq_none_iff.1 hend
      exact ⟨[], htail⟩
    | some d =>
      have hboth := congrArg List.getLast? hpassed
      rw [List.getLast?_append, List.getLast?_append, hlast _ _ _ _ htakes, hend] at hboth
      obtain rfl : c = d := Option.some.inj hboth
      exact absurd (htail ▸ List.mem_append_left _ (List.mem_of_getLast? hend)) hc
  · exact ⟨b, hafter.symm⟩

/-- A tail that is spared stays, and some text before it stays some text. -/
theorem exists_rewrite_append (hadvances : rule.Advances)
    (hwritten : ∀ before piece after written, rule.Takes before piece after written → written ≠ [])
    {tail text : List Char} (h : rule.Spares tail before text) :
    ∃ text', rule.rewrite before (text ++ tail) = text' ++ tail ∧ (text ≠ [] → text' ≠ []) := by
  have hall : ∀ before rest text, rest = text ++ tail → rule.Spares tail before text →
      ∃ text', rule.rewrite before rest = text' ++ tail ∧ (text ≠ [] → text' ≠ []) := by
    intro before rest
    induction before, rest using rewrite_induction hadvances with
    | nil before =>
      intro text htext _
      obtain ⟨rfl, rfl⟩ := List.append_eq_nil_iff.1 htext.symm
      exact ⟨[], rewrite_nil hadvances before, id⟩
    | take before piece after written htakes ih =>
      intro text htext h
      obtain ⟨text', rfl⟩ := h [] piece after written htext.symm htakes
      rw [← List.append_assoc] at htext
      obtain rfl := List.append_cancel_right htext
      obtain ⟨kept, hkept, -⟩ := ih text' rfl h.behind
      refine ⟨written ++ kept, ?_, fun _ => by simp [hwritten _ _ _ _ htakes]⟩
      rw [rewrite_of_takes htakes (hadvances _ _ _ _ htakes), hkept, List.append_assoc]
    | keep before c rest hidle ih =>
      intro text htext h
      cases text with
      | nil =>
        obtain rfl : c :: rest = tail := htext
        -- a match in the tail alone would leave less than the tail
        refine ⟨[], rewrite_eq_self hadvances fun a b hsplit hb => ?_, id⟩
        rcases rule.takes_or_idle (a.reverse ++ before) b with
          ⟨piece, after, written, rfl, htakes⟩ | hidle
        · have hle := (h a piece after written hsplit htakes).length_le
          have hpiece := List.length_pos_iff.2 (hadvances _ _ _ _ htakes)
          have hlength := congrArg List.length hsplit
          simp only [List.length_append] at hlength
          omega
        · exact hidle
      | cons d text =>
        obtain ⟨rfl, rfl⟩ := List.cons.inj htext
        have hbehind : rule.Spares tail ([c].reverse ++ before) text := Spares.behind h
        obtain ⟨kept, hkept, -⟩ := ih text rfl hbehind
        exact ⟨c :: kept, by rw [rewrite_cons_of_idle hidle, hkept, List.cons_append], by simp⟩
  exact hall before _ text rfl h

end QueryTelemetry.Rule
