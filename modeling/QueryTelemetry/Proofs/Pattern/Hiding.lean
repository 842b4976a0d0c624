import QueryTelemetry.Proofs.Pattern.Rewriting

/-!
# Texts with hidden pieces

A rule that writes a mask for a part of what it takes hides pieces of a text
(`Rule.Masks`).  The text as it was and the text that comes out are related by
`Hides`, which forgets how the matches were found and remembers for every piece
that is hidden only what stands around it.  So a front or a back of the text that
comes out can be traced back: a part in which no mask begins stood in the text as
it was (`Hides.kept`), and any place that is not inside of a mask is a place of the
text as it was (`Hides.split`).
-/

namespace QueryTelemetry

/-! ## Texts that are put together in two ways -/

section

variable {α : Type} {x : α} {front rest passed back : List α}

/-- What begins with a character that is not in a front begins behind it. -/
theorem exists_append_of_not_mem (hx : x ∉ front) (h : front ++ rest = passed ++ x :: back) :
    ∃ between, passed = front ++ between ∧ rest = between ++ x :: back := by
  rcases List.append_eq_append_iff.1 h with ⟨between, hpassed, hrest⟩ | ⟨between, hfront, hback⟩
  · exact ⟨between, hpassed, hrest⟩
  · cases between with
    | nil => exact ⟨[], by simpa using hfront.symm, hback.symm⟩
    | cons y between =>
      obtain rfl : x = y := (List.cons.inj hback).1
      exact absurd (hfront ▸ by simp) hx

/-- What lacks the last character of a front begins behind it. -/
theorem exists_append_of_getLast? (hlast : front.getLast? = some x) (hx : x ∉ back)
    (h : front ++ rest = passed ++ back) :
    ∃ between, passed = front ++ between ∧ rest = between ++ back := by
  rcases List.append_eq_append_iff.1 h with ⟨between, hpassed, hrest⟩ | ⟨between, hfront, hback⟩
  · exact ⟨between, hpassed, hrest⟩
  · cases hend : between.getLast? with
    | none =>
      obtain rfl := List.getLast?_eq_none_iff.1 hend
      exact ⟨[], by simpa using hfront.symm, hback.symm⟩
    | some y =>
      rw [hfront, List.getLast?_append, hend, Option.some_or] at hlast
      obtain rfl := Option.some.inj hlast
      exact absurd (hback ▸ List.mem_append_left _ (List.mem_of_getLast? hend)) hx

/-- Fronts up to the first such character are the same. -/
theorem eq_of_append_cons_eq (hfront : x ∉ front) (hpassed : x ∉ passed)
    (h : front ++ x :: rest = passed ++ x :: back) : front = passed ∧ rest = back := by
  obtain ⟨between, rfl, hrest⟩ := exists_append_of_not_mem hfront h
  cases between with
  | nil => exact ⟨(List.append_nil front).symm, (List.cons.inj hrest).2⟩
  | cons y between =>
    obtain rfl : x = y := (List.cons.inj hrest).1
    simp at hpassed

end

/-! ## Hidden pieces -/

/-- Which pieces can be hidden: by what stands before a piece in the text that comes out, the
nearest first, by the piece itself and by what follows it in the text as it was. -/
abbrev Hideable := List Char → List Char → List Char → Prop

/-- Some pieces of a text have a mask in their place.  The text comes after `before` when it comes
out, and is followed by `tail` as it was. -/
inductive Hides (mask : List Char) (may : Hideable) (tail : List Char) :
    List Char → List Char → List Char → Prop
  | nil (before : List Char) : Hides mask may tail before [] []
  | keep (c : Char) {before text out : List Char} (h : Hides mask may tail (c :: before) text out) :
    Hides mask may tail before (c :: text) (c :: out)
  | hide {before piece text out : List Char} (hne : piece ≠ [])
    (hmay : may before piece (text ++ tail))
    (h : Hides mask may tail (mask.reverse ++ before) text out) :
    Hides mask may tail before (piece ++ text) (mask ++ out)

variable {mask tail before text out front back : List Char} {may : Hideable}

namespace Hides

theorem keep_append (h : Hides mask may tail (front.reverse ++ before) text out) :
    Hides mask may tail before (front ++ text) (front ++ out) := by
  induction front generalizing before with
  | nil => exact h
  | cons c front ih => exact .keep c (ih (by simpa using h))

theorem eq_nil_iff (hmask : mask ≠ []) (h : Hides mask may tail before text out) :
    text = [] ↔ out = [] := by
  cases h with
  | nil => simp
  | keep c h => simp
  | hide hne hmay h => simp [hne, hmask]

/-- What holds of every character that comes out, and of every one that is hidden, held
before. -/
theorem forall_mem {P : Char → Prop} (h : Hides mask may tail before text out)
    (hhidden : ∀ before piece after, may before piece after → ∀ c ∈ piece, P c)
    (hout : ∀ c ∈ out, P c) : ∀ c ∈ text, P c := by
  induction h with
  | nil => exact hout
  | keep c h ih =>
    refine List.forall_mem_cons.2 ⟨hout c List.mem_cons_self, ih fun d hd => ?_⟩
    exact hout d (List.mem_cons_of_mem _ hd)
  | hide hne hmay h ih =>
    refine List.forall_mem_append.2 ⟨hhidden _ _ _ hmay, ih fun d hd => ?_⟩
    exact hout d (List.mem_append_right _ hd)

/-- What holds of the first character that comes out, and of every one that is hidden, held of the
first one before. -/
theorem exists_cons {P : Char → Prop} {c : Char} (h : Hides mask may tail before text (c :: out))
    (hhidden : ∀ before piece after, may before piece after → ∀ c ∈ piece, P c) (hc : P c) :
    ∃ d rest, text = d :: rest ∧ P d := by
  generalize hout : c :: out = whole at h
  cases h with
  | nil => cases hout
  | keep d h =>
    obtain ⟨rfl, rfl⟩ := List.cons.inj hout
    exact ⟨c, _, rfl, hc⟩
  | @hide _ piece text _ hne hmay h =>
    obtain ⟨d, piece, rfl⟩ := List.exists_cons_of_ne_nil hne
    exact ⟨d, piece ++ text, rfl, hhidden _ _ _ hmay d List.mem_cons_self⟩

/-- A text comes out with its last character, unless it ends with a hidden piece. -/
theorem getLast?_eq_or (h : Hides mask may tail before text out) :
    text.getLast? = out.getLast? ∨ ∃ before piece, may before piece tail := by
  induction h with
  | nil => exact .inl rfl
  | keep c h ih =>
    rcases ih with heq | hmay
    · exact .inl (by rw [List.getLast?_cons, List.getLast?_cons, heq])
    · exact .inr hmay
  | @hide before piece text out hne hmay h ih =>
    rcases ih with heq | hmay'
    · cases hlast : text.getLast? with
      | none =>
        obtain rfl := List.getLast?_eq_none_iff.1 hlast
        exact .inr ⟨_, _, hmay⟩
      | some c =>
        refine .inl ?_
        rw [List.getLast?_append, List.getLast?_append, ← heq, hlast]
        rfl
    · exact .inr hmay'

/-- A front in which no mask begins stood there before. -/
theorem kept (h : Hides mask may tail before text (front ++ back))
    (hfront : ∀ passed c rest, front = passed ++ c :: rest → mask.head? = some c →
      ∀ piece after, ¬ may (passed.reverse ++ before) piece after) (hmask : mask ≠ []) :
    ∃ rest, text = front ++ rest ∧ Hides mask may tail (front.reverse ++ before) rest back := by
  induction front generalizing before text with
  | nil => exact ⟨text, rfl, h⟩
  | cons c front ih =>
    generalize hout : c :: front ++ back = out at h
    cases h with
    | nil => cases hout
    | keep d h =>
      obtain ⟨rfl, rfl⟩ := List.cons.inj hout
      obtain ⟨rest, rfl, hrest⟩ := ih h fun passed d rest hsplit hd piece after => by
        simpa using hfront (c :: passed) d rest (by rw [hsplit]; rfl) hd piece after
      exact ⟨rest, rfl, by simpa using hrest⟩
    | hide hne hmay h =>
      obtain ⟨d, mask, rfl⟩ := List.exists_cons_of_ne_nil hmask
      obtain rfl : c = d := (List.cons.inj hout).1
      exact absurd hmay (hfront [] c front rfl rfl _ _)

/-- A front without the first character of the mask stood there before. -/
theorem kept_of_not_mem {x : Char} (h : Hides mask may tail before text (front ++ back))
    (hmask : mask.head? = some x) (hx : x ∉ front) :
    ∃ rest, text = front ++ rest ∧ Hides mask may tail (front.reverse ++ before) rest back := by
  refine h.kept (fun passed c rest hsplit hc => ?_) (by rintro rfl; cases hmask)
  obtain rfl : c = x := Option.some.inj (hc.symm.trans hmask)
  exact absurd (hsplit ▸ by simp) hx

theorem kept_cons {x c : Char} (h : Hides mask may tail before text (c :: back))
    (hmask : mask.head? = some x) (hc : c ≠ x) :
    ∃ rest, text = c :: rest ∧ Hides mask may tail (c :: before) rest back := by
  have hfront : Hides mask may tail before text ([c] ++ back) := h
  exact hfront.kept_of_not_mem hmask (by simpa using hc.symm)

/-- A front in which nothing can be hidden comes out. -/
theorem keeps (h : Hides mask may tail before (front ++ text) out)
    (hfront : ∀ passed c rest, front = passed ++ c :: rest → ∀ piece after, piece.head? = some c →
      ¬ may (passed.reverse ++ before) piece after) :
    ∃ rest, out = front ++ rest ∧ Hides mask may tail (front.reverse ++ before) text rest := by
  induction front generalizing before out with
  | nil => exact ⟨out, rfl, h⟩
  | cons c front ih =>
    generalize htext : c :: front ++ text = whole at h
    cases h with
    | nil => cases htext
    | keep d h =>
      obtain ⟨rfl, rfl⟩ := List.cons.inj htext
      obtain ⟨rest, rfl, hrest⟩ := ih h fun passed d rest hsplit piece after hd => by
        simpa using hfront (c :: passed) d rest (by rw [hsplit]; rfl) piece after hd
      exact ⟨rest, rfl, by simpa using hrest⟩
    | @hide _ piece _ _ hne hmay h =>
      obtain ⟨d, piece, rfl⟩ := List.exists_cons_of_ne_nil hne
      obtain rfl : c = d := (List.cons.inj htext).1
      exact absurd hmay (hfront [] c front rfl _ _ rfl)

/-- A place that is not inside of a mask is a place of the text as it was. -/
theorem split (h : Hides mask may tail before text (front ++ back))
    (hback : ∀ m m', mask = m ++ m' → m ≠ [] → m' ≠ [] → ¬ m' <+: back) :
    ∃ passed rest, text = passed ++ rest ∧ Hides mask may (rest ++ tail) before passed front ∧
      Hides mask may tail (front.reverse ++ before) rest back := by
  generalize hout : front ++ back = out at h
  induction h generalizing front with
  | nil before =>
    obtain ⟨rfl, rfl⟩ := List.append_eq_nil_iff.1 hout
    exact ⟨[], [], rfl, .nil _, .nil _⟩
  | @keep c before text out h ih =>
    cases front with
    | nil =>
      obtain rfl : back = c :: out := hout
      exact ⟨[], c :: text, rfl, .nil _, .keep c h⟩
    | cons d front =>
      obtain ⟨rfl, hsame⟩ := List.cons.inj hout
      obtain ⟨passed, rest, rfl, hpassed, hrest⟩ := ih hsame
      exact ⟨d :: passed, rest, rfl, .keep d hpassed, by simpa using hrest⟩
  | @hide before piece text out hne hmay h ih =>
    rcases List.append_eq_append_iff.1 hout with ⟨m', hm, rfl⟩ | ⟨front', rfl, hout'⟩
    · -- the place lies in the mask, so it is where the mask begins or ends
      by_cases hfront : front = []
      · subst hfront
        obtain rfl : mask = m' := hm
        exact ⟨[], piece ++ text, rfl, .nil _, .hide hne hmay h⟩
      · by_cases hm' : m' = []
        · subst hm'
          obtain rfl : mask = front := by simpa using hm
          have hpiece : Hides mask may (text ++ tail) before (piece ++ []) (mask ++ []) :=
            .hide hne hmay (.nil _)
          exact ⟨piece, text, rfl, by simpa using hpiece, h⟩
        · exact absurd (List.prefix_append m' out) (hback front m' hm hfront hm')
    · obtain ⟨passed, rest, rfl, hpassed, hrest⟩ := ih hout'.symm
      refine ⟨piece ++ passed, rest, by rw [List.append_assoc], ?_, by simpa using hrest⟩
      exact .hide hne (by rwa [← List.append_assoc]) hpassed

/-- A value up to a mark that is not in the mask has come from such a value. -/
theorem exists_enclosed {P : Char → Prop} {mark : Char} {value after : List Char}
    (h : Hides mask may tail before text (value ++ mark :: after)) {x : Char}
    (hmask : mask.head? = some x) (hmark : mark ∉ mask)
    (hhidden : ∀ before piece after, may before piece after → ∀ c ∈ piece, P c)
    (hne : value ≠ []) (hvalue : ∀ c ∈ value, P c) :
    ∃ value' after', text = value' ++ mark :: after' ∧ value' ≠ [] ∧ ∀ c ∈ value', P c := by
  obtain ⟨value', rest, rfl, hpassed, hrest⟩ := h.split fun m m' hsplit _ hm' hpre => by
    obtain ⟨c, m', rfl⟩ := List.exists_cons_of_ne_nil hm'
    obtain rfl : c = mark := (List.cons_prefix_cons.1 hpre).1
    exact hmark (hsplit ▸ by simp)
  obtain ⟨after', rfl, -⟩ := hrest.kept_cons hmask fun hx =>
    hmark (hx ▸ List.mem_of_mem_head? hmask)
  have hne' : mask ≠ [] := by rintro rfl; cases hmask
  refine ⟨value', after', rfl, fun hnil => hne ((hpassed.eq_nil_iff hne').1 hnil), ?_⟩
  exact hpassed.forall_mem hhidden hvalue

end Hides

/-! ## Rules that hide -/

namespace Rule

variable {rule : Rule}

/-- A rule writes a mask for a part of what it takes, and only for parts that can be hidden. -/
def Masks (rule : Rule) (mask : List Char) (may : Hideable) : Prop :=
  ∀ before piece after written, rule.Takes before piece after written →
    ∃ opening hidden closing, piece = opening ++ (hidden ++ closing) ∧
      written = opening ++ (mask ++ closing) ∧ hidden ≠ [] ∧
        ∀ before', may (opening.reverse ++ before') hidden (closing ++ after)

theorem Masks.advances (h : rule.Masks mask may) : rule.Advances := by
  intro before piece after written htakes
  obtain ⟨opening, hidden, closing, rfl, -, hne, -⟩ := h _ _ _ _ htakes
  simp [hne]

theorem Masks.hides (h : rule.Masks mask may) (before before' text : List Char) :
    Hides mask may [] before' text (rule.rewrite before text) := by
  induction before, text using rewrite_induction h.advances generalizing before' with
  | nil before =>
    rw [rewrite_nil h.advances]
    exact .nil before'
  | take before piece after written htakes ih =>
    rw [rewrite_of_takes htakes (h.advances _ _ _ _ htakes)]
    obtain ⟨opening, hidden, closing, rfl, rfl, hne, hmay⟩ := h _ _ _ _ htakes
    simp only [List.append_assoc]
    refine .keep_append (.hide hne ?_ (.keep_append (ih _)))
    rw [List.append_nil]
    exact hmay before'
  | keep before c rest hidle ih =>
    rw [rewrite_cons_of_idle hidle]
    exact .keep c (ih _)

/-- A text is left as it is if every match in it is written as it stands. -/
theorem rewrite_eq_self_of_settled (hadvances : rule.Advances)
    (h : ∀ passed piece after written, text = passed ++ (piece ++ after) →
      rule.Takes (passed.reverse ++ before) piece after written → written = piece) :
    rule.rewrite before text = text := by
  induction before, text using rewrite_induction hadvances with
  | nil before => exact rewrite_nil hadvances before
  | take before piece after written htakes ih =>
    rw [rewrite_of_takes htakes (hadvances _ _ _ _ htakes), h [] piece after written rfl htakes,
      ih fun passed piece' after' written' hsplit htakes' => ?_]
    refine h (piece ++ passed) piece' after' written' (by rw [hsplit, List.append_assoc]) ?_
    rwa [List.reverse_append, List.append_assoc]
  | keep before c rest hidle ih =>
    rw [rewrite_cons_of_idle hidle, ih fun passed piece after written hsplit htakes => ?_]
    exact h (c :: passed) piece after written (by rw [hsplit]; rfl) (by simpa using htakes)

end Rule

end QueryTelemetry
