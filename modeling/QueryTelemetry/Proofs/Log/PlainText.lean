import QueryTelemetry.Log.Masker
import QueryTelemetry.Pattern.Progress

/-!
# Texts that hold no secrets

Each default rule of a masker looks for a text around a mark: an assignment
sign, a colon, a quotation mark or a blank.  A pattern needs the characters of a
kind if every match passes one of them (`Pattern.Needs`).  So a text without marks
is left as it is (`Masker.applyRules_of_plain`), and the names of programs have
no marks (`Masker.isMark_of_isNamePart`).
-/

namespace QueryTelemetry

/-! ## What a pattern needs -/

/-- Every match of a pattern passes a character of some kind. -/
def Pattern.Needs (p : Pattern) (wanted : Char → Bool) : Prop :=
  ∀ s t, t ∈ p.ways s → ∃ c ∈ s.rest, wanted c = true

namespace Pattern.Needs

variable {p q : Pattern} {wanted wanted' : Char → Bool}

theorem mono (h : p.Needs wanted) (hle : ∀ c, wanted c = true → wanted' c = true) :
    p.Needs wanted' := by
  intro s t ht
  obtain ⟨c, hc, hwanted⟩ := h s t ht
  exact ⟨c, hc, hle c hwanted⟩

theorem set (chars : CharSet) : (Pattern.set chars).Needs chars.holds := by
  intro s t ht
  have hstep := Option.mem_toList.1 ht
  simp only [Cursor.step?] at hstep
  split at hstep
  · next c rest hrest =>
    split at hstep
    · next hholds => exact ⟨c, hrest ▸ List.mem_cons_self .., hholds⟩
    · cases hstep
  · cases hstep

theorem left (h : p.Needs wanted) (q : Pattern) : (Pattern.sequence p q).Needs wanted := by
  intro s t ht
  obtain ⟨u, hu, -⟩ := List.mem_flatMap.1 ht
  exact h s u hu

theorem right (h : q.Needs wanted) (p : Pattern) : (Pattern.sequence p q).Needs wanted := by
  intro s t ht
  obtain ⟨u, hu, ht⟩ := List.mem_flatMap.1 ht
  obtain ⟨c, hc, hwanted⟩ := h u t ht
  obtain ⟨piece, hrest, -⟩ := Pattern.reaches_of_mem_ways hu
  exact ⟨c, hrest ▸ List.mem_append_right _ hc, hwanted⟩

theorem group (h : p.Needs wanted) (number : Nat) : (Pattern.group number p).Needs wanted := by
  intro s t ht
  obtain ⟨u, hu, -⟩ := List.mem_map.1 ht
  rw [← s.rest_enter number]
  exact h _ u hu

theorem oneOrMore (h : p.Needs wanted) (greedy : Bool) : (p.oneOrMore greedy).Needs wanted := by
  intro s t ht
  obtain ⟨u, hu, -⟩ := List.mem_flatMap.1 ht
  obtain ⟨u', hu', -⟩ := List.mem_flatMap.1 hu
  exact h s u' hu'

end Pattern.Needs

namespace Rule

variable {rule : Rule} {wanted : Char → Bool}

theorem match?_of_needs (h : rule.pattern.Needs wanted) {rest : List Char}
    (hrest : ∀ c ∈ rest, wanted c = false) (replaced : Bool) (before : List Char) :
    rule.match? replaced before rest = none := by
  rw [match?, Pattern.first_eq_findSome?]
  refine List.findSome?_eq_none_iff.2 fun t ht => ?_
  obtain ⟨c, hc, hwanted⟩ := h _ t ht
  exact absurd (hwanted.symm.trans (hrest c hc)) (by decide)

/-- A rule leaves a text as it is that has none of the characters that a match
needs. -/
theorem replaceAll_of_needs (h : rule.pattern.Needs wanted) {cs : List Char}
    (hcs : ∀ c ∈ cs, wanted c = false) : rule.replaceAll cs = cs := by
  have hfrom : ∀ fuel replaced before rest, (∀ c ∈ rest, wanted c = false) →
      rule.replaceFrom fuel replaced before rest = rest := by
    intro fuel
    induction fuel with
    | zero => intro replaced before rest _; rfl
    | succ fuel ih =>
      intro replaced before rest hrest
      simp only [replaceFrom, match?_of_needs h hrest]
      cases rest with
      | nil => rfl
      | cons c rest =>
        simp only [ih false (c :: before) rest fun d hd => hrest d (List.mem_cons_of_mem _ hd)]
  exact hfrom _ _ _ _ hcs

end Rule

/-! ## What the default rules need -/

namespace Log.Masker

/-- A character that stands beside every secret that the default rules find. -/
def isMark (c : Char) : Bool :=
  ['=', ':', '"'].any (Text.LetterCase.ignored.same · c) || Text.isBlank c

theorem needs_char {x : Char} (hx : x ∈ ['=', ':', '"']) : (char x).Needs isMark := by
  refine (Pattern.Needs.set _).mono fun c hc => ?_
  have hsame : Text.LetterCase.ignored.same x c = true := by
    simpa [CharSet.holds, CharItem.holds] using hc
  rw [isMark, Bool.or_eq_true, List.any_eq_true]
  exact .inl ⟨x, hx, hsame⟩

theorem needs_scheme : (word "://").Needs isMark := by
  have hword : word "://" = .sequence (char ':') (.sequence (char '/') (char '/')) := by
    rw [word, Pattern.word, show "://".toList = [':', '/', '/'] from by decide]
    rfl
  rw [hword]
  exact (needs_char (by simp)).left _

theorem needs_blank : blank.Needs isMark := by
  refine (Pattern.Needs.set _).mono fun c hc => ?_
  have hblank : Text.isBlank c = true := by
    simpa [CharSet.holds, CharItem.holds, CharKind.holds, blankItem] using hc
  rw [isMark, hblank, Bool.or_true]

/-- Every match of a default rule passes a mark. -/
theorem needs_defaultRules : ∀ rule ∈ defaultRules, rule.pattern.Needs isMark := by
  intro rule hrule
  simp only [defaultRules, List.mem_cons, List.not_mem_nil, or_false] at hrule
  rcases hrule with rfl | rfl | rfl | rfl
  · exact (((needs_char (by simp)).left _).right _).right _
  · exact ((needs_scheme.left _).group 1).left _
  · exact (((needs_char (by simp)).left _).group 1).left _
  · exact (((needs_blank.oneOrMore true).right _).group 1).left _

/-- The default rules leave a text without marks as it is. -/
theorem applyRules_of_plain {m : Masker} (hrules : m.rules = defaultRules) {s : String}
    (hs : ∀ c ∈ s.toList, isMark c = false) : m.applyRules s = s := by
  have hfold : ∀ rules : List Rule, (∀ rule ∈ rules, rule.pattern.Needs isMark) →
      rules.foldl (fun cs rule => rule.replaceAll cs) s.toList = s.toList := by
    intro rules hneeds
    induction rules with
    | nil => rfl
    | cons rule rules ih =>
      rw [List.foldl_cons, Rule.replaceAll_of_needs (hneeds rule (List.mem_cons_self ..)) hs]
      exact ih fun rule hrule => hneeds rule (List.mem_cons_of_mem _ hrule)
  rw [applyRules, hrules, hfold _ needs_defaultRules, String.ofList_toList]

/-! ## Names -/

/-- A character of the names of programs. -/
def isNamePart (c : Char) : Bool := c.isAlphanum || c == '_'

/-- Names have no marks. -/
theorem isMark_of_isNamePart {c : Char} (h : isNamePart c = true) : isMark c = false := by
  have hascii : ∀ n < 128, isNamePart (Char.ofNat n) = true → isMark (Char.ofNat n) = false := by
    decide
  have hlt : c.toNat < 128 := by
    delta isNamePart Char.isAlphanum Char.isAlpha Char.isUpper Char.isLower Char.isDigit at h
    simp only [Bool.or_eq_true, Bool.and_eq_true, decide_eq_true_eq, beq_iff_eq, ge_iff_le,
      UInt32.le_iff_toNat_le] at h
    rw [Char.toNat]
    rcases h with (((h | h) | h) | rfl)
    · exact Nat.lt_of_le_of_lt h.2 (by decide)
    · exact Nat.lt_of_le_of_lt h.2 (by decide)
    · exact Nat.lt_of_le_of_lt h.2 (by decide)
    · decide
  have hc := hascii c.toNat hlt
  rw [Char.ofNat_toNat] at hc
  exact hc h

end Log.Masker

end QueryTelemetry
