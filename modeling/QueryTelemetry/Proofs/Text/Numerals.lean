import QueryTelemetry.Text.Numeral

/-!
# The texts of numbers

The grammar of the texts that stand for numbers.  Digits may have single underscores
between them (`Digits`).  A whole number is digits behind a sign (`IsWhole`).  A fraction
is a word for what is not finite, or digits around a point before an exponent
(`IsFraction`).  The readers of numerals accept these texts and no others
(`exists_readInt_iff`, `exists_readFloat_iff`).
-/

namespace QueryTelemetry.Text

variable {cs rest : List Char} {ds : List Nat} {afterDigit : Bool}

/-! ## Digits -/

/-- Digits of any script and what they stand for.  A single underscore may come between two
of them. -/
inductive Digits : List Char → List Nat → Prop
  | last {c : Char} {d : Nat} (h : digitValue? c = some d) : Digits [c] [d]
  | digit {c : Char} {d : Nat} {cs : List Char} {ds : List Nat} (h : digitValue? c = some d)
      (others : Digits cs ds) : Digits (c :: cs) (d :: ds)
  | spaced {c : Char} {d : Nat} {cs : List Char} {ds : List Nat} (h : digitValue? c = some d)
      (others : Digits cs ds) : Digits (c :: '_' :: cs) (d :: ds)

/-- What does not go on with digits, not even behind an underscore. -/
def EndsDigits (rest : List Char) : Prop := takeDigits true rest = ([], rest)

theorem takeDigits_digit {c : Char} {d : Nat} (h : digitValue? c = some d) (afterDigit : Bool)
    (cs : List Char) :
    takeDigits afterDigit (c :: cs) = (d :: (takeDigits true cs).1, (takeDigits true cs).2) := by
  rw [takeDigits, h]

theorem takeDigits_other {c : Char} (h : digitValue? c = none) (afterDigit : Bool)
    (cs : List Char) : takeDigits afterDigit (c :: cs) =
      if afterDigit = true ∧ c = '_' ∧ (cs.head?.bind digitValue?).isSome = true
      then takeDigits false cs else ([], c :: cs) := by
  rw [takeDigits, h]
  simp [and_assoc]

theorem takeDigits_underscore {c : Char} {d : Nat} (h : digitValue? c = some d) (cs : List Char) :
    takeDigits true ('_' :: c :: cs) = takeDigits false (c :: cs) := by
  rw [takeDigits_other (by decide), if_pos ⟨rfl, rfl, by simp [h]⟩]

theorem Digits.exists_cons (h : Digits cs ds) :
    ∃ c d cs' ds', cs = c :: cs' ∧ ds = d :: ds' ∧ digitValue? c = some d := by
  cases h with
  | last h | digit h | spaced h => exact ⟨_, _, _, _, rfl, rfl, h⟩

theorem Digits.ne_nil (h : Digits cs ds) : ds ≠ [] := by
  cases h <;> exact List.cons_ne_nil _ _

theorem EndsDigits.takeDigits_eq (h : EndsDigits rest) : takeDigits false rest = ([], rest) := by
  cases rest with
  | nil => rfl
  | cons c cs =>
    cases hc : digitValue? c with
    | some d => cases (takeDigits_digit hc true cs).symm.trans h
    | none => rw [takeDigits_other hc, if_neg (by simp)]

theorem Digits.takeDigits_append (h : Digits cs ds) (hrest : EndsDigits rest) (afterDigit : Bool) :
    takeDigits afterDigit (cs ++ rest) = (ds, rest) := by
  induction h generalizing afterDigit with
  | last h => rw [List.cons_append, takeDigits_digit h, List.nil_append, hrest]
  | digit h _ ih => rw [List.cons_append, takeDigits_digit h, ih]
  | spaced h others ih =>
    obtain ⟨c, d, cs, ds, rfl, rfl, hc⟩ := others.exists_cons
    rw [List.cons_append, takeDigits_digit h, List.cons_append, List.cons_append,
      takeDigits_underscore hc, ← List.cons_append, ih]

theorem Digits.takeDigits_eq (h : Digits cs ds) : takeDigits false cs = (ds, []) := by
  have hend : EndsDigits [] := rfl
  simpa using h.takeDigits_append hend false

/-- What is taken as digits are digits.  Behind a digit an underscore may come first. -/
theorem digits_of_takeDigits (h : takeDigits afterDigit cs = (ds, rest)) :
    ds = [] ∧ rest = cs ∨ ∃ word, Digits word ds ∧
      (cs = word ++ rest ∨ afterDigit = true ∧ cs = '_' :: (word ++ rest)) := by
  induction cs generalizing afterDigit ds with
  | nil =>
    obtain ⟨rfl, rfl⟩ := Prod.mk.inj h
    exact .inl ⟨rfl, rfl⟩
  | cons c cs ih =>
    cases hc : digitValue? c with
    | some d =>
      obtain ⟨others, rest', hcs⟩ : ∃ others rest', takeDigits true cs = (others, rest') :=
        ⟨_, _, rfl⟩
      rw [takeDigits_digit hc, hcs] at h
      obtain ⟨rfl, rfl⟩ := Prod.mk.inj h
      rcases ih hcs with ⟨rfl, rfl⟩ | ⟨word, hword, rfl | ⟨-, rfl⟩⟩
      · exact .inr ⟨[c], .last hc, .inl rfl⟩
      · exact .inr ⟨c :: word, .digit hc hword, .inl rfl⟩
      · exact .inr ⟨c :: '_' :: word, .spaced hc hword, .inl rfl⟩
    | none =>
      rw [takeDigits_other hc] at h
      split at h
      · next hskip =>
        obtain ⟨rfl, rfl, hnext⟩ := hskip
        rcases ih h with ⟨rfl, rfl⟩ | ⟨word, hword, hcs | ⟨hfalse, -⟩⟩
        · -- a digit comes next, so there is something to take
          cases rest with
          | nil => cases hnext
          | cons c' cs' =>
            obtain ⟨d, hd⟩ := Option.isSome_iff_exists.1 hnext
            cases (takeDigits_digit hd false cs').symm.trans h
        · exact .inr ⟨word, hword, .inr ⟨rfl, by rw [hcs]⟩⟩
        · cases hfalse
      · obtain ⟨rfl, rfl⟩ := Prod.mk.inj h
        exact .inl ⟨rfl, rfl⟩

theorem digits_of_takeDigits_false (h : takeDigits false cs = (ds, rest)) :
    ds = [] ∧ rest = cs ∨ ∃ word, Digits word ds ∧ cs = word ++ rest := by
  rcases digits_of_takeDigits h with hnone | ⟨word, hword, hcs | ⟨hfalse, -⟩⟩
  · exact .inl hnone
  · exact .inr ⟨word, hword, hcs⟩
  · cases hfalse

/-! ## Signs -/

/-- What may stand before a number. -/
def signs : List (List Char) := [[], ['+'], ['-']]

theorem takeSign_append {sign : List Char} (hsign : sign ∈ signs)
    (hcs : ∀ c, cs.head? = some c → c ≠ '+' ∧ c ≠ '-') : (takeSign (sign ++ cs)).2 = cs := by
  simp only [signs, List.mem_cons, List.not_mem_nil, or_false] at hsign
  obtain rfl | rfl | rfl := hsign
  · unfold takeSign
    split
    · next rest heq =>
      obtain rfl : cs = '-' :: rest := heq
      exact absurd rfl (hcs '-' rfl).2
    · next rest heq =>
      obtain rfl : cs = '+' :: rest := heq
      exact absurd rfl (hcs '+' rfl).1
    · rfl
  · rfl
  · rfl

theorem exists_sign (cs : List Char) : ∃ sign ∈ signs, cs = sign ++ (takeSign cs).2 := by
  unfold takeSign
  split
  · exact ⟨['-'], by decide, rfl⟩
  · exact ⟨['+'], by decide, rfl⟩
  · exact ⟨[], by decide, rfl⟩

theorem Digits.head_ne_sign (h : Digits cs ds) (c : Char) (hc : cs.head? = some c) :
    c ≠ '+' ∧ c ≠ '-' := by
  obtain ⟨c', d, cs', ds', rfl, -, hdigit⟩ := h.exists_cons
  obtain rfl := Option.some.inj hc
  constructor <;> rintro rfl <;> cases hdigit

theorem Digits.append_head_ne_sign (h : Digits cs ds) (rest : List Char) (c : Char)
    (hc : (cs ++ rest).head? = some c) : c ≠ '+' ∧ c ≠ '-' := by
  obtain ⟨c', d, cs', ds', rfl, -, -⟩ := h.exists_cons
  exact h.head_ne_sign c hc

/-! ## Whole numbers -/

/-- The text of a whole number: digits behind a sign, not too many of them, between blanks. -/
def IsWhole (s : String) : Prop :=
  ∃ sign ∈ signs, ∃ cs ds, Digits cs ds ∧ ds.length ≤ digitLimit ∧ trimChars s.toList = sign ++ cs

theorem exists_readInt_iff (s : String) : (∃ n, readInt s = .ok n) ↔ IsWhole s := by
  constructor
  · rintro ⟨n, h⟩
    obtain ⟨sign, hsign, hs⟩ := exists_sign (trimChars s.toList)
    simp only [readInt] at h
    obtain ⟨ds, rest, hbody⟩ : ∃ ds rest,
        takeDigits false (takeSign (trimChars s.toList)).2 = (ds, rest) := ⟨_, _, rfl⟩
    rw [hbody] at h
    split at h
    · cases h
    · next hformed =>
      split at h
      · cases h
      · next hlimit =>
        split at h
        · cases h
        · next hend =>
          obtain rfl : rest = [] := by simpa using hend
          rcases digits_of_takeDigits_false hbody with ⟨rfl, -⟩ | ⟨word, hword, hcs⟩
          · exact absurd rfl hformed
          · rw [List.append_nil] at hcs
            exact ⟨sign, hsign, word, ds, hword, Nat.le_of_not_lt hlimit, hcs ▸ hs⟩
  · rintro ⟨sign, hsign, cs, ds, hcs, hlimit, hs⟩
    have hbody : (takeSign (trimChars s.toList)).2 = cs := by
      rw [hs, takeSign_append hsign hcs.head_ne_sign]
    have hdigits := hcs.takeDigits_eq
    obtain ⟨c, d, cs, ds, -, rfl, -⟩ := hcs.exists_cons
    simp only [readInt, hbody, hdigits]
    rw [if_neg (by simp), if_neg (Nat.not_lt.2 hlimit), if_neg (by simp)]
    exact ⟨_, rfl⟩

/-! ## Fractions -/

/-- The words for what is not a finite number. -/
def notFiniteWords : List String := ["inf", "infinity", "nan"]

/-- The digits of a fraction around its point.  One side of the point may have none. -/
inductive Mantissa : List Char → Prop
  | whole {cs : List Char} {ds : List Nat} (h : Digits cs ds) : Mantissa cs
  | ended {cs : List Char} {ds : List Nat} (h : Digits cs ds) : Mantissa (cs ++ ['.'])
  | small {cs : List Char} {ds : List Nat} (h : Digits cs ds) : Mantissa ('.' :: cs)
  | mixed {cs cs' : List Char} {ds ds' : List Nat} (h : Digits cs ds) (h' : Digits cs' ds') :
      Mantissa (cs ++ '.' :: cs')

/-- The exponent of a fraction, which may be missing. -/
inductive Exponent : List Char → Prop
  | absent : Exponent []
  | present {mark : Char} {sign cs : List Char} {ds : List Nat} (hmark : mark ∈ ['e', 'E'])
      (hsign : sign ∈ signs) (h : Digits cs ds) : Exponent (mark :: (sign ++ cs))

/-- The text of a fraction: one of the words, in any letters, or digits with an exponent,
behind a sign, between blanks. -/
def IsFraction (s : String) : Prop :=
  ∃ sign ∈ signs, ∃ cs, trimChars s.toList = sign ++ cs ∧
    (String.ofList (cs.map Char.toLower) ∈ notFiniteWords ∨
      ∃ mantissa exponent, Mantissa mantissa ∧ Exponent exponent ∧ cs = mantissa ++ exponent)

/-- The digits behind a point, if there is one. -/
def takePart : List Char → List Nat × List Char
  | '.' :: rest => takeDigits false rest
  | rest => ([], rest)

theorem exists_notFinite?_iff (cs : List Char) :
    (∃ x, notFinite? cs = some x) ↔ String.ofList (cs.map Char.toLower) ∈ notFiniteWords := by
  unfold notFinite? notFiniteWords
  simp only [beq_iff_eq, Bool.or_eq_true, List.mem_cons, List.not_mem_nil, or_false]
  split
  · next h => exact ⟨fun _ => by simpa [or_assoc] using Or.inl h, fun _ => ⟨_, rfl⟩⟩
  · next h =>
    rw [not_or] at h
    split
    · next h' => exact ⟨fun _ => .inr (.inr h'), fun _ => ⟨_, rfl⟩⟩
    · next h' => simp [h, h']

theorem readFloat_of_word {s : String} {x : Float}
    (h : notFinite? (takeSign (trimChars s.toList)).2 = some x) : ∃ y, readFloat s = some y := by
  simp only [readFloat, h]
  exact ⟨_, rfl⟩

/-- The number of the digits before and behind the point, if nothing but an exponent follows. -/
def fractionOf (negative : Bool) (whole part : List Nat) (after : List Char) : Option Float :=
  if whole.isEmpty && part.isEmpty then none
  else
    match takeExponent after with
    | some (e, []) => some (Decimal.ofDecimal negative (ofDigits (whole ++ part)) (e - part.length))
    | _ => none

theorem exists_fractionOf_iff (negative : Bool) (whole part : List Nat) (after : List Char) :
    (∃ x, fractionOf negative whole part after = some x) ↔
      ¬ (whole = [] ∧ part = []) ∧ ∃ e, takeExponent after = some (e, []) := by
  unfold fractionOf
  split
  · next hnone =>
    have hnone : whole = [] ∧ part = [] := by simpa using hnone
    simp [hnone]
  · next hsome =>
    have hsome : ¬ (whole = [] ∧ part = []) := by simpa using hsome
    rw [and_iff_right hsome]
    split
    · next e he => exact iff_of_true ⟨_, rfl⟩ ⟨e, he⟩
    · next hrest =>
      refine iff_of_false (by simp) ?_
      rintro ⟨e, he⟩
      exact hrest e he

theorem readFloat_of_digits {s : String} {whole part : List Nat} {afterWhole afterPart : List Char}
    (hword : notFinite? (takeSign (trimChars s.toList)).2 = none)
    (hwhole : takeDigits false (takeSign (trimChars s.toList)).2 = (whole, afterWhole))
    (hpart : takePart afterWhole = (part, afterPart)) :
    (∃ x, readFloat s = some x) ↔
      ¬ (whole = [] ∧ part = []) ∧ ∃ e, takeExponent afterPart = some (e, []) := by
  have hread : readFloat s = fractionOf (takeSign (trimChars s.toList)).1 whole
      (takePart afterWhole).1 (takePart afterWhole).2 := by
    simp only [readFloat, hword, hwhole]
    rfl
  rw [hread, hpart, exists_fractionOf_iff]

theorem Exponent.endsDigits (h : Exponent cs) : EndsDigits cs := by
  cases h with
  | absent => rfl
  | present hmark hsign h =>
    simp only [List.mem_cons, List.not_mem_nil, or_false] at hmark
    rcases hmark with rfl | rfl <;>
      exact (takeDigits_other (by decide) _ _).trans (if_neg (by simp))

theorem Exponent.takePart_eq (h : Exponent cs) : takePart cs = ([], cs) := by
  cases h with
  | absent => rfl
  | present hmark hsign h =>
    simp only [List.mem_cons, List.not_mem_nil, or_false] at hmark
    rcases hmark with rfl | rfl <;> rfl

theorem Exponent.exists_takeExponent (h : Exponent cs) : ∃ e, takeExponent cs = some (e, []) := by
  cases h with
  | absent => exact ⟨0, rfl⟩
  | @present mark sign cs ds hmark hsign h =>
    have hbody := takeSign_append hsign h.head_ne_sign
    have hdigits := h.takeDigits_eq
    obtain ⟨c, d, cs, ds, rfl, rfl, -⟩ := h.exists_cons
    have hmark : (mark == 'e' || mark == 'E') = true := by simpa using hmark
    simp only [takeExponent, hmark, if_true, hbody, hdigits]
    exact ⟨_, rfl⟩

theorem exponent_of_takeExponent {e : Int} (h : takeExponent cs = some (e, [])) : Exponent cs := by
  cases cs with
  | nil => exact .absent
  | cons mark cs =>
    simp only [takeExponent] at h
    split at h
    · next hmark =>
      obtain ⟨sign, hsign, hcs⟩ := exists_sign cs
      obtain ⟨ds, rest, hbody⟩ : ∃ ds rest, takeDigits false (takeSign cs).2 = (ds, rest) :=
        ⟨_, _, rfl⟩
      simp only [hbody] at h
      split at h
      · cases h
      · next hdigits =>
        obtain ⟨-, rfl⟩ := Prod.mk.inj (Option.some.inj h)
        rcases digits_of_takeDigits_false hbody with ⟨rfl, -⟩ | ⟨word, hword, hword'⟩
        · exact absurd rfl hdigits
        · rw [hcs, hword', List.append_nil]
          exact .present (by simpa using hmark) hsign hword
    · cases h

/-- Digits around a point, and what is taken of them: digits, or nothing but what follows. -/
theorem mantissa_of_takePart {whole part : List Nat} {afterWhole afterPart : List Char}
    (hwhole : takeDigits false cs = (whole, afterWhole))
    (hpart : takePart afterWhole = (part, afterPart)) (hsome : ¬ (whole = [] ∧ part = [])) :
    ∃ mantissa, Mantissa mantissa ∧ cs = mantissa ++ afterPart := by
  unfold takePart at hpart
  split at hpart
  · next behind =>
    rcases digits_of_takeDigits_false hwhole with ⟨rfl, rfl⟩ | ⟨word, hword, rfl⟩ <;>
      rcases digits_of_takeDigits_false hpart with ⟨rfl, rfl⟩ | ⟨word', hword', rfl⟩
    · exact absurd ⟨rfl, rfl⟩ hsome
    · exact ⟨_, .small hword', rfl⟩
    · exact ⟨_, .ended hword, by simp⟩
    · exact ⟨_, .mixed hword hword', by simp⟩
  · obtain ⟨rfl, rfl⟩ := Prod.mk.inj hpart
    rcases digits_of_takeDigits_false hwhole with ⟨rfl, rfl⟩ | ⟨word, hword, rfl⟩
    · exact absurd ⟨rfl, rfl⟩ hsome
    · exact ⟨_, .whole hword, rfl⟩

theorem endsDigits_point (cs : List Char) : EndsDigits ('.' :: cs) :=
  (takeDigits_other (by decide) _ _).trans (if_neg (by simp))

theorem Mantissa.exists_takePart {mantissa : List Char} (h : Mantissa mantissa)
    {exponent : List Char} (hexponent : Exponent exponent) :
    ∃ whole part afterWhole, takeDigits false (mantissa ++ exponent) = (whole, afterWhole) ∧
      takePart afterWhole = (part, exponent) ∧ ¬ (whole = [] ∧ part = []) := by
  have hend := hexponent.endsDigits
  cases h with
  | whole h =>
    exact ⟨_, _, _, h.takeDigits_append hend false, hexponent.takePart_eq,
      fun hnone => h.ne_nil hnone.1⟩
  | ended h =>
    refine ⟨_, _, '.' :: exponent, ?_, hend.takeDigits_eq, fun hnone => h.ne_nil hnone.1⟩
    rw [List.append_assoc]
    exact h.takeDigits_append (endsDigits_point exponent) false
  | small h =>
    exact ⟨_, _, _, (endsDigits_point _).takeDigits_eq, h.takeDigits_append hend false,
      fun hnone => h.ne_nil hnone.2⟩
  | @mixed cs cs' ds ds' h h' =>
    refine ⟨_, _, '.' :: (cs' ++ exponent), ?_, h'.takeDigits_append hend false,
      fun hnone => h.ne_nil hnone.1⟩
    rw [List.append_assoc]
    exact h.takeDigits_append (endsDigits_point _) false

/-- A mantissa starts with a digit or with the point. -/
theorem Mantissa.head_ne_sign {mantissa : List Char} (h : Mantissa mantissa) (rest : List Char)
    (c : Char) (hc : (mantissa ++ rest).head? = some c) : c ≠ '+' ∧ c ≠ '-' := by
  cases h with
  | whole h => exact h.append_head_ne_sign rest c hc
  | small h =>
    obtain rfl := Option.some.inj hc
    decide
  | ended h | mixed h h' =>
    rw [List.append_assoc] at hc
    exact h.append_head_ne_sign _ c hc

theorem head_ne_sign_of_mem_words (h : String.ofList (cs.map Char.toLower) ∈ notFiniteWords)
    (c : Char) (hc : cs.head? = some c) : c ≠ '+' ∧ c ≠ '-' := by
  have hwords : ∀ word ∈ notFiniteWords,
      word.toList.head? ≠ some '+' ∧ word.toList.head? ≠ some '-' := by decide
  have hword := hwords _ h
  rw [String.toList_ofList, List.head?_map, hc] at hword
  constructor
  · rintro rfl
    exact hword.1 rfl
  · rintro rfl
    exact hword.2 rfl

theorem exists_readFloat_iff (s : String) : (∃ x, readFloat s = some x) ↔ IsFraction s := by
  constructor
  · intro h
    obtain ⟨sign, hsign, hs⟩ := exists_sign (trimChars s.toList)
    refine ⟨sign, hsign, _, hs, ?_⟩
    cases hword : notFinite? (takeSign (trimChars s.toList)).2 with
    | some x => exact .inl ((exists_notFinite?_iff _).1 ⟨x, hword⟩)
    | none =>
      obtain ⟨hsome, e, he⟩ := (readFloat_of_digits hword rfl rfl).1 h
      obtain ⟨mantissa, hmantissa, hcs⟩ := mantissa_of_takePart rfl rfl hsome
      exact .inr ⟨_, _, hmantissa, exponent_of_takeExponent he, hcs⟩
  · rintro ⟨sign, hsign, cs, hs, hword | ⟨mantissa, exponent, hmantissa, hexponent, rfl⟩⟩
    · obtain ⟨x, hx⟩ := (exists_notFinite?_iff cs).2 hword
      refine readFloat_of_word (x := x) ?_
      rwa [hs, takeSign_append hsign (head_ne_sign_of_mem_words hword)]
    · have hbody : (takeSign (trimChars s.toList)).2 = mantissa ++ exponent := by
        rw [hs, takeSign_append hsign (hmantissa.head_ne_sign exponent)]
      cases hword : notFinite? (takeSign (trimChars s.toList)).2 with
      | some x => exact readFloat_of_word hword
      | none =>
        obtain ⟨whole, part, afterWhole, hwhole, hpart, hsome⟩ :=
          hmantissa.exists_takePart hexponent
        rw [← hbody] at hwhole
        exact (readFloat_of_digits hword hwhole hpart).2 ⟨hsome, hexponent.exists_takeExponent⟩

end QueryTelemetry.Text
