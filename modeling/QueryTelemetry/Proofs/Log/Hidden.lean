import QueryTelemetry.Proofs.Log.Credentials
import QueryTelemetry.Proofs.Pattern.Hiding

/-!
# What the default rules hide

Each default rule writes the mask for a part of what it takes (`Rule.Masks`).  Two
things about that part are needed where texts are masked once more: which characters
can be in it, and what stands beside it.

* The assignment rule hides a run that ends where the assignment does (`assignedMay`).
* The address rule hides what stands between a colon and the sign before the host
  (`addressMay`), the member rule what stands between two quotation marks (`memberMay`).
* The bearer rule hides a run of token characters behind a blank (`bearerMay`).

The openings are split into their parts here, and the spelled names of secrets are
told apart from one another and from what the other rules hide.
-/

namespace QueryTelemetry

open Text (LetterCase IsMark)

/-! ## Runs -/

namespace Pattern

variable {chars : CharSet} {run after run' after' : List Char}

theorem takeWhile_append_of_stops (hrun : ∀ c ∈ run, chars.holds c = true)
    (hstops : Stops chars after) : (run ++ after).takeWhile chars.holds = run := by
  rw [List.takeWhile_append_of_pos hrun]
  cases after with
  | nil => simp
  | cons c after => simp [hstops c rfl]

/-- A run that cannot go on is the only one. -/
theorem run_unique (hrun : ∀ c ∈ run, chars.holds c = true) (hstops : Stops chars after)
    (hrun' : ∀ c ∈ run', chars.holds c = true) (hstops' : Stops chars after')
    (h : run ++ after = run' ++ after') : run = run' := by
  rw [← takeWhile_append_of_stops hrun hstops, h, takeWhile_append_of_stops hrun' hstops']

theorem not_mem_of_run {c : Char} (hrun : ∀ c ∈ run, chars.holds c = true)
    (hc : chars.holds c = false) : c ∉ run := fun hmem => by
  cases hc.symm.trans (hrun c hmem)

/-- A text that begins in a set begins with a run that cannot go on. -/
theorem exists_run {c : Char} (hc : chars.holds c = true) (rest : List Char) :
    ∃ run after, c :: rest = run ++ after ∧ run ∈ fullRuns chars.holds ∧ Stops chars after := by
  refine ⟨(c :: rest).takeWhile chars.holds, (c :: rest).dropWhile chars.holds,
    List.takeWhile_append_dropWhile.symm, ⟨by simp [hc], fun d hd => ?_⟩, fun d hd => ?_⟩
  · exact List.mem_takeWhile_imp hd
  · have hnot := List.head?_dropWhile_not chars.holds (c :: rest)
    rwa [hd] at hnot

end Pattern

/-! ## Letters of names -/

namespace Text

/-- A small letter of ASCII is among the characters that are the same as its other forms. -/
theorem mem_sameLetters {a c : Char} (ha : 97 ≤ a.toNat ∧ a.toNat ≤ 122)
    (h : LetterCase.ignored.same a c = true) : a ∈ sameLetters c := by
  have hlower : lowerChar a = a := by
    rw [lowerChar, if_pos (by omega), Char.toLower_eq_of_not_isUpper fun hupper => ?_]
    have hbounds := toNat_toLower_of_isUpper hupper
    omega
  have hsame : sameLetter a c = true := by
    simpa [LetterCase.same, LetterCase.form, sameLetter] using h
  have hsmall : a.toNat ∈ (lowerChar c).toNat ::
      (sharedCapitals.filter (·.contains (lowerChar c).toNat)).flatten := by
    rw [sameLetter, hlower, Bool.or_eq_true, beq_iff_eq] at hsame
    rcases hsame with heq | hshare
    · exact heq ▸ List.mem_cons_self
    · simp only [shareCapital, Bool.and_eq_true, List.any_eq_true, List.contains_iff_mem] at hshare
      obtain ⟨-, group, hgroup, hmem, hmem'⟩ := hshare
      refine List.mem_cons_of_mem _ (List.mem_flatten.2 ⟨group, ?_, hmem⟩)
      exact List.mem_filter.2 ⟨hgroup, by simpa using hmem'⟩
  refine List.mem_filter.2 ⟨List.mem_map.2 ⟨a.toNat, ?_, Char.ofNat_toNat a⟩, hsame⟩
  refine List.mem_flatMap.2 ⟨a.toNat, hsmall, ?_⟩
  rw [withSmall, if_pos ha]
  exact List.mem_cons_self

end Text

namespace Log.Masker

open Pattern

variable {name name' : List Char}

theorem blankSet_holds (c : Char) : blankSet.holds c = Text.isBlank c := by
  simp [CharSet.holds, CharItem.holds, CharKind.holds, blankSet, blankItem]

theorem not_blank_of_all {l : List Char} (h : l.all (fun c => !blankSet.holds c) = true) {c : Char}
    (hc : c ∈ l) : blankSet.holds c = false := by
  simpa using List.all_eq_true.1 h c hc

theorem head?_mask : maskText.toList.head? = some '*' := by decide

theorem ne_nil_of_mem_names (hname : name ∈ someSpelling .ignored assignedNames) : name ≠ [] := by
  rintro rfl
  obtain ⟨w, hw, hspelled⟩ := hname
  have hnonempty : ∀ w ∈ assignedNames, w.toList ≠ [] := by decide
  exact hnonempty w hw (List.forall₂_nil_right_iff.1 hspelled)

/-- The names of secrets, however they are spelled, do not stop a token. -/
theorem tokenSet_holds_of_mem_name (hname : name ∈ someSpelling .ignored assignedNames) {c : Char}
    (hc : c ∈ name) : tokenSet.holds c = true := by
  obtain ⟨a, ha, hsame⟩ := exists_nameLetter hname hc
  have hall : ∀ a ∈ nameLetters, a = '_' ∨ 97 ≤ a.toNat ∧ a.toNat ≤ 122 := by
    simp [nameLetters]
  have hitem : tokenSet.items.any (CharItem.holds .ignored c) = true := by
    rcases hall a ha with rfl | hletter
    · exact List.any_eq_true.2 ⟨.one '_', by decide, hsame⟩
    · refine List.any_eq_true.2 ⟨.range 'a' 'z', by decide, ?_⟩
      have hwithin : ('a' ≤ a) ∧ (a ≤ 'z') := hletter
      simp only [CharItem.holds, Bool.or_eq_true, List.any_eq_true]
      exact .inr ⟨a, Text.mem_sameLetters hletter hsame, by simpa using hwithin⟩
  simpa [CharSet.holds, tokenSet] using hitem

/-- Whether two words have letters at the same position of which no character is both. -/
def lettersApart : List Char → List Char → Bool
  | a :: w, b :: w' =>
    decide (LetterCase.Alone a ∨ LetterCase.Alone b) && !LetterCase.ignored.same a b ||
      lettersApart w w'
  | _, _ => false

theorem not_mem_spellings_of_lettersApart {w w' : List Char} (h : lettersApart w w' = true)
    (hname : name ∈ spellings .ignored w) : name ∉ spellings .ignored w' := by
  induction w generalizing w' name with
  | nil => cases h
  | cons a w ih =>
    cases w' with
    | nil => cases h
    | cons b w' =>
      intro hname'
      obtain ⟨c, rest, hac, hrest, rfl⟩ := List.forall₂_cons_left_iff.1 hname
      obtain ⟨hbc, hrest'⟩ := List.forall₂_cons.1 hname'
      simp only [lettersApart, Bool.or_eq_true, Bool.and_eq_true, decide_eq_true_eq,
        Bool.not_eq_true'] at h
      rcases h with ⟨halone, hab⟩ | h
      · cases hbc.symm.trans (LetterCase.same_apart halone hab hac)
      · exact ih h hrest hrest'

/-- No name of a secret ends with another one. -/
theorem eq_nil_of_append_mem_names {passed : List Char}
    (hname : passed ++ name ∈ someSpelling .ignored assignedNames)
    (hname' : name ∈ someSpelling .ignored assignedNames) : passed = [] := by
  obtain ⟨w, hw, hspelled⟩ := hname
  obtain ⟨w', hw', hspelled'⟩ := hname'
  have hlength := hspelled.length_eq
  rw [List.length_append, ← hspelled'.length_eq] at hlength
  have hapart : ∀ w ∈ assignedNames, ∀ w' ∈ assignedNames, w'.toList.length < w.toList.length →
      lettersApart (w.toList.drop (w.toList.length - w'.toList.length)) w'.toList = true := by
    decide +kernel
  refine Classical.byContradiction fun hne => ?_
  have hpos := List.length_pos_iff.2 hne
  have hdrop : name ∈ spellings .ignored (w.toList.drop (w.toList.length - w'.toList.length)) := by
    rw [show w.toList.length - w'.toList.length = passed.length by omega]
    exact List.forall₂_drop_append _ _ _ hspelled
  exact not_mem_spellings_of_lettersApart (hapart w hw w' hw' (by omega)) hdrop hspelled'

/-! ## Openings -/

variable {opening before piece after : List Char}

theorem mem_addressOpening_iff : opening ∈ addressOpening ↔
    ∃ user ∈ fullRuns userSet.holds, opening = "://".toList ++ (user ++ [':']) := by
  constructor
  · intro h
    obtain ⟨_, rfl, _, hrest, rfl⟩ := Language.mem_mul.1 h
    obtain ⟨user, huser, _, rfl, rfl⟩ := Language.mem_mul.1 hrest
    exact ⟨user, huser, rfl⟩
  · rintro ⟨user, huser, rfl⟩
    exact Language.append_mem_mul rfl (Language.append_mem_mul huser rfl)

theorem mem_memberOpening_iff : opening ∈ memberOpening ↔
    ∃ name ∈ someSpelling .ignored memberNames, ∃ blanks ∈ runs blankSet.holds,
      ∃ blanks' ∈ runs blankSet.holds,
        opening = '"' :: (name ++ '"' :: (blanks ++ ':' :: (blanks' ++ ['"']))) := by
  constructor
  · intro h
    obtain ⟨_, rfl, _, h₁, rfl⟩ := Language.mem_mul.1 h
    obtain ⟨name, hname, _, h₂, rfl⟩ := Language.mem_mul.1 h₁
    obtain ⟨_, rfl, _, h₃, rfl⟩ := Language.mem_mul.1 h₂
    obtain ⟨blanks, hblanks, _, h₄, rfl⟩ := Language.mem_mul.1 h₃
    obtain ⟨_, rfl, _, h₅, rfl⟩ := Language.mem_mul.1 h₄
    obtain ⟨blanks', hblanks', _, rfl, rfl⟩ := Language.mem_mul.1 h₅
    exact ⟨name, hname, blanks, hblanks, blanks', hblanks', rfl⟩
  · rintro ⟨name, hname, blanks, hblanks, blanks', hblanks', rfl⟩
    refine Language.append_mem_mul (a := ['"']) rfl (Language.append_mem_mul hname ?_)
    refine Language.append_mem_mul (a := ['"']) rfl (Language.append_mem_mul hblanks ?_)
    exact Language.append_mem_mul (a := [':']) rfl (Language.append_mem_mul hblanks' rfl)

theorem mem_bearerOpening_iff : opening ∈ bearerOpening ↔
    ∃ spelled ∈ spellings .ignored "Bearer".toList, ∃ blanks ∈ fullRuns blankSet.holds,
      opening = spelled ++ blanks := by
  rw [bearerOpening, Language.mem_mul]
  simp only [eq_comm]

/-! ## What each rule hides -/

/-- What the assignment rule hides. -/
def assignedMay : Hideable := fun _ piece _ => piece ∈ fullRuns assignedSet.holds

/-- What the address rule hides stands between a colon and the sign before the host. -/
def addressMay : Hideable := fun before piece after =>
  before.head? = some ':' ∧ piece ∈ fullRuns addressSet.holds ∧ after.head? = some '@'

/-- What the member rule hides stands between two quotation marks, of which the first
one is behind a colon or a blank. -/
def memberMay : Hideable := fun before piece after =>
  (∃ c rest, before = '"' :: c :: rest ∧ (c = ':' ∨ blankSet.holds c = true)) ∧
    piece ∈ fullRuns memberSet.holds ∧ after.head? = some '"'

/-- What the bearer rule hides stands behind a blank. -/
def bearerMay : Hideable := fun before piece after =>
  (∃ c, before.head? = some c ∧ blankSet.holds c = true) ∧ piece ∈ fullRuns tokenSet.holds ∧
    Stops tokenSet after

theorem masks_assignmentRule : assignmentRule.Masks maskText.toList assignedMay := by
  intro before piece after written h
  obtain ⟨name, value, rfl, -, -, hvalue, -, rfl⟩ := takes_assignmentRule_iff.1 h
  exact ⟨name ++ ['='], value, [], by simp, by simp, hvalue.1, fun _ => hvalue⟩

theorem masks_addressRule : addressRule.Masks maskText.toList addressMay := by
  intro before piece after written h
  obtain ⟨opening, value, hopening, hvalue, rfl, rfl⟩ := takes_addressRule_iff.1 h
  obtain ⟨user, -, rfl⟩ := mem_addressOpening_iff.1 hopening
  exact ⟨_, value, ['@'], rfl, rfl, hvalue.1, fun before' => ⟨by simp, hvalue, rfl⟩⟩

theorem masks_memberRule : memberRule.Masks maskText.toList memberMay := by
  intro before piece after written h
  obtain ⟨opening, value, hopening, hvalue, rfl, rfl⟩ := takes_memberRule_iff.1 h
  refine ⟨opening, value, ['"'], rfl, rfl, hvalue.1, fun before' => ⟨?_, hvalue, rfl⟩⟩
  obtain ⟨name, -, blanks, -, blanks', hblanks', rfl⟩ := mem_memberOpening_iff.1 hopening
  rcases List.eq_nil_or_concat blanks' with rfl | ⟨rest, c, rfl⟩
  · exact ⟨':', blanks.reverse ++ ('"' :: (name.reverse ++ '"' :: before')), by simp, .inl rfl⟩
  · refine ⟨c, rest.reverse ++ (':' :: (blanks.reverse ++ ('"' :: (name.reverse ++
      '"' :: before')))), by simp, .inr (hblanks' c (by simp))⟩

theorem masks_bearerRule : bearerRule.Masks maskText.toList bearerMay := by
  intro before piece after written h
  obtain ⟨opening, token, hopening, htoken, hstops, rfl, rfl⟩ := takes_bearerRule_iff.1 h
  refine ⟨opening, token, [], by simp, by simp, htoken.1, fun before' => ⟨?_, htoken, hstops⟩⟩
  obtain ⟨spelled, -, blanks, hblanks, rfl⟩ := mem_bearerOpening_iff.1 hopening
  obtain ⟨rest, c, rfl⟩ := (List.eq_nil_or_concat blanks).resolve_left hblanks.1
  exact ⟨c, by simp, hblanks.2 c (by simp)⟩

end Log.Masker

end QueryTelemetry
