import Mathlib.Data.List.Chain
import QueryTelemetry.Proofs.Log.Settling

/-!
# Texts that are masked once more

The default rules, applied to a text that they have left, take it rule by rule:

* The assignment rule and the address rule are settled in `Settling`, the latter for
  passwords without quotation marks.
* The member rule takes the members that it took before.  The bearer rule hides no
  quotation marks and nothing inside of a masked member, so the members that were masked
  stay and no others arise (`rewrite_memberRule_of_hides`).
* The bearer rule leaves no token at all (`not_hasToken_rewrite`).

So a text changes only where an address has a password with a quotation mark, and then it
does change: such a quotation mark is taken away, and no rule writes a new one
(`masked_masked_iff`).
-/

namespace QueryTelemetry.Log.Masker

open Pattern
open Text (LetterCase IsMark)

variable {before before' text out after value opening piece written : List Char} {may : Hideable}
  {c : Char}

/-! ## JSON text -/

theorem memberSet_holds_of_ne {c : Char} (hc : c ≠ '"') : memberSet.holds c = true := by
  have hne : LetterCase.ignored.same '"' c = false :=
    Bool.eq_false_iff.2 fun hsame => hc ((LetterCase.same_mark_iff (by decide)).1 hsame)
  simp [CharSet.holds, CharItem.holds, memberSet, hne]

theorem ne_quote_of_token {c : Char} (h : tokenSet.holds c = true) : c ≠ '"' := by
  rintro rfl
  have hout : tokenSet.holds '"' = false := by decide
  cases hout.symm.trans h

theorem mem_assignedNames_of_memberNames {name : List Char}
    (h : name ∈ someSpelling .ignored memberNames) :
    name ∈ someSpelling .ignored assignedNames := by
  obtain ⟨w, hw, hspelled⟩ := h
  have hsub : memberNames ⊆ assignedNames := by decide
  exact ⟨w, hsub hw, hspelled⟩

theorem not_mem_memberOpening (hopening : opening ∈ memberOpening) : '*' ∉ opening := by
  obtain ⟨name, hname, blanks, hblanks, blanks', hblanks', rfl⟩ := mem_memberOpening_iff.1 hopening
  have hname : '*' ∉ name := not_mem_of_isMark (mem_assignedNames_of_memberNames hname) (by decide)
  have hblanks : '*' ∉ blanks := not_mem_of_run hblanks (by decide)
  have hblanks' : '*' ∉ blanks' := not_mem_of_run hblanks' (by decide)
  simp [hname, hblanks, hblanks']

/-- A member that comes out was taken, if no hidden piece has a quotation mark. -/
theorem not_idle_of_member (hmay : ∀ before piece after, may before piece after →
      ∀ c ∈ piece, memberSet.holds c = true)
    (h : Hides maskText.toList may [] before text (opening ++ (value ++ '"' :: after)))
    (hopening : opening ∈ memberOpening) (hvalue : value ∈ fullRuns memberSet.holds) :
    ¬ memberRule.Idle before' text := by
  obtain ⟨rest, rfl, hrest⟩ := h.kept_of_not_mem head?_mask (not_mem_memberOpening hopening)
  obtain ⟨value', after', rfl, hne, hvalue'⟩ := hrest.exists_enclosed head?_mask (by decide) hmay
    hvalue.1 hvalue.2
  intro hidle
  rw [List.append_cons, ← List.append_assoc] at hidle
  exact Rule.not_takes_of_idle hidle (takes_memberRule_iff.2
    ⟨opening, value', hopening, ⟨hne, hvalue'⟩, rfl, rfl⟩)

theorem mask_mem_memberSet : maskText.toList ∈ fullRuns memberSet.holds := by
  have hall : maskText.toList.all memberSet.holds = true := by decide +kernel
  exact ⟨by decide, List.all_eq_true.1 hall⟩

/-- What the member rule does is no matter of what stands before. -/
theorem memberRule_takes_congr
    (h : memberRule.Takes before piece after written) :
    memberRule.Takes before' piece after written :=
  takes_memberRule_iff.2 (takes_memberRule_iff.1 h)

theorem memberRule_idle_congr (h : memberRule.Idle before text) :
    memberRule.Idle before' text := by
  rcases memberRule.takes_or_idle before' text with ⟨piece, after, written, rfl, htakes⟩ | hidle
  · exact absurd (memberRule_takes_congr htakes) (Rule.not_takes_of_idle h)
  · exact hidle

theorem memberRule_rewrite_congr (before text : List Char) : ∀ before',
    memberRule.rewrite before' text = memberRule.rewrite before text := by
  induction before, text using Rule.rewrite_induction advances_memberRule with
  | nil before =>
    intro before'
    rw [Rule.rewrite_nil advances_memberRule, Rule.rewrite_nil advances_memberRule]
  | take before piece after written htakes ih =>
    intro before'
    have hpiece := advances_memberRule _ _ _ _ htakes
    rw [Rule.rewrite_of_takes htakes hpiece,
      Rule.rewrite_of_takes (memberRule_takes_congr htakes) hpiece, ih]
  | keep before c rest hidle ih =>
    intro before'
    rw [Rule.rewrite_cons_of_idle hidle, Rule.rewrite_cons_of_idle (memberRule_idle_congr hidle),
      ih]

/-- A member with the mask for its value is left as it is. -/
theorem rewrite_masked_member (hopening : opening ∈ memberOpening) (before after : List Char) :
    memberRule.rewrite before (opening ++ (maskText.toList ++ ['"']) ++ after) =
      opening ++ (maskText.toList ++ ['"']) ++ memberRule.rewrite before after := by
  rw [Rule.rewrite_of_takes (takes_memberRule_iff.2
    ⟨opening, _, hopening, mask_mem_memberSet, rfl, rfl⟩) (by simp),
    memberRule_rewrite_congr before]

/-- Where nothing is taken, nothing is taken when pieces without quotation marks are hidden. -/
theorem memberRule_idle_of_hides (hmay : ∀ before piece after, may before piece after →
      ∀ c ∈ piece, memberSet.holds c = true)
    (h : Hides maskText.toList may [] before text out)
    (hidle : memberRule.Idle before' text) : memberRule.Idle before' out := by
  rcases memberRule.takes_or_idle before' out with ⟨piece, after, written, rfl, htakes⟩ | hidle'
  · obtain ⟨opening, value, hopening, hvalue, rfl, -⟩ := takes_memberRule_iff.1 htakes
    simp only [List.append_assoc, List.singleton_append] at h
    exact absurd hidle (not_idle_of_member hmay h hopening hvalue)
  · exact hidle'

/-- The member rule leaves nothing for itself. -/
theorem rewrite_memberRule_twice (before text : List Char) :
    memberRule.rewrite before (memberRule.rewrite before text) =
      memberRule.rewrite before text := by
  induction before, text using Rule.rewrite_induction advances_memberRule with
  | nil before => rw [Rule.rewrite_nil advances_memberRule, Rule.rewrite_nil advances_memberRule]
  | take before piece after written htakes ih =>
    rw [Rule.rewrite_of_takes htakes (advances_memberRule _ _ _ _ htakes)]
    obtain ⟨opening, value, hopening, -, rfl, rfl⟩ := takes_memberRule_iff.1 htakes
    rw [rewrite_masked_member hopening, memberRule_rewrite_congr _ _ before, ih]
  | keep before c rest hidle ih =>
    rw [Rule.rewrite_cons_of_idle hidle]
    have hhides := Hides.keep c (masks_memberRule.hides (c :: before) (c :: before) rest)
    rw [Rule.rewrite_cons_of_idle
      (memberRule_idle_of_hides (fun _ _ _ hmay => hmay.2.1.2) hhides hidle), ih]

theorem rewrite_append_of_not_quote {front : List Char} (h : '"' ∉ front)
    (before rest : List Char) : memberRule.rewrite before (front ++ rest) =
      front ++ memberRule.rewrite before rest := by
  rw [Rule.rewrite_append_of_idle fun a b hsplit hb => ?_,
    memberRule_rewrite_congr before rest (front.reverse ++ before)]
  obtain ⟨c, b, rfl⟩ := List.exists_cons_of_ne_nil hb
  exact memberRule_idle (fun hc => h (hsplit ▸ hc ▸ by simp)) _ _

/-- A blank with a character behind it that no token begins with. -/
abbrev NoTokenBehind (c d : Char) : Prop := blankSet.holds c = true → tokenSet.holds d = false

theorem isChain_of_not_blank {l : List Char} (h : ∀ c ∈ l, blankSet.holds c = false) :
    l.IsChain NoTokenBehind :=
  (List.pairwise_of_forall_mem_list fun c hc _ _ hblank => by
    cases (h c hc).symm.trans hblank).isChain

/-- No token begins behind a blank of a masked member.  The blanks stand in the middle of it, where
no character is one of a token. -/
theorem isChain_masked_member (hopening : opening ∈ memberOpening) :
    List.IsChain NoTokenBehind (opening ++ (maskText.toList ++ ['"'])) := by
  obtain ⟨name, hname, blanks, hblanks, blanks', hblanks', rfl⟩ := mem_memberOpening_iff.1 hopening
  have hstart : ∀ c ∈ '"' :: (name ++ ['"']), blankSet.holds c = false := by
    have hletter : ∀ c ∈ name, Text.isBlank c = false := fun c hc =>
      isBlank_of_mem_name (mem_assignedNames_of_memberNames hname) hc
    have hquote : blankSet.holds '"' = false := by decide
    refine List.forall_mem_cons.2 ⟨hquote, List.forall_mem_append.2 ⟨fun c hc => ?_, ?_⟩⟩
    · rw [blankSet_holds, hletter c hc]
    · exact List.forall_mem_singleton.2 hquote
  have hmiddle : ∀ c ∈ blanks ++ ':' :: (blanks' ++ ['"']), tokenSet.holds c = false := by
    simp only [List.forall_mem_append, List.forall_mem_cons]
    exact ⟨fun c hc => tokenSet_holds_of_isBlank (hblanks c hc), by decide,
      fun c hc => tokenSet_holds_of_isBlank (hblanks' c hc), by decide, nofun⟩
  have hchain : List.IsChain NoTokenBehind (blanks ++ ':' :: (blanks' ++ ['"'])) :=
    (List.pairwise_of_forall_mem_list (r := NoTokenBehind) fun _ _ d hd _ => hmiddle d hd).isChain
  have hend : List.IsChain NoTokenBehind (maskText.toList ++ ['"']) :=
    isChain_of_not_blank fun c hc => not_blank_of_all (by decide +kernel) hc
  have hbehind := hchain.append hend fun c _ d hd _ => by
    obtain rfl : '*' = d := Option.some.inj hd
    decide
  have hwhole := (isChain_of_not_blank hstart).append hbehind fun c hc _ _ hblank => by
    cases (hstart c (List.mem_of_getLast? hc)).symm.trans hblank
  simpa only [List.append_assoc, List.cons_append, List.nil_append] using hwhole

/-- A masked member comes out when tokens are hidden. -/
theorem exists_masked_member (hopening : opening ∈ memberOpening)
    (h : Hides maskText.toList bearerMay [] before (opening ++ (maskText.toList ++ ['"']) ++ text)
      out) : ∃ rest, out = opening ++ (maskText.toList ++ ['"']) ++ rest ∧
        ∃ before', Hides maskText.toList bearerMay [] before' text rest := by
  obtain ⟨rest, rfl, hrest⟩ := h.keeps fun passed c rest hsplit piece after hc hmay => by
    have htoken := hmay.2.1.2 c (List.mem_of_mem_head? hc)
    rcases List.eq_nil_or_concat passed with rfl | ⟨passed, e, rfl⟩
    · obtain ⟨name, -, blanks, -, blanks', -, rfl⟩ := mem_memberOpening_iff.1 hopening
      exact ne_quote_of_token htoken (List.cons.inj hsplit).1.symm
    · obtain ⟨d, hhead, hblank⟩ := hmay.1
      obtain rfl : e = d := by simpa using hhead
      have hapart := List.isChain_iff_forall_rel_of_append_cons_cons.1
        (isChain_masked_member hopening) (by simpa using hsplit) hblank
      cases hapart.symm.trans htoken
  exact ⟨rest, rfl, _, hrest⟩

/-- A member that the member rule leaves as it is has the mask for its value. -/
theorem eq_mask_of_rewrite_eq (hopening : opening ∈ memberOpening)
    (hvalue : value ∈ fullRuns memberSet.holds)
    (hfixed : memberRule.rewrite before (opening ++ (value ++ ['"']) ++ after) =
      opening ++ (value ++ ['"']) ++ after) :
    value = maskText.toList ∧ memberRule.rewrite before after = after := by
  rw [Rule.rewrite_of_takes (takes_memberRule_iff.2 ⟨opening, value, hopening, hvalue, rfl, rfl⟩)
    (by simp), memberRule_rewrite_congr before] at hfixed
  have hvalues : maskText.toList ++ '"' :: memberRule.rewrite before after =
      value ++ '"' :: after := by simpa using hfixed
  obtain ⟨rfl, hafter⟩ :=
    eq_of_append_cons_eq (by decide) (not_mem_of_run hvalue.2 (by decide)) hvalues
  exact ⟨rfl, hafter⟩

/-- Members that the member rule leaves as they are stay so when tokens are hidden. -/
theorem rewrite_memberRule_of_hides (h : Hides maskText.toList bearerMay [] before text out)
    (hfixed : memberRule.rewrite [] text = text) : memberRule.rewrite [] out = out := by
  have hquote : ∀ before piece after, bearerMay before piece after → ∀ c ∈ piece, c ≠ '"' :=
    fun _ _ _ hmay c hc => ne_quote_of_token (hmay.2.1.2 c hc)
  -- by cases on what the rule does at the start of the text, and where it is idle, by cases on
  -- what is hidden there
  induction hlength : text.length using Nat.strongRecOn generalizing before text out with
  | _ n ih =>
    subst hlength
    rcases memberRule.takes_or_idle [] text with ⟨piece, after, written, rfl, htakes⟩ | hidle
    · obtain ⟨opening, value, hopening, hvalue, rfl, rfl⟩ := takes_memberRule_iff.1 htakes
      obtain ⟨rfl, hafter⟩ := eq_mask_of_rewrite_eq hopening hvalue hfixed
      obtain ⟨rest, rfl, before', hrest⟩ := exists_masked_member hopening h
      rw [rewrite_masked_member hopening, ih after.length ?_ hrest hafter rfl]
      simp only [List.length_append, List.length_singleton]
      omega
    · cases h with
      | nil => exact Rule.rewrite_nil advances_memberRule _
      | @keep c _ text out h =>
        have hidle' := memberRule_idle_of_hides
          (fun _ _ _ hmay c hc => memberSet_holds_of_ne (hquote _ _ _ hmay c hc)) (.keep c h) hidle
        rw [Rule.rewrite_cons_of_idle hidle, memberRule_rewrite_congr []] at hfixed
        rw [Rule.rewrite_cons_of_idle hidle', memberRule_rewrite_congr [],
          ih text.length (by simp) h (List.cons.inj hfixed).2 rfl]
      | @hide _ piece text out hne hmay h =>
        rw [rewrite_append_of_not_quote fun hmem => hquote _ _ _ hmay _ hmem rfl] at hfixed
        rw [rewrite_append_of_not_quote (by decide), ih text.length ?_ h
          (List.append_cancel_left hfixed) rfl]
        have hpos := List.length_pos_iff.2 hne
        rw [List.length_append]
        omega

/-! ## Bearer tokens -/

theorem bearer_eq : "Bearer".toList = 'B' :: "earer".toList := by simp

theorem not_blank_of_same_bearer (hc : LetterCase.ignored.same 'B' c = true) :
    blankSet.holds c = false := by
  refine Bool.eq_false_iff.2 fun hblank => ?_
  have hall : ∀ n ∈ Text.blanks, LetterCase.ignored.same 'B' (Char.ofNat n) = false := by
    decide +kernel
  have hapart := hall _ (Text.mem_blanks_of_isBlank ((blankSet_holds c).symm.trans hblank))
  rw [Char.ofNat_toNat, hc] at hapart
  cases hapart

/-- What the bearer rule takes begins with a letter that is in neither the rest of the word, nor the
blanks, nor the mask. -/
theorem exists_bearer (hopening : opening ∈ bearerOpening) : ∃ b rest, opening = b :: rest ∧
    LetterCase.ignored.same 'B' b = true ∧
      ∀ c, LetterCase.ignored.same 'B' c = true → c ∉ rest ++ maskText.toList := by
  obtain ⟨spelled, hspelled, blanks, hblanks, rfl⟩ := mem_bearerOpening_iff.1 hopening
  rw [bearer_eq] at hspelled
  obtain ⟨b, rest, hb, hrest, rfl⟩ := List.forall₂_cons_left_iff.1 hspelled
  have hrest : rest ∈ spellings .ignored "earer".toList := hrest
  refine ⟨b, rest ++ blanks, rfl, hb, fun c hc hmem => ?_⟩
  have hall : ("earer".toList ++ maskText.toList).all
      (fun a => !LetterCase.ignored.same 'B' a) = true := by decide +kernel
  have hapart : ∀ a ∈ "earer".toList ++ maskText.toList, LetterCase.ignored.same 'B' a = false :=
    fun a ha => by simpa using List.all_eq_true.1 hall a ha
  simp only [List.mem_append] at hmem hapart
  rcases hmem with (hmem | hmem) | hmem
  · obtain ⟨a, ha, hsame⟩ := exists_same_of_mem_spellings hrest hmem
    have hword := LetterCase.same_apart (.inl (by decide)) (hapart a (.inl ha)) hc
    cases hword.symm.trans hsame
  · cases (not_blank_of_same_bearer hc).symm.trans (hblanks.2 c hmem)
  · cases (hapart c (.inr hmem)).symm.trans hc

theorem not_mem_bearerOpening (hopening : opening ∈ bearerOpening) : '*' ∉ opening := by
  obtain ⟨spelled, hspelled, blanks, hblanks, rfl⟩ := mem_bearerOpening_iff.1 hopening
  have hword : '*' ∉ spelled := fun hmem => by
    obtain ⟨a, ha, hsame⟩ := exists_same_of_mem_spellings hspelled hmem
    obtain rfl := LetterCase.eq_of_same (by decide) hsame
    exact absurd ha (by decide)
  simpa [hword] using not_mem_of_run hblanks.2 (by decide)

/-- A mask is no token. -/
theorem ne_of_token_behind {opening' token : List Char} (hopening : opening ∈ bearerOpening)
    (hopening' : opening' ∈ bearerOpening) (htoken : token ∈ fullRuns tokenSet.holds) :
    opening ++ (maskText.toList ++ text) ≠ opening' ++ (token ++ after) := by
  intro hwhole
  obtain ⟨spelled, hspelled, blanks, hblanks, rfl⟩ := mem_bearerOpening_iff.1 hopening
  obtain ⟨spelled', hspelled', blanks', hblanks', rfl⟩ := mem_bearerOpening_iff.1 hopening'
  obtain ⟨d, token, rfl⟩ := List.exists_cons_of_ne_nil htoken.1
  have hd := htoken.2 d List.mem_cons_self
  rw [List.append_assoc, List.append_assoc] at hwhole
  obtain ⟨-, hbehind⟩ :=
    List.append_inj hwhole (hspelled.length_eq.symm.trans hspelled'.length_eq)
  obtain rfl : blanks = blanks' := by
    refine run_unique hblanks.2 (fun c hc => ?_) hblanks'.2 (fun c hc => ?_) hbehind
    · obtain rfl : '*' = c := Option.some.inj hc
      decide
    · obtain rfl : d = c := Option.some.inj hc
      exact Bool.eq_false_iff.2 fun hblank => by
        cases (tokenSet_holds_of_isBlank hblank).symm.trans hd
  obtain rfl : '*' = d := (List.cons.inj (List.append_cancel_left hbehind)).1
  exact absurd hd (by decide)

/-- A text has a token behind the word of the bearer rule. -/
def HasToken (text : List Char) : Prop :=
  ∃ passed, ∃ opening ∈ bearerOpening, ∃ token ∈ fullRuns tokenSet.holds, ∃ after,
    text = passed ++ (opening ++ (token ++ after))

theorem not_idle_of_token {token : List Char}
    (h : Hides maskText.toList bearerMay [] before text (opening ++ (token ++ after)))
    (hopening : opening ∈ bearerOpening) (htoken : token ∈ fullRuns tokenSet.holds) :
    ¬ bearerRule.Idle before' text := by
  obtain ⟨rest, rfl, hrest⟩ := h.kept_of_not_mem head?_mask (not_mem_bearerOpening hopening)
  obtain ⟨d, token, rfl⟩ := List.exists_cons_of_ne_nil htoken.1
  obtain ⟨e, rest, rfl, he⟩ := hrest.exists_cons (fun _ _ _ hmay => hmay.2.1.2)
    (htoken.2 d List.mem_cons_self)
  obtain ⟨run, after', hrun, hmem, hstops⟩ := exists_run he rest
  intro hidle
  rw [hrun, ← List.append_assoc] at hidle
  exact Rule.not_takes_of_idle hidle (takes_bearerRule_iff.2
    ⟨opening, run, hopening, hmem, hstops, rfl, rfl⟩)

/-- The bearer rule leaves no token. -/
theorem not_hasToken_rewrite (before text : List Char) :
    ¬ HasToken (bearerRule.rewrite before text) := by
  rintro ⟨passed, opening', hopening', token', htoken', after', hsplit⟩
  induction before, text using Rule.rewrite_induction advances_bearerRule generalizing passed with
  | nil before =>
    rw [Rule.rewrite_nil advances_bearerRule] at hsplit
    simp [htoken'.1] at hsplit
  | take before piece after written htakes ih =>
    rw [Rule.rewrite_of_takes htakes (advances_bearerRule _ _ _ _ htakes)] at hsplit
    obtain ⟨opening, token, hopening, -, -, rfl, rfl⟩ := takes_bearerRule_iff.1 htakes
    rw [List.append_assoc] at hsplit
    cases passed with
    | nil => exact ne_of_token_behind hopening hopening' htoken' hsplit
    | cons c passed =>
      obtain ⟨b, rest, rfl, -, hrest⟩ := exists_bearer hopening
      obtain ⟨b', rest', rfl, hb', -⟩ := exists_bearer hopening'
      have hbehind := (List.cons.inj hsplit).2
      rw [List.append_eq, ← List.append_assoc] at hbehind
      obtain ⟨passed', -, hback⟩ := exists_append_of_not_mem (hrest b' hb') hbehind
      exact ih passed' hback
  | keep before c rest hidle ih =>
    rw [Rule.rewrite_cons_of_idle hidle] at hsplit
    cases passed with
    | nil =>
      have hhides := Hides.keep c (masks_bearerRule.hides (c :: before) (c :: before) rest)
      rw [hsplit, List.nil_append] at hhides
      exact not_idle_of_token hhides hopening' htoken' hidle
    | cons d passed => exact ih passed (List.cons.inj hsplit).2

theorem rewrite_bearerRule_twice (before before' text : List Char) :
    bearerRule.rewrite before' (bearerRule.rewrite before text) =
      bearerRule.rewrite before text := by
  refine Rule.rewrite_eq_self advances_bearerRule fun a b hsplit _ => ?_
  rcases bearerRule.takes_or_idle (a.reverse ++ before') b with
    ⟨piece, after, written, rfl, htakes⟩ | hidle
  · obtain ⟨opening, token, hopening, htoken, -, rfl, -⟩ := takes_bearerRule_iff.1 htakes
    rw [List.append_assoc] at hsplit
    exact absurd ⟨a, opening, hopening, token, htoken, after, hsplit⟩
      (not_hasToken_rewrite before text)
  · exact hidle

/-! ## All rules -/

/-- What the default rules leave of a text. -/
def masked (text : List Char) : List Char :=
  bearerRule.replaceAll (memberRule.replaceAll (addressRule.replaceAll
    (assignmentRule.replaceAll text)))

theorem applyRules_standard (s : String) :
    standard.applyRules s = String.ofList (masked s.toList) := by
  simp [applyRules, standard, make, defaultRules, masked]

theorem assignmentRule_masked (text : List Char) :
    assignmentRule.replaceAll (masked text) = masked text := by
  have hassigned := assignmentsMasked_rewrite [] text [] (.inl rfl)
  have haddress := hassigned.of_hides sparesNames_addressMay (masks_addressRule.hides [] [] _)
  have hmember := haddress.of_hides sparesNames_memberMay (masks_memberRule.hides [] [] _)
  have hbearer := hmember.of_hides sparesNames_bearerMay (masks_bearerRule.hides [] [] _)
  exact hbearer.rewrite_eq

theorem addressesMasked_masked (text : List Char) : AddressesMasked (masked text) := by
  have haddress := addressesMasked_rewrite [] (assignmentRule.replaceAll text)
  have hmember := haddress.of_hides sparesAddresses_memberMay (masks_memberRule.hides [] [] _)
  exact hmember.of_hides sparesAddresses_bearerMay (masks_bearerRule.hides [] [] _)

theorem memberRule_masked (text : List Char) :
    memberRule.replaceAll (masked text) = masked text :=
  rewrite_memberRule_of_hides (masks_bearerRule.hides [] [] _) (rewrite_memberRule_twice [] _)

theorem bearerRule_masked (text : List Char) :
    bearerRule.replaceAll (masked text) = masked text :=
  rewrite_bearerRule_twice [] [] _

theorem AddressesMasked.behind (front : List Char) (h : AddressesMasked (front ++ text)) :
    AddressesMasked text := fun value hpassword => h value (hpassword.append_left front)

/-- Where passwords without quotation marks are masks, the address rule takes away no more than
quotation marks: it changes the text only if it takes away one. -/
theorem count_quote_addressRule (before text : List Char) (h : AddressesMasked text) :
    (addressRule.rewrite before text).count '"' ≤ text.count '"' ∧
      ((addressRule.rewrite before text).count '"' = text.count '"' →
        addressRule.rewrite before text = text) := by
  induction before, text using Rule.rewrite_induction advances_addressRule with
  | nil before =>
    rw [Rule.rewrite_nil advances_addressRule]
    exact ⟨Nat.le_refl _, fun _ => rfl⟩
  | take before piece after written htakes ih =>
    obtain ⟨hle, hsame⟩ := ih (h.behind piece)
    rw [Rule.rewrite_of_takes htakes (advances_addressRule _ _ _ _ htakes)]
    obtain ⟨opening, value, hopening, hvalue, rfl, rfl⟩ := takes_addressRule_iff.1 htakes
    have hmask : maskText.toList.count '"' = 0 := by decide
    simp only [List.count_append, hmask]
    refine ⟨by omega, fun hcount => ?_⟩
    have hquote : '"' ∉ value := List.count_eq_zero.1 (by omega)
    rw [hsame (by omega), h value ⟨[], opening, hopening, after, by simp, hvalue⟩ hquote]
  | keep before c rest hidle ih =>
    obtain ⟨hle, hsame⟩ := ih (AddressesMasked.behind [c] h)
    rw [Rule.rewrite_cons_of_idle hidle]
    simp only [List.count_cons]
    exact ⟨by omega, fun hcount => by rw [hsame (by omega)]⟩

/-- No address of a text has a password with a quotation mark. -/
def NoQuotedPassword (text : List Char) : Prop :=
  ∀ password, HasPassword text password → '"' ∉ password

/-- The address rule leaves masked addresses exactly if no password has a quotation mark. -/
theorem AddressesMasked.replaceAll_eq_iff (h : AddressesMasked text) :
    addressRule.replaceAll text = text ↔ NoQuotedPassword text := by
  constructor
  · intro hsame password hpassword
    rw [← hsame] at hpassword
    obtain rfl := eq_mask_of_addressRule [] text hpassword
    decide
  · intro hnone
    refine Rule.rewrite_eq_self_of_settled advances_addressRule fun passed piece after written
      hsplit htakes => ?_
    obtain ⟨opening, value, hopening, hvalue, rfl, rfl⟩ := takes_addressRule_iff.1 htakes
    have hpassword : HasPassword text value :=
      ⟨passed, opening, hopening, after, by simpa using hsplit, hvalue⟩
    rw [h value hpassword (hnone value hpassword)]

/-- The rules change a text that they have left exactly if an address in it has a password with a
quotation mark. -/
theorem masked_masked_iff (text : List Char) :
    masked (masked text) = masked text ↔ NoQuotedPassword (masked text) := by
  have haddresses := addressesMasked_masked text
  have hfirst : masked (masked text) = bearerRule.replaceAll (memberRule.replaceAll
      (addressRule.replaceAll (masked text))) := by
    rw [masked, assignmentRule_masked]
  rw [← haddresses.replaceAll_eq_iff]
  constructor
  · intro h
    have hcount := count_quote_replaceAll (addressRule.replaceAll (masked text))
    rw [← hfirst, h] at hcount
    exact (count_quote_addressRule [] _ haddresses).2 hcount.symm
  · intro h
    rw [hfirst, h, memberRule_masked, bearerRule_masked]

/-- A text without quotation marks is left without them. -/
theorem noQuotedPassword_masked (h : '"' ∉ text) : NoQuotedPassword (masked text) := by
  have hle := count_quote_replaceAll_le text
  have hcount : (masked text).count '"' = 0 := by
    rw [masked, count_quote_replaceAll, ← Nat.le_zero, ← List.count_eq_zero.2 h]
    exact hle
  rintro password ⟨passed, opening, -, after, hsplit, -⟩ hmem
  exact List.count_eq_zero.1 hcount (hsplit ▸ by simp [hmem])

end QueryTelemetry.Log.Masker
