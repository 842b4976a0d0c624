import QueryTelemetry.Proofs.Log.Hidden

/-!
# What a second masking leaves of a text

A text that a rule has rewritten is settled for this rule, and stays so when the rules
behind it hide more pieces.  Both are shown here for the assignment rule and for the
address rule.

* `assignmentsMasked_rewrite` and `eq_mask_of_addressRule`: what comes out of the rule
  has only masks for values.  The induction follows the rewriting; a value that comes
  out of an idle place was there before (`Hides.kept_of_not_mem`), so the place was
  not idle.
* `AssignmentsMasked.of_hides` and `AddressesMasked.of_hides`: the pieces that the later
  rules hide are not where they could bring a name and a value together (`SparesNames`,
  `SparesAddresses`).

For addresses the second part is not true without a condition.  The value of a member can
stand inside of a password, and where it is hidden the password is a new one.  It then has
the quotation marks of the member, so passwords without them stay masked.
-/

namespace QueryTelemetry

/-- Whether a word starts or ends at a place is a matter of the two characters beside it. -/
theorem Cursor.holds_boundary_congr {before before' rest rest' : List Char}
    (hbefore : before.head? = before'.head?) (hrest : rest.head? = rest'.head?)
    (ascii negated : Bool) : (Cursor.start before rest).holds (.boundary ascii negated) =
      (Cursor.start before' rest').holds (.boundary ascii negated) := by
  have hempty : ∀ l l' : List Char, l.head? = l'.head? → l.isEmpty = l'.isEmpty := by
    intro l l' h
    cases l <;> cases l' <;> simp_all
  simp only [holds, isAlone, atBoundary, start, hbefore, hrest, hempty _ _ hbefore,
    hempty _ _ hrest]

namespace Log.Masker

open Pattern
open Text (LetterCase IsMark)

variable {before text out after name value passed back rest : List Char} {may : Hideable}
  {c : Char}

/-! ## Assignments -/

/-- The assignments to names of secrets in a text have the mask for their values. -/
def AssignmentsMasked (before text : List Char) : Prop :=
  ∀ passed name value after, text = passed ++ (name ++ '=' :: (value ++ after)) →
    (Cursor.start (passed.reverse ++ before) (name ++ '=' :: (value ++ after))).holds
      (.boundary false false) = true →
    name ∈ someSpelling .ignored assignedNames → value ∈ fullRuns assignedSet.holds →
    Stops assignedSet after → value = maskText.toList

theorem isRun_mask : ∀ c ∈ maskText.toList, assignedSet.holds c = true := by
  have hall : maskText.toList.all assignedSet.holds = true := by decide +kernel
  exact List.all_eq_true.1 hall

namespace AssignmentsMasked

theorem rewrite_eq (h : AssignmentsMasked before text) :
    assignmentRule.rewrite before text = text := by
  refine Rule.rewrite_eq_self_of_settled advances_assignmentRule fun passed piece after written
    hsplit htakes => ?_
  obtain ⟨name, value, rfl, hstart, hname, hvalue, hstops, rfl⟩ := takes_assignmentRule_iff.1 htakes
  rw [List.append_assoc, List.cons_append] at hsplit hstart
  rw [h passed name value after hsplit hstart hname hvalue hstops]

theorem cons (h : AssignmentsMasked (c :: before) text)
    (hfirst : ∀ name value after, c :: text = name ++ '=' :: (value ++ after) →
      (Cursor.start before (c :: text)).holds (.boundary false false) = true →
      name ∈ someSpelling .ignored assignedNames → value ∉ fullRuns assignedSet.holds) :
    AssignmentsMasked before (c :: text) := by
  intro passed name value after hsplit hstart hname hvalue hstops
  cases passed with
  | nil => exact absurd hvalue (hfirst name value after hsplit (by rwa [hsplit]) hname)
  | cons d passed =>
    obtain ⟨rfl, hbehind⟩ := List.cons.inj hsplit
    exact h passed name value after hbehind (by simpa using hstart) hname hvalue hstops

/-- An assignment of the mask can stand in front.  Another one begins behind it, since no name ends
with another one. -/
theorem append (h : AssignmentsMasked ((name ++ '=' :: maskText.toList).reverse ++ before) text)
    (hname : name ∈ someSpelling .ignored assignedNames) (hstops : Stops assignedSet text) :
    AssignmentsMasked before ((name ++ '=' :: maskText.toList) ++ text) := by
  intro passed name' value' after' hsplit hstart' hname' hvalue' hstops'
  have hwhole : name ++ '=' :: (maskText.toList ++ text) =
      (passed ++ name') ++ '=' :: (value' ++ after') := by simpa using hsplit
  obtain ⟨between, hboth, hbetween⟩ :=
    exists_append_of_not_mem (not_mem_of_isMark hname (by decide)) hwhole
  cases between with
  | nil =>
    rw [List.append_nil] at hboth
    obtain rfl := eq_nil_of_append_mem_names (hboth ▸ hname) hname'
    exact run_unique hvalue'.2 hstops' isRun_mask hstops (List.cons.inj hbetween).2.symm
  | cons c between =>
    obtain ⟨rfl, hbehind⟩ := List.cons.inj hbetween
    obtain ⟨between', rfl, hrest'⟩ := exists_append_of_not_mem (by decide) hbehind
    have hlast : (name ++ '=' :: maskText.toList).getLast? = some '*' := by
      rw [List.getLast?_append, List.getLast?_cons]
      rfl
    have hsplit' : (name ++ '=' :: maskText.toList) ++ between' = passed ++ name' := by
      simpa using hboth.symm
    obtain ⟨passed', rfl, rfl⟩ := exists_append_of_getLast? hlast
      (not_mem_of_isMark hname' (by decide)) hsplit'
    refine h passed' name' value' after' (by simpa using hrest') ?_ hname' hvalue' hstops'
    rwa [List.reverse_append, List.append_assoc] at hstart'

end AssignmentsMasked

/-- The assignment rule takes no character that stops a value. -/
theorem stops_assignmentRule (before : List Char) (h : Stops assignedSet text) :
    Stops assignedSet (assignmentRule.rewrite before text) := by
  cases text with
  | nil =>
    rw [Rule.rewrite_nil advances_assignmentRule]
    exact h
  | cons c text =>
    have hidle : assignmentRule.Idle before (c :: text) := by
      rcases assignmentRule.takes_or_idle before (c :: text) with
        ⟨piece, after, written, hsplit, htakes⟩ | hidle
      · obtain ⟨d, piece, rfl⟩ :=
          List.exists_cons_of_ne_nil (advances_assignmentRule _ _ _ _ htakes)
        obtain rfl : c = d := (List.cons.inj hsplit).1
        have hholds := assignedSet_holds_of_takes htakes c List.mem_cons_self
        cases hholds.symm.trans (h c rfl)
      · exact hidle
    rw [Rule.rewrite_cons_of_idle hidle]
    exact fun d hd => h d hd

/-- An assignment that stands at the start of a text that comes out was taken. -/
theorem not_idle_of_assignment
    (h : Hides maskText.toList assignedMay [] before text (name ++ '=' :: (value ++ after)))
    (hstart : (Cursor.start before text).holds (.boundary false false) = true)
    (hname : name ∈ someSpelling .ignored assignedNames)
    (hvalue : value ∈ fullRuns assignedSet.holds) : ¬ assignmentRule.Idle before text := by
  rw [List.append_cons] at h
  obtain ⟨rest, rfl, hrest⟩ := h.kept_of_not_mem head?_mask
    (by simpa using not_mem_of_isMark hname (by decide))
  obtain ⟨d, value, rfl⟩ := List.exists_cons_of_ne_nil hvalue.1
  obtain ⟨c, rest, rfl, hc⟩ := hrest.exists_cons (fun _ _ _ hpiece => hpiece.2)
    (hvalue.2 d List.mem_cons_self)
  obtain ⟨run, after', hrun, hmem, hstops⟩ := exists_run hc rest
  intro hidle
  have hpiece : (name ++ ['=']) ++ (run ++ after') = (name ++ '=' :: run) ++ after' := by simp
  rw [hrun, hpiece] at hidle hstart
  exact Rule.not_takes_of_idle hidle (takes_assignmentRule_iff.2
    ⟨name, run, rfl, hstart, hname, hmem, hstops, rfl⟩)

/-- The assignment rule leaves no assignment with another value. -/
theorem assignmentsMasked_rewrite (before text : List Char) :
    ∀ before', before'.head? = before.head? ∨ Stops assignedSet text →
      AssignmentsMasked before' (assignmentRule.rewrite before text) := by
  -- behind a mask the text has another character before it, but there no name begins
  induction before, text using Rule.rewrite_induction advances_assignmentRule with
  | nil before =>
    intro before' _ passed name value after hsplit
    rw [Rule.rewrite_nil advances_assignmentRule] at hsplit
    simp at hsplit
  | take before piece after written htakes ih =>
    intro before' _
    rw [Rule.rewrite_of_takes htakes (advances_assignmentRule _ _ _ _ htakes)]
    obtain ⟨name, value, rfl, -, hname, -, hstops, rfl⟩ := takes_assignmentRule_iff.1 htakes
    exact (ih _ (.inr hstops)).append hname (stops_assignmentRule _ hstops)
  | keep before c rest hidle ih =>
    intro before' hcond
    rw [Rule.rewrite_cons_of_idle hidle]
    refine (ih (c :: before') (.inl rfl)).cons fun name value after hsplit hstart hname hvalue => ?_
    rcases hcond with hhead | hstop
    · have hhides := Hides.keep c (masks_assignmentRule.hides (c :: before) (c :: before) rest)
      rw [hsplit] at hhides
      refine absurd hidle (not_idle_of_assignment hhides ?_ hname hvalue)
      rw [← hstart]
      exact Cursor.holds_boundary_congr hhead.symm rfl _ _
    · obtain ⟨d, name, rfl⟩ := List.exists_cons_of_ne_nil (ne_nil_of_mem_names hname)
      obtain rfl : c = d := (List.cons.inj hsplit).1
      cases (assignedSet_holds_of_mem hname List.mem_cons_self).symm.trans (hstop c rfl)

/-! ## Assignments behind the other rules -/

/-- Pieces that are hidden neither right behind an assignment sign or a mask, nor right before the
name of a secret. -/
structure SparesNames (may : Hideable) : Prop where
  behind : ∀ c ∈ '=' :: maskText.toList, ∀ before piece after, ¬ may (c :: before) piece after
  ahead : ∀ before piece name after, name ∈ someSpelling .ignored assignedNames →
    ¬ may before piece (name ++ after)

theorem head?_append_of_mem_names (hname : name ∈ someSpelling .ignored assignedNames)
    (hc : IsMark c) (after : List Char) : (name ++ after).head? ≠ some c := by
  obtain ⟨d, name, rfl⟩ := List.exists_cons_of_ne_nil (ne_nil_of_mem_names hname)
  intro hhead
  obtain rfl : d = c := Option.some.inj hhead
  exact not_mem_of_isMark hname hc List.mem_cons_self

theorem sparesNames_addressMay : SparesNames addressMay where
  behind c hc before piece after h := by
    obtain rfl : c = ':' := Option.some.inj h.1
    exact absurd hc (by decide)
  ahead before piece name after hname h := head?_append_of_mem_names hname (by decide) after h.2.2

theorem sparesNames_memberMay : SparesNames memberMay where
  behind c hc before piece after h := by
    obtain ⟨⟨d, rest, hbefore, -⟩, -⟩ := h
    obtain rfl : c = '"' := (List.cons.inj hbefore).1
    exact absurd hc (by decide)
  ahead before piece name after hname h := head?_append_of_mem_names hname (by decide) after h.2.2

theorem sparesNames_bearerMay : SparesNames bearerMay where
  behind c hc before piece after h := by
    obtain ⟨⟨d, hd, hblank⟩, -⟩ := h
    obtain rfl : c = d := Option.some.inj hd
    cases (not_blank_of_all (by decide +kernel) hc).symm.trans hblank
  ahead before piece name after hname h := by
    obtain ⟨d, name, rfl⟩ := List.exists_cons_of_ne_nil (ne_nil_of_mem_names hname)
    cases (tokenSet_holds_of_mem_name hname List.mem_cons_self).symm.trans (h.2.2 d rfl)

namespace SparesNames

/-- The name of an assignment that comes out stood there, behind the same character. -/
theorem exists_name (hmay : SparesNames may) (hname : name ∈ someSpelling .ignored assignedNames)
    (h : Hides maskText.toList may [] before text (passed ++ (name ++ '=' :: back))) :
    ∃ passed' rest, text = passed' ++ (name ++ '=' :: rest) ∧
      passed'.getLast? = passed.getLast? ∧
        ∃ before', Hides maskText.toList may [] ('=' :: before') rest back := by
  have hstar : '*' ∉ name := not_mem_of_isMark hname (by decide)
  obtain ⟨passed', rest, rfl, hpassed, hrest⟩ := h.split fun m m' hmask _ hm' hprefix => by
    -- the last star of the mask would be in the name
    obtain ⟨after', hafter⟩ := hprefix
    have hsign : '=' ∉ m' := fun hmem => by
      have hmem' : '=' ∈ maskText.toList := hmask ▸ List.mem_append_right m hmem
      exact absurd hmem' (by decide)
    obtain ⟨between, rfl, -⟩ := exists_append_of_not_mem hsign hafter
    have hlast : maskText.toList.getLast? = some '*' := by decide
    rw [hmask, List.getLast?_append_of_ne_nil m hm'] at hlast
    exact hstar (List.mem_append_left _ (List.mem_of_getLast? hlast))
  rw [List.append_cons] at hrest
  obtain ⟨rest, rfl, hback⟩ := hrest.kept_of_not_mem head?_mask (by simpa using hstar)
  refine ⟨passed', rest, by simp, ?_, _, by simpa using hback⟩
  refine hpassed.getLast?_eq_or.resolve_right fun ⟨before', piece, hhidden⟩ => ?_
  rw [List.append_assoc, List.append_assoc] at hhidden
  exact hmay.ahead _ _ _ _ hname hhidden

/-- Behind an assignment sign nothing is hidden. -/
theorem exists_cons (hmay : SparesNames may)
    (h : Hides maskText.toList may [] ('=' :: before) text (c :: back)) :
    ∃ rest, text = c :: rest := by
  generalize hout : c :: back = out at h
  cases h with
  | nil => cases hout
  | keep d h => exact ⟨_, by rw [(List.cons.inj hout).1]⟩
  | hide hne hhidden h => exact absurd hhidden (hmay.behind '=' List.mem_cons_self _ _ _)

/-- A mask behind an assignment sign is not hidden, nor does its run go on where something is. -/
theorem eq_mask (hmay : SparesNames may)
    (h : Hides maskText.toList may [] ('=' :: before) (maskText.toList ++ text) (value ++ after))
    (htext : Stops assignedSet text) (hvalue : value ∈ fullRuns assignedSet.holds)
    (hstops : Stops assignedSet after) : value = maskText.toList := by
  obtain ⟨back, hback, hbehind⟩ := h.keeps fun passed c rest hsplit piece after _ => by
    rcases List.eq_nil_or_concat passed with rfl | ⟨passed, d, rfl⟩
    · exact hmay.behind '=' List.mem_cons_self _ _ _
    · have hd : d ∈ '=' :: maskText.toList := List.mem_cons_of_mem _ (hsplit ▸ by simp)
      simpa using hmay.behind d hd _ piece after
  refine run_unique hvalue.2 hstops isRun_mask ?_ hback
  cases hbehind with
  | nil => exact nofun
  | keep c h => exact fun d hd => htext d hd
  | hide _ hhidden _ => exact absurd hhidden (hmay.behind '*' (by decide) _ _ _)

end SparesNames

/-- Assignments stay masked when pieces are hidden that spare the names. -/
theorem AssignmentsMasked.of_hides (hmay : SparesNames may)
    (hmasked : AssignmentsMasked before text)
    (h : Hides maskText.toList may [] before text out) : AssignmentsMasked before out := by
  intro passed name value after hsplit hstart hname hvalue hstops
  obtain ⟨passed', rest, rfl, hlast, before', hrest⟩ := hmay.exists_name hname (hsplit ▸ h)
  obtain ⟨d, value, rfl⟩ := List.exists_cons_of_ne_nil hvalue.1
  obtain ⟨rest, rfl⟩ := hmay.exists_cons hrest
  obtain ⟨run, after', hrun, hmem, hstops'⟩ := exists_run (hvalue.2 d List.mem_cons_self) rest
  rw [hrun] at hmasked hrest
  obtain rfl : run = maskText.toList := by
    refine hmasked passed' name run after' rfl ?_ hname hmem hstops'
    rw [← hstart]
    refine Cursor.holds_boundary_congr ?_ ?_ _ _
    · rw [List.head?_append, List.head?_append, List.head?_reverse, List.head?_reverse, hlast]
    · obtain ⟨e, name, rfl⟩ := List.exists_cons_of_ne_nil (ne_nil_of_mem_names hname)
      rfl
  exact hmay.eq_mask hrest hstops' hvalue hstops

/-! ## Addresses -/

/-- A text has an address with this password. -/
def HasPassword (text value : List Char) : Prop :=
  ∃ passed, ∃ opening ∈ addressOpening, ∃ after,
    text = passed ++ (opening ++ (value ++ '@' :: after)) ∧ value ∈ fullRuns addressSet.holds

variable {opening : List Char}

theorem HasPassword.append_left (h : HasPassword text value) (front : List Char) :
    HasPassword (front ++ text) value := by
  obtain ⟨passed, opening, hopening, after, rfl, hvalue⟩ := h
  exact ⟨front ++ passed, opening, hopening, after, by simp, hvalue⟩

theorem not_blank_of_password (h : addressSet.holds c = true) : blankSet.holds c = false := by
  simp only [CharSet.holds, addressSet, blankSet, List.any_cons, List.any_nil] at h ⊢
  grind

theorem not_blank_of_user (h : userSet.holds c = true) : blankSet.holds c = false := by
  simp only [CharSet.holds, userSet, blankSet, List.any_cons, List.any_nil] at h ⊢
  grind

/-- The opening of an address has two colons, at its start and at its end, and no blanks. -/
theorem exists_user (hopening : opening ∈ addressOpening) : ∃ user,
    opening = ':' :: '/' :: '/' :: (user ++ [':']) ∧ ':' ∉ '/' :: '/' :: user ∧
      ∀ c ∈ opening, blankSet.holds c = false := by
  obtain ⟨user, huser, rfl⟩ := mem_addressOpening_iff.1 hopening
  refine ⟨user, by simp, ?_, ?_⟩
  · simpa using not_mem_of_run huser.2 (by decide)
  · refine List.forall_mem_append.2 ⟨fun c hc => not_blank_of_all (by decide +kernel) hc, ?_⟩
    refine List.forall_mem_append.2 ⟨fun c hc => not_blank_of_user (huser.2 c hc), ?_⟩
    exact fun c hc => not_blank_of_all (by decide +kernel) hc

/-- A character behind a colon of an opening is a slash, or the colon is its end. -/
theorem eq_slash_of_opening (hopening : opening ∈ addressOpening)
    (h : opening = passed ++ ':' :: c :: rest) : c = '/' := by
  obtain ⟨user, rfl, hcolon, -⟩ := exists_user hopening
  cases passed with
  | nil => exact (List.cons.inj (List.cons.inj h).2).1.symm
  | cons d passed =>
    have hbehind : ('/' :: '/' :: user) ++ [':'] = passed ++ ':' :: c :: rest := by
      simpa using (List.cons.inj h).2
    obtain ⟨between, -, hlast⟩ := exists_append_of_not_mem hcolon hbehind
    have hlength := congrArg List.length hlast
    simp at hlength
    omega

/-- An address that comes out was taken. -/
theorem not_idle_of_address (h : Hides maskText.toList addressMay [] before text
      (opening ++ (value ++ '@' :: after)))
    (hopening : opening ∈ addressOpening) (hvalue : value ∈ fullRuns addressSet.holds)
    (before' : List Char) : ¬ addressRule.Idle before' text := by
  obtain ⟨rest, rfl, hrest⟩ := h.kept (fun passed c rest hsplit hc piece after hmay => by
    obtain rfl : '*' = c := Option.some.inj hc
    have hhead := hmay.1
    rcases List.eq_nil_or_concat passed with rfl | ⟨passed, e, rfl⟩
    · obtain ⟨user, rfl, -⟩ := exists_user hopening
      exact absurd (List.cons.inj hsplit).1 (by decide)
    · obtain rfl : e = ':' := by simpa using hhead
      exact absurd (eq_slash_of_opening hopening (by simpa using hsplit)) (by decide)) (by decide)
  obtain ⟨value', after', rfl, hne, hvalue'⟩ := hrest.exists_enclosed head?_mask (by decide)
    (fun _ _ _ hmay => hmay.2.1.2) hvalue.1 hvalue.2
  intro hidle
  rw [List.append_cons, ← List.append_assoc] at hidle
  exact Rule.not_takes_of_idle hidle (takes_addressRule_iff.2
    ⟨opening, value', hopening, ⟨hne, hvalue'⟩, rfl, rfl⟩)

/-- An address with the mask for its password shares no part with another one. -/
theorem eq_mask_or_hasPassword (hopening : opening ∈ addressOpening)
    (h : HasPassword (opening ++ (maskText.toList ++ ['@']) ++ text) value) :
    value = maskText.toList ∨ HasPassword text value := by
  obtain ⟨passed, opening', hopening', after, hsplit, hvalue⟩ := h
  obtain ⟨user, rfl, hcolon, -⟩ := exists_user hopening
  obtain ⟨user', rfl, hcolon', -⟩ := exists_user hopening'
  have hwhole : ':' :: (('/' :: '/' :: user) ++ ':' :: (maskText.toList ++ '@' :: text)) =
      passed ++ ':' :: (('/' :: '/' :: user') ++ ':' :: (value ++ '@' :: after)) := by
    simpa using hsplit
  cases passed with
  | nil =>
    have hvalues := (eq_of_append_cons_eq hcolon hcolon' (List.cons.inj hwhole).2).2
    have hsign := not_mem_of_run hvalue.2 (c := '@') (by decide)
    exact .inl (eq_of_append_cons_eq (by decide) hsign hvalues).1.symm
  | cons d passed =>
    obtain ⟨between, -, hbetween⟩ := exists_append_of_not_mem hcolon (List.cons.inj hwhole).2
    cases between with
    | nil => exact absurd (List.cons.inj (List.cons.inj hbetween).2).1 (by decide)
    | cons d between =>
      have hbehind : (maskText.toList ++ ['@']) ++ text = between ++
          ':' :: (('/' :: '/' :: user') ++ ':' :: (value ++ '@' :: after)) := by
        simpa using (List.cons.inj hbetween).2
      obtain ⟨passed', -, htext⟩ := exists_append_of_not_mem (by decide) hbehind
      exact .inr ⟨passed', _, hopening', after, by simpa using htext, hvalue⟩

/-- The address rule leaves no address with another password. -/
theorem eq_mask_of_addressRule (before text : List Char)
    (h : HasPassword (addressRule.rewrite before text) value) : value = maskText.toList := by
  induction before, text using Rule.rewrite_induction advances_addressRule with
  | nil before =>
    obtain ⟨passed, opening, hopening, after, hsplit, -⟩ := h
    rw [Rule.rewrite_nil advances_addressRule] at hsplit
    simp at hsplit
  | take before piece after written htakes ih =>
    rw [Rule.rewrite_of_takes htakes (advances_addressRule _ _ _ _ htakes)] at h
    obtain ⟨opening, value', hopening, -, rfl, rfl⟩ := takes_addressRule_iff.1 htakes
    exact (eq_mask_or_hasPassword hopening h).elim id ih
  | keep before c rest hidle ih =>
    rw [Rule.rewrite_cons_of_idle hidle] at h
    obtain ⟨passed, opening, hopening, after, hsplit, hvalue⟩ := h
    cases passed with
    | nil =>
      have hhides := Hides.keep c (masks_addressRule.hides (c :: before) (c :: before) rest)
      rw [hsplit] at hhides
      exact absurd hidle (not_idle_of_address hhides hopening hvalue before)
    | cons d passed =>
      exact ih ⟨passed, opening, hopening, after, (List.cons.inj hsplit).2, hvalue⟩

/-! ## Addresses behind the other rules -/

/-- The passwords without quotation marks in the addresses of a text are masks. -/
def AddressesMasked (text : List Char) : Prop :=
  ∀ value, HasPassword text value → '"' ∉ value → value = maskText.toList

theorem addressesMasked_rewrite (before text : List Char) :
    AddressesMasked (addressRule.rewrite before text) :=
  fun _ hpassword _ => eq_mask_of_addressRule before text hpassword

/-- Pieces that are not hidden inside of addresses whose password has no quotation mark. -/
def SparesAddresses (may : Hideable) : Prop :=
  ∀ opening value passed rest before piece after, opening ∈ addressOpening →
    value ∈ fullRuns addressSet.holds → '"' ∉ value → opening ++ value = passed ++ '*' :: rest →
    ¬ may (passed.reverse ++ before) piece after

/-- No address begins with a star. -/
theorem ne_nil_of_opening (hopening : opening ∈ addressOpening)
    (h : opening ++ value = passed ++ '*' :: rest) : passed ≠ [] := by
  rintro rfl
  obtain ⟨user, rfl, -⟩ := exists_user hopening
  exact absurd (List.cons.inj h).1 (by decide)

/-- A character behind a colon of an address is a slash or stands in the password. -/
theorem eq_slash_or_mem (hopening : opening ∈ addressOpening)
    (h : opening ++ value = passed ++ ':' :: c :: rest) : c = '/' ∨ c ∈ value := by
  rcases List.append_eq_append_iff.1 h with ⟨between, -, hvalue⟩ | ⟨between, hfront, hbehind⟩
  · exact .inr (hvalue ▸ by simp)
  · cases between with
    | nil =>
      obtain rfl : ':' :: c :: rest = value := hbehind
      exact .inr (by simp)
    | cons d between =>
      obtain ⟨rfl, hvalue⟩ := List.cons.inj hbehind
      cases between with
      | nil =>
        obtain rfl : c :: rest = value := hvalue
        exact .inr List.mem_cons_self
      | cons e between =>
        obtain ⟨rfl, -⟩ := List.cons.inj hvalue
        exact .inl (eq_slash_of_opening hopening hfront)

theorem not_blank_of_address (hopening : opening ∈ addressOpening)
    (hvalue : value ∈ fullRuns addressSet.holds) : ∀ c ∈ opening ++ value,
      blankSet.holds c = false := by
  obtain ⟨user, -, -, hblank⟩ := exists_user hopening
  exact List.forall_mem_append.2 ⟨hblank, fun c hc => not_blank_of_password (hvalue.2 c hc)⟩

theorem sparesAddresses_bearerMay : SparesAddresses bearerMay := by
  intro opening value passed rest before piece after hopening hvalue _ hsplit hmay
  obtain ⟨c, hhead, hblank⟩ := hmay.1
  obtain ⟨passed, e, rfl⟩ :=
    (List.eq_nil_or_concat passed).resolve_left (ne_nil_of_opening hopening hsplit)
  obtain rfl : e = c := by simpa using hhead
  have hmem : e ∈ opening ++ value := hsplit ▸ by simp
  cases hblank.symm.trans (not_blank_of_address hopening hvalue e hmem)

theorem sparesAddresses_memberMay : SparesAddresses memberMay := by
  -- the quotation mark before a value is behind a colon or a blank, but a colon of an
  -- address has a slash or the password behind it
  intro opening value passed rest before piece after hopening hvalue hquote hsplit hmay
  obtain ⟨c, rest', hbefore, hc⟩ := hmay.1
  obtain ⟨passed, e, rfl⟩ :=
    (List.eq_nil_or_concat passed).resolve_left (ne_nil_of_opening hopening hsplit)
  obtain ⟨rfl, hbehind⟩ : e = '"' ∧ passed.reverse ++ before = c :: rest' := by
    simpa using hbefore
  rcases List.eq_nil_or_concat passed with rfl | ⟨passed, e, rfl⟩
  · obtain ⟨user, rfl, -⟩ := exists_user hopening
    exact absurd (List.cons.inj hsplit).1 (by decide)
  obtain ⟨rfl, -⟩ : e = c ∧ passed.reverse ++ before = rest' := by simpa using hbehind
  have hboth : opening ++ value = passed ++ e :: '"' :: '*' :: rest := by simpa using hsplit
  rcases hc with rfl | hblank
  · exact (eq_slash_or_mem hopening hboth).elim (absurd · (by decide)) hquote
  · have hmem : e ∈ opening ++ value := hboth ▸ by simp
    cases hblank.symm.trans (not_blank_of_address hopening hvalue e hmem)

/-- Addresses stay masked when pieces are hidden outside of them. -/
theorem AddressesMasked.of_hides (hmay : SparesAddresses may) (hmasked : AddressesMasked text)
    (h : Hides maskText.toList may [] before text out) : AddressesMasked out := by
  rintro value ⟨passed, opening, hopening, after, rfl, hvalue⟩ hquote
  rw [← List.append_assoc opening] at h
  obtain ⟨passed', rest, rfl, -, hrest⟩ := h.split fun m m' hmask _ hm' hprefix => by
    obtain ⟨user, rfl, -⟩ := exists_user hopening
    obtain ⟨c, m', rfl⟩ := List.exists_cons_of_ne_nil hm'
    obtain rfl : c = ':' := (List.cons_prefix_cons.1 hprefix).1
    have hmem : ':' ∈ maskText.toList := hmask ▸ by simp
    exact absurd hmem (by decide)
  obtain ⟨rest', rfl, hrest'⟩ := hrest.kept (fun passed c rest hsplit hc piece after => by
    obtain rfl : '*' = c := Option.some.inj hc
    exact hmay opening value passed rest _ piece after hopening hvalue hquote hsplit) (by decide)
  obtain ⟨after', rfl, -⟩ := hrest'.kept_cons head?_mask (by decide)
  exact hmasked value ⟨passed', opening, hopening, after', by simp, hvalue⟩ hquote

end Log.Masker

end QueryTelemetry
