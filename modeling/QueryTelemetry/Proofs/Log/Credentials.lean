import QueryTelemetry.Json.Printer
import QueryTelemetry.Proofs.Json.Literals
import QueryTelemetry.Proofs.Log.PlainText
import QueryTelemetry.Proofs.Log.Rules

/-!
# Credentials in JSON text

A map with one credential, written as JSON and masked by the standard masker, shows
nothing of the credential if it is concealable (`Masker.Concealable`): no assignment
to the name of a secret runs off the text with the closing quotation mark, and the
rules for assignments and addresses leave no quotation mark inside of the value.
Texts without quotation marks and assignments are concealable.  Of a credential that
is not concealable something other than the mask is left.
-/

namespace QueryTelemetry.Log.Masker

open Text (LetterCase IsMark)

variable {before piece after written text : List Char}

/-! ## Names of secrets -/

/-- The letters of the names of secrets. -/
def nameLetters : List Char :=
  ['p', 'a', 's', 'w', 'o', 'r', 'd', 'e', 'c', 't', 'i', '_', 'k', 'y', 'n']

theorem mem_nameLetters : ∀ w ∈ assignedNames, ∀ a ∈ w.toList, a ∈ nameLetters := by
  simp [assignedNames, nameLetters]

variable {name : List Char} (hname : name ∈ someSpelling .ignored assignedNames)

include hname

theorem exists_nameLetter {c : Char} (hc : c ∈ name) :
    ∃ a ∈ nameLetters, LetterCase.ignored.same a c = true := by
  obtain ⟨w, hw, hspelled⟩ := hname
  obtain ⟨a, ha, hsame⟩ := exists_same_of_mem_spellings hspelled hc
  exact ⟨a, mem_nameLetters w hw a ha, hsame⟩

theorem not_mem_of_isMark {c : Char} (hc : IsMark c) : c ∉ name := by
  intro hmem
  obtain ⟨a, ha, hsame⟩ := exists_nameLetter hname hmem
  obtain rfl := LetterCase.eq_of_same hc hsame
  have hall : nameLetters.all (fun a => !decide (IsMark a)) = true := by decide
  have hletter := List.all_eq_true.1 hall a ha
  simp [hc] at hletter

theorem isBlank_of_mem_name {c : Char} (hc : c ∈ name) : Text.isBlank c = false := by
  refine Bool.eq_false_iff.2 fun hblank => ?_
  obtain ⟨a, ha, hsame⟩ := exists_nameLetter hname hc
  have hall : ∀ n ∈ Text.blanks, nameLetters.all
      (fun a => !LetterCase.ignored.same a (Char.ofNat n)) = true := by decide +kernel
  have hapart := List.all_eq_true.1 (hall _ (Text.mem_blanks_of_isBlank hblank)) a ha
  rw [Char.ofNat_toNat, hsame] at hapart
  cases hapart

/-- The names of secrets, however they are spelled, do not stop an assigned value. -/
theorem assignedSet_holds_of_mem {c : Char} (hc : c ∈ name) : assignedSet.holds c = true := by
  have hsign : ∀ x, IsMark x → LetterCase.ignored.same x c = false := by
    refine fun x hx => Bool.eq_false_iff.2 fun hsame => ?_
    obtain rfl := (LetterCase.same_mark_iff hx).1 hsame
    exact not_mem_of_isMark hname hx hc
  simp [CharSet.holds, CharItem.holds, CharKind.holds, assignedSet, blankItem,
    isBlank_of_mem_name hname hc, hsign '&' (by decide), hsign ';' (by decide)]

omit hname

/-! ## Assignments that run off -/

/-- An assignment to the name of a secret, at the start of a word, goes on to the end
of a text. -/
def RunsOff (before text : List Char) : Prop :=
  ∃ passed name value, text = passed ++ (name ++ '=' :: value) ∧
    (Cursor.start (passed.reverse ++ before) (name ++ '=' :: value)).holds
      (.boundary false false) = true ∧
    name ∈ someSpelling .ignored assignedNames ∧ value ∈ fullRuns assignedSet.holds

theorem runsOff_iff : RunsOff before text ↔ ∃ passed piece written, text = passed ++ piece ∧
    assignmentRule.Takes (passed.reverse ++ before) piece [] written := by
  constructor
  · rintro ⟨passed, name, value, rfl, hstart, hname, hvalue⟩
    refine ⟨passed, _, _, rfl, takes_assignmentRule_iff.2
      ⟨name, value, rfl, ?_, hname, hvalue, nofun, rfl⟩⟩
    rwa [List.append_nil]
  · rintro ⟨passed, piece, written, rfl, h⟩
    obtain ⟨name, value, rfl, hstart, hname, hvalue, -, -⟩ := takes_assignmentRule_iff.1 h
    rw [List.append_nil] at hstart
    exact ⟨passed, name, value, rfl, hstart, hname, hvalue⟩

theorem advances_assignmentRule : assignmentRule.Advances := by
  intro before piece after written h
  obtain ⟨name, value, rfl, -⟩ := takes_assignmentRule_iff.1 h
  simp

theorem assignedSet_holds_of_takes (h : assignmentRule.Takes before piece after written) :
    ∀ c ∈ piece, assignedSet.holds c = true := by
  obtain ⟨name, value, rfl, -, hname, hvalue, -, -⟩ := takes_assignmentRule_iff.1 h
  intro c hc
  rcases List.mem_append.1 hc with hc | hc
  · exact assignedSet_holds_of_mem hname hc
  · rcases List.mem_cons.1 hc with rfl | hc
    · decide
    · exact hvalue.2 c hc

theorem getLast?_of_takes (h : assignmentRule.Takes before piece after written) :
    written.getLast? = some '*' := by
  obtain ⟨name, value, -, -, -, -, -, rfl⟩ := takes_assignmentRule_iff.1 h
  rw [List.getLast?_append, List.getLast?_cons]
  rfl

/-- An assignment that runs off a text takes its end with it. -/
theorem getLast?_of_runsOff (h : RunsOff before text) :
    (assignmentRule.rewrite before text).getLast? = some '*' := by
  rw [runsOff_iff] at h
  induction before, text using Rule.rewrite_induction advances_assignmentRule with
  | nil before =>
    obtain ⟨passed, piece, written, htext, htakes⟩ := h
    exact absurd (List.append_eq_nil_iff.1 htext.symm).2 (advances_assignmentRule _ _ _ _ htakes)
  | take before piece after written htakes ih =>
    rw [Rule.rewrite_of_takes htakes (advances_assignmentRule _ _ _ _ htakes)]
    obtain ⟨passed, piece', written', htext, htakes'⟩ := h
    cases after with
    | nil =>
      rw [Rule.rewrite_nil advances_assignmentRule, List.append_nil, getLast?_of_takes htakes]
    | cons c after =>
      obtain ⟨name, value, -, -, -, -, hstops, -⟩ := takes_assignmentRule_iff.1 htakes
      -- the piece ends before a character that cannot be in the assignment that runs off
      rcases List.append_eq_append_iff.1 htext with ⟨a, rfl, hafter⟩ | ⟨b, rfl, hpiece'⟩
      · rw [List.getLast?_append, ih ⟨a, piece', written', hafter, ?_⟩, Option.some_or]
        rwa [← List.append_assoc, ← List.reverse_append]
      · have hc : c ∈ piece' := hpiece' ▸ List.mem_append_right _ List.mem_cons_self
        cases (hstops c rfl).symm.trans (assignedSet_holds_of_takes htakes' c hc)
  | keep before c rest hidle ih =>
    obtain ⟨passed, piece', written', htext, htakes'⟩ := h
    rw [Rule.rewrite_cons_of_idle hidle]
    cases passed with
    | nil =>
      obtain rfl : c :: rest = piece' := htext
      exact absurd htakes' (Rule.not_takes_of_idle (by rwa [List.append_nil]))
    | cons d passed =>
      obtain ⟨rfl, rfl⟩ := List.cons.inj htext
      rw [List.getLast?_cons, ih ⟨passed, piece', written', rfl, by simpa using htakes'⟩]
      rfl

/-- If none runs off, no assignment reaches into a tail that has no stop. -/
theorem spares_of_not_runsOff {tail : List Char} (h : ¬ RunsOff before (text ++ tail))
    (htail : ∀ c ∈ tail, assignedSet.holds c = true) : assignmentRule.Spares tail before text := by
  intro passed piece after written htext htakes
  obtain ⟨name, value, -, -, -, -, hstops, -⟩ := takes_assignmentRule_iff.1 htakes
  cases after with
  | nil => exact absurd (runsOff_iff.2 ⟨passed, piece, written, by simpa using htext, htakes⟩) h
  | cons c after =>
    have hsuffix : c :: after <:+ text ++ tail := ⟨passed ++ piece, by rw [htext]; simp⟩
    rcases List.suffix_or_suffix_of_suffix (List.suffix_append text tail) hsuffix with
      hshorter | hlonger
    · exact hshorter
    · cases (hstops c rfl).symm.trans (htail c (hlonger.subset List.mem_cons_self))

/-! ## What the other rules leave -/

theorem advances_addressRule : addressRule.Advances := by
  intro before piece after written h
  obtain ⟨opening, value, -, -, rfl, -⟩ := takes_addressRule_iff.1 h
  simp

theorem advances_memberRule : memberRule.Advances := by
  intro before piece after written h
  obtain ⟨opening, value, -, -, rfl, -⟩ := takes_memberRule_iff.1 h
  simp

theorem advances_bearerRule : bearerRule.Advances := by
  intro before piece after written h
  obtain ⟨opening, token, -, htoken, -, rfl, -⟩ := takes_bearerRule_iff.1 h
  simp [htoken.1]

theorem count_quote_eq_zero {chars : CharSet} {run : List Char} (hrun : run ∈ fullRuns chars.holds)
    (hquote : chars.holds '"' = false) : run.count '"' = 0 := by
  refine List.count_eq_zero.2 fun hmem => ?_
  cases hquote.symm.trans (hrun.2 _ hmem)

/-- The rules for members and tokens keep every quotation mark. -/
theorem count_quote_replaceAll (cs : List Char) :
    (bearerRule.replaceAll (memberRule.replaceAll cs)).count '"' = cs.count '"' := by
  have hsum : ∀ a b a' b' : Nat, a = b → a' = b' → a + a' = b + b' := by omega
  have hmask : maskText.toList.count '"' = 0 := by decide
  have hbearer := Rule.count_rewrite advances_bearerRule (c := '"') (r := (· = ·)) (fun _ => rfl)
    hsum fun before piece after written h => by
      obtain ⟨opening, token, -, htoken, -, rfl, rfl⟩ := takes_bearerRule_iff.1 h
      have hnone := count_quote_eq_zero htoken (by decide)
      rw [List.count_append, List.count_append, hmask, hnone]
  have hmember := Rule.count_rewrite advances_memberRule (c := '"') (r := (· = ·)) (fun _ => rfl)
    hsum fun before piece after written h => by
      obtain ⟨opening, value, -, hvalue, rfl, rfl⟩ := takes_memberRule_iff.1 h
      have hnone := count_quote_eq_zero hvalue (by decide)
      simp only [List.count_append, hmask, hnone]
  exact (hbearer [] _).trans (hmember [] cs)

/-- No rule but that for assignments takes the end of a text that ends with a star. -/
theorem getLast?_replaceAll {cs : List Char} (h : cs.getLast? = some '*') :
    (bearerRule.replaceAll (memberRule.replaceAll (addressRule.replaceAll cs))).getLast? =
      some '*' := by
  have haddress := Rule.getLast?_rewrite (c := '*') advances_addressRule
    fun before piece after written h => by
      obtain ⟨opening, value, -, -, rfl, -⟩ := takes_addressRule_iff.1 h
      simp
  have hmember := Rule.getLast?_rewrite (c := '*') advances_memberRule
    fun before piece after written h => by
      obtain ⟨opening, value, -, -, rfl, -⟩ := takes_memberRule_iff.1 h
      simp
  have hbearer := Rule.getLast?_rewrite (c := '*') advances_bearerRule
    fun before piece after written h => by
      obtain ⟨opening, token, -, htoken, -, rfl, -⟩ := takes_bearerRule_iff.1 h
      intro hlast
      rw [List.getLast?_append_of_ne_nil _ htoken.1] at hlast
      have hstar : tokenSet.holds '*' = false := by decide
      cases hstar.symm.trans (htoken.2 _ (List.mem_of_getLast? hlast))
  exact hbearer [] _ (hmember [] _ (haddress [] cs h))

/-- The rules for assignments and addresses add no quotation mark. -/
theorem count_quote_replaceAll_le (cs : List Char) :
    (addressRule.replaceAll (assignmentRule.replaceAll cs)).count '"' ≤ cs.count '"' := by
  have hmask : maskText.toList.count '"' = 0 := by decide
  have hsum : ∀ a b a' b' : Nat, a ≤ b → a' ≤ b' → a + a' ≤ b + b' := by omega
  have haddress := Rule.count_rewrite advances_addressRule (c := '"') (r := (· ≤ ·)) Nat.le_refl
    hsum fun before piece after written h => by
      obtain ⟨opening, value, -, -, rfl, rfl⟩ := takes_addressRule_iff.1 h
      simp only [List.count_append, hmask]
      omega
  have hassignment := Rule.count_rewrite advances_assignmentRule (c := '"') (r := (· ≤ ·))
    Nat.le_refl hsum fun before piece after written h => by
      obtain ⟨name, value, rfl, -, -, -, -, rfl⟩ := takes_assignmentRule_iff.1 h
      simp only [List.count_append, List.count_cons, hmask]
      omega
  exact (haddress [] _).trans (hassignment [] cs)

/-! ## The JSON text of a credential -/

/-- The key and what stands between it and the value. -/
def memberKey (key : String) : List Char := '"' :: (key.toList ++ ['"', ':', ' ', '"'])

/-- The text before the value. -/
def memberStart (key : String) : List Char := '\x7b' :: memberKey key

/-- The text behind the value. -/
def memberEnd : List Char := ['"', '\x7d']

/-- A map with one credential as JSON. -/
def memberText (key value : String) : List Char :=
  memberStart key ++ (value.toList.flatMap Json.escapeChar ++ memberEnd)

/-- A map with a mask in the place of a credential. -/
def concealed (key : String) : List Char := memberStart key ++ (maskText.toList ++ memberEnd)

variable {key value : String}

theorem cases_of_mem_memberNames (hkey : key ∈ memberNames) :
    key = "password" ∨ key = "secret" ∨ key = "token" := by
  simpa [memberNames] using hkey

theorem print_member (hkey : key ∈ memberNames) (value : String) :
    Json.print .line (.dict [(.text key, .text value)]) =
      .ok (String.ofList (memberText key value)) := by
  have hescape : key.toList.flatMap Json.escapeChar = key.toList := by
    rcases cases_of_mem_memberNames hkey with rfl | rfl | rfl <;> decide +kernel
  have hprint : Json.print .line (.dict [(.text key, .text value)]) =
      .ok ("\x7b" ++ "" ++ (Json.literal key ++ ": " ++ Json.literal value) ++ "" ++ "\x7d") := by
    simp [Json.print, Json.Style.write, Json.Style.writeEntries, Json.Style.object, Json.members,
      Json.keyText, Json.Style.line, Json.Style.container, Json.Style.newline, bind, Except.bind]
  rw [hprint]
  refine congrArg Except.ok (String.toList_injective ?_)
  simp [Json.literal, Json.literalChars, memberText, memberStart, memberKey, memberEnd, hescape]

/-- A rule leaves the start of the text alone if its matches begin with a word that
has no quotation mark and does not fit into the start. -/
theorem rewrite_memberStart (rule : Rule) (key : String)
    (h : ∀ before piece after written, rule.Takes before piece after written →
      ∃ word rest c, piece = word ++ rest ∧ '"' ∉ word ∧ c ∈ word ∧ c ∉ memberStart key)
    (rest : List Char) : rule.rewrite [] (memberStart key ++ rest) =
      memberStart key ++ rule.rewrite (memberStart key).reverse rest := by
  refine (Rule.rewrite_append_of_idle fun a b hsplit hb => ?_).trans (by rw [List.append_nil])
  rcases rule.takes_or_idle (a.reverse ++ []) (b ++ rest) with
    ⟨piece, after, written, hboth, htakes⟩ | hidle
  · obtain ⟨word, rest', c, rfl, hquote, hc, hout⟩ := h _ _ _ _ htakes
    have hlast : (memberStart key).getLast? = some '"' := by
      rw [memberStart, memberKey, ← List.cons_append, ← List.cons_append,
        List.getLast?_append_of_ne_nil _ (by simp)]
      rfl
    rw [hsplit, List.getLast?_append_of_ne_nil a hb] at hlast
    rw [List.append_assoc] at hboth
    rcases List.append_eq_append_iff.1 hboth with ⟨d, rfl, -⟩ | ⟨d, rfl, -⟩
    · exact absurd (List.mem_append_left _ (List.mem_of_getLast? hlast)) hquote
    · exact absurd (hsplit ▸ List.mem_append_right _ (List.mem_append_left _ hc)) hout
  · exact hidle

theorem not_mem_memberStart (hkey : key ∈ memberNames) :
    '=' ∉ memberStart key ∧ '/' ∉ memberStart key := by
  rcases cases_of_mem_memberNames hkey with rfl | rfl | rfl <;> simp [memberStart, memberKey]

theorem assignedSet_holds_of_mem_memberEnd : ∀ c ∈ memberEnd, assignedSet.holds c = true := by
  intro c hc
  rcases List.mem_pair.1 hc with rfl | rfl <;> decide

/-- The assignment rule works inside of the value if no assignment runs off. -/
theorem exists_replaceAll_assignmentRule (hkey : key ∈ memberNames) {inner : List Char}
    (hinner : inner ≠ []) (h : ¬ RunsOff [] (memberStart key ++ (inner ++ memberEnd))) :
    ∃ inner', inner' ≠ [] ∧ assignmentRule.replaceAll (memberStart key ++ (inner ++ memberEnd)) =
      memberStart key ++ (inner' ++ memberEnd) := by
  have hstart := rewrite_memberStart assignmentRule key
    fun before piece after written htakes => by
      obtain ⟨name, value, rfl, -, hname, -⟩ := takes_assignmentRule_iff.1 htakes
      refine ⟨name ++ ['='], value, '=', by simp, ?_, by simp, (not_mem_memberStart hkey).1⟩
      simpa using not_mem_of_isMark hname (by decide)
  have hspares : assignmentRule.Spares memberEnd (memberStart key).reverse inner := by
    refine spares_of_not_runsOff (fun hoff => h ?_) assignedSet_holds_of_mem_memberEnd
    obtain ⟨passed, name, value, htext, hoff⟩ := hoff
    exact ⟨memberStart key ++ passed, name, value, by rw [htext, List.append_assoc],
      by simpa using hoff⟩
  obtain ⟨inner', hrewrite, hne⟩ := Rule.exists_rewrite_append advances_assignmentRule
    (fun before piece after written htakes => by
      obtain ⟨name, value, -, -, -, -, -, rfl⟩ := takes_assignmentRule_iff.1 htakes
      simp) hspares
  exact ⟨inner', hne hinner, by rw [Rule.replaceAll_eq_rewrite, hstart, hrewrite]⟩

/-- The address rule works inside of the value. -/
theorem exists_replaceAll_addressRule (hkey : key ∈ memberNames) {inner : List Char}
    (hinner : inner ≠ []) :
    ∃ inner', inner' ≠ [] ∧ addressRule.replaceAll (memberStart key ++ (inner ++ memberEnd)) =
      memberStart key ++ (inner' ++ memberEnd) := by
  have hstart := rewrite_memberStart addressRule key
    fun before piece after written htakes => by
      obtain ⟨opening, value, hopening, -, rfl, -⟩ := takes_addressRule_iff.1 htakes
      obtain ⟨_, rfl, user, -, rfl⟩ := Language.mem_mul.1 hopening
      exact ⟨"://".toList, user ++ (value ++ ['@']), '/', by simp, by simp, by simp,
        (not_mem_memberStart hkey).2⟩
  have hspares : addressRule.Spares memberEnd (memberStart key).reverse inner := by
    refine Rule.spares_of_getLast? (c := '@') (fun before piece after written htakes => ?_)
      (by decide) _ _
    obtain ⟨opening, value, -, -, rfl, -⟩ := takes_addressRule_iff.1 htakes
    simp
  obtain ⟨inner', hrewrite, hne⟩ := Rule.exists_rewrite_append advances_addressRule
    (fun before piece after written htakes => by
      obtain ⟨opening, value, -, -, -, rfl⟩ := takes_addressRule_iff.1 htakes
      simp) hspares
  exact ⟨inner', hne hinner, by rw [Rule.replaceAll_eq_rewrite, hstart, hrewrite]⟩

theorem memberRule_idle {c : Char} (hc : c ≠ '"') (before rest : List Char) :
    memberRule.Idle before (c :: rest) := by
  rcases memberRule.takes_or_idle before (c :: rest) with ⟨piece, after, written, hrest, h⟩ | hidle
  · obtain ⟨opening, value, hopening, -, rfl, -⟩ := takes_memberRule_iff.1 h
    obtain ⟨_, rfl, rest', -, rfl⟩ := Language.mem_mul.1 hopening
    exact absurd (List.cons.inj hrest).1 hc
  · exact hidle

/-- The member rule puts the mask in the place of a value without quotation marks. -/
theorem replaceAll_memberRule (hkey : key ∈ memberNames) {inner : List Char} (hinner : inner ≠ [])
    (hquote : '"' ∉ inner) :
    memberRule.replaceAll (memberStart key ++ (inner ++ memberEnd)) = concealed key := by
  have hspelled : key.toList ∈ someSpelling .ignored memberNames :=
    ⟨key, hkey, List.forall₂_same.2 fun c _ => by simp [LetterCase.same]⟩
  have hopening : memberKey key ∈ memberOpening := by
    refine Language.append_mem_mul (a := ['"']) rfl (Language.append_mem_mul hspelled ?_)
    refine Language.append_mem_mul (a := ['"']) rfl (Language.append_mem_mul (a := []) ?_ ?_)
    · exact List.forall_mem_nil _
    refine Language.append_mem_mul (a := [':']) rfl (Language.append_mem_mul (a := [' ']) ?_ rfl)
    exact List.forall_mem_singleton.2 (show blankSet.holds ' ' = true by decide)
  have hvalue : inner ∈ fullRuns memberSet.holds := by
    refine ⟨hinner, fun c hc => ?_⟩
    have hne : LetterCase.ignored.same '"' c = false := Bool.eq_false_iff.2 fun hsame =>
      hquote ((LetterCase.same_mark_iff (by decide)).1 hsame ▸ hc)
    simp [CharSet.holds, CharItem.holds, memberSet, hne]
  have htakes : memberRule.Takes ['\x7b'] (memberKey key ++ (inner ++ ['"'])) ['\x7d']
      (memberKey key ++ (maskText.toList ++ ['"'])) :=
    takes_memberRule_iff.2 ⟨_, inner, hopening, hvalue, rfl, rfl⟩
  have hrest := Rule.rewrite_of_takes htakes (by simp)
  rw [Rule.rewrite_cons_of_idle (memberRule_idle (by decide) _ _),
    Rule.rewrite_nil advances_memberRule] at hrest
  have htext : memberStart key ++ (inner ++ memberEnd) =
      '\x7b' :: (memberKey key ++ (inner ++ ['"']) ++ ['\x7d']) := by
    simp [memberStart, memberEnd]
  rw [Rule.replaceAll_eq_rewrite, htext,
    Rule.rewrite_cons_of_idle (memberRule_idle (by decide) _ _), hrest]
  simp [concealed, memberStart, memberEnd]

/-- There is no word of the bearer rule in what is concealed. -/
theorem replaceAll_bearerRule (hkey : key ∈ memberNames) :
    bearerRule.replaceAll (concealed key) = concealed key := by
  have hneeds : bearerRule.pattern.Needs (LetterCase.ignored.same 'B') := by
    have hword : word "Bearer" = .sequence (char 'B') (.inOrder ("earer".toList.map char)) := by
      rw [word, Pattern.word, show "Bearer".toList = 'B' :: "earer".toList from by simp]
      rfl
    have hfirst : (char 'B').Needs (LetterCase.ignored.same 'B') :=
      (Pattern.Needs.set _).mono fun c hc => by simpa [CharSet.holds, CharItem.holds] using hc
    exact ((hword ▸ (hfirst.left _)).left _ |>.group 1).left _
  have hnone : (concealed key).all (fun c => !LetterCase.ignored.same 'B' c) = true := by
    rcases cases_of_mem_memberNames hkey with rfl | rfl | rfl <;> decide +kernel
  exact Rule.replaceAll_of_needs hneeds fun c hc => by simpa using List.all_eq_true.1 hnone c hc

/-! ## Concealable credentials -/

/-- A credential that leaves no trace in the masked text: no assignment runs off with
the end of the text, and only the four quotation marks around key and value are left
once assignments and addresses are masked. -/
structure Concealable (key value : String) : Prop where
  stays : ¬ RunsOff [] (memberText key value)
  quotes : (addressRule.replaceAll (assignmentRule.replaceAll (memberText key value))).count '"' = 4

theorem escaped_ne_nil (hvalue : value ≠ "") : value.toList.flatMap Json.escapeChar ≠ [] := by
  obtain ⟨c, hc⟩ := List.exists_mem_of_ne_nil value.toList (by simpa using hvalue)
  exact fun hnil => Json.escapeChar_ne_nil c (List.flatMap_eq_nil_iff.1 hnil c hc)

theorem count_quote_concealed (hkey : key ∈ memberNames) : (concealed key).count '"' = 4 := by
  rcases cases_of_mem_memberNames hkey with rfl | rfl | rfl <;> decide +kernel

theorem count_quote_member (hkey : key ∈ memberNames) (inner : List Char) :
    (memberStart key ++ (inner ++ memberEnd)).count '"' = inner.count '"' + 4 := by
  have hempty : (memberStart key ++ memberEnd).count '"' = 4 := by
    rcases cases_of_mem_memberNames hkey with rfl | rfl | rfl <;> decide +kernel
  simp only [List.count_append] at hempty ⊢
  omega

/-- The standard masker conceals exactly the credentials that are concealable. -/
theorem replaceAll_memberText_iff (hkey : key ∈ memberNames) (hvalue : value ≠ "") :
    bearerRule.replaceAll (memberRule.replaceAll (addressRule.replaceAll
      (assignmentRule.replaceAll (memberText key value)))) = concealed key ↔
    Concealable key value := by
  constructor
  · intro h
    refine ⟨fun hoff => ?_, ?_⟩
    · have hlast := getLast?_replaceAll (getLast?_of_runsOff hoff)
      rw [← Rule.replaceAll_eq_rewrite, h, concealed, ← List.append_assoc,
        List.getLast?_append_of_ne_nil _ (by decide)] at hlast
      cases hlast
    · rw [← count_quote_replaceAll, h, count_quote_concealed hkey]
  · rintro ⟨hstays, hquotes⟩
    obtain ⟨inner, hne, hassigned⟩ :=
      exists_replaceAll_assignmentRule hkey (escaped_ne_nil hvalue) hstays
    obtain ⟨inner', hne', haddress⟩ := exists_replaceAll_addressRule hkey hne
    rw [memberText, hassigned, haddress] at hquotes ⊢
    have hnone : '"' ∉ inner' := by
      rw [count_quote_member hkey] at hquotes
      exact List.count_eq_zero.1 (by omega)
    rw [replaceAll_memberRule hkey hne' hnone, replaceAll_bearerRule hkey]

/-! ### Credentials without quotation marks -/

theorem not_mem_unitEscape {x : Char} (hx : x = '"' ∨ x = '=') (n : Nat) :
    x ∉ Json.unitEscape n := by
  have hdigit : ∀ m, x ≠ Text.hexDigit m := by
    intro m
    have hall : ∀ k < 16, Text.hexDigit k ≠ '"' ∧ Text.hexDigit k ≠ '=' := by decide
    have hmod : Text.hexDigit m = Text.hexDigit (m % 16) := by simp [Text.hexDigit]
    have hne := hall (m % 16) (Nat.mod_lt m (by decide))
    rw [hmod]
    rcases hx with rfl | rfl
    · exact hne.1.symm
    · exact hne.2.symm
  rcases hx with rfl | rfl <;> simp [Json.unitEscape, hdigit]

/-- An escape brings no quotation mark and no sign of an assignment of its own. -/
theorem eq_of_mem_escapeChar {x c : Char} (hx : x = '"' ∨ x = '=') (h : x ∈ Json.escapeChar c) :
    x = c := by
  have hunit := not_mem_unitEscape hx
  unfold Json.escapeChar at h
  grind

theorem not_mem_escaped {x : Char} (hx : x = '"' ∨ x = '=') (h : x ∉ value.toList) :
    x ∉ value.toList.flatMap Json.escapeChar := by
  intro hmem
  obtain ⟨c, hc, hescape⟩ := List.mem_flatMap.1 hmem
  exact h (eq_of_mem_escapeChar hx hescape ▸ hc)

theorem not_runsOff_of_not_mem (hkey : key ∈ memberNames) (hvalue : '=' ∉ value.toList) :
    ¬ RunsOff [] (memberText key value) := by
  rintro ⟨passed, name, rest, htext, -⟩
  have hmem : '=' ∈ memberText key value := htext ▸ by simp
  simp only [memberText, List.mem_append] at hmem
  rcases hmem with hstart | hinner | hend
  · exact (not_mem_memberStart hkey).1 hstart
  · exact not_mem_escaped (.inr rfl) hvalue hinner
  · revert hend
    decide

/-- A credential without quotation marks is concealable if no assignment runs off. -/
theorem concealable_of_not_mem (hkey : key ∈ memberNames) (hvalue : value ≠ "")
    (hquote : '"' ∉ value.toList) (hstays : ¬ RunsOff [] (memberText key value)) :
    Concealable key value := by
  refine ⟨hstays, Nat.le_antisymm ?_ ?_⟩
  · refine (count_quote_replaceAll_le _).trans (Nat.le_of_eq ?_)
    rw [memberText, count_quote_member hkey,
      List.count_eq_zero.2 (not_mem_escaped (.inl rfl) hquote)]
  · obtain ⟨inner, hne, hassigned⟩ :=
      exists_replaceAll_assignmentRule hkey (escaped_ne_nil hvalue) hstays
    obtain ⟨inner', -, haddress⟩ := exists_replaceAll_addressRule hkey hne
    rw [memberText, hassigned, haddress, count_quote_member hkey]
    exact Nat.le_add_left 4 _

/-! ### What is shown -/

/-- What the standard masker shows of a map with one credential that is written as
JSON. -/
def shownMember (key value : String) : Except Fault String := do
  let text ← Json.print .line (.dict [(.text key, .text value)])
  standard.maskString text

theorem shownMember_eq (hkey : key ∈ memberNames) (value : String) : shownMember key value =
    .ok (String.ofList (bearerRule.replaceAll (memberRule.replaceAll (addressRule.replaceAll
      (assignmentRule.replaceAll (memberText key value)))))) := by
  rw [shownMember, print_member hkey]
  simp [bind, Except.bind, maskString, hideText, applyRules, standard, make, defaultRules]

theorem shownMember_eq_concealed_iff (hkey : key ∈ memberNames) (hvalue : value ≠ "") :
    shownMember key value = .ok (String.ofList (concealed key)) ↔ Concealable key value := by
  rw [← replaceAll_memberText_iff hkey hvalue, shownMember_eq hkey, Except.ok.injEq,
    String.ofList_inj]

/-- A credential shows nothing but a mask exactly if it is concealable, and such a
credential shows the same as another one exactly if that one is concealable too. -/
theorem shownMember_eq_iff {value' : String} (hkey : key ∈ ["password", "secret", "token"])
    (hvalue : value ≠ "") (hvalue' : value' ≠ "") :
    (shownMember key value = .ok (String.ofList (concealed key)) ↔ Concealable key value) ∧
      (Concealable key value →
        (shownMember key value = shownMember key value' ↔ Concealable key value')) := by
  refine ⟨shownMember_eq_concealed_iff hkey hvalue, fun hconcealable => ?_⟩
  have hshown := (shownMember_eq_concealed_iff hkey hvalue).2 hconcealable
  rw [hshown, eq_comm, shownMember_eq_concealed_iff hkey hvalue']

/-- A secret with a quotation mark in an assignment that a blank ends shows the same as
an ordinary one. -/
theorem shownMember_eq_swordfish : "token=a\"b c" ≠ "" ∧ "swordfish" ≠ "" ∧
    Concealable "password" "token=a\"b c" ∧
    shownMember "password" "token=a\"b c" = .ok (String.ofList (concealed "password")) ∧
    shownMember "password" "token=a\"b c" = shownMember "password" "swordfish" := by
  have hkey : "password" ∈ memberNames := List.mem_cons_self
  have hne : "token=a\"b c" ≠ "" ∧ "swordfish" ≠ "" := by simp
  have hlast : (assignmentRule.rewrite [] (memberText "password" "token=a\"b c")).getLast? ≠
      some '*' := by decide +kernel
  have htoken : Concealable "password" "token=a\"b c" :=
    ⟨fun hoff => hlast (getLast?_of_runsOff hoff), by decide +kernel⟩
  have hswordfish : Concealable "password" "swordfish" :=
    concealable_of_not_mem hkey hne.2 (by simp) (not_runsOff_of_not_mem hkey (by simp))
  obtain ⟨hshown, hsame⟩ := shownMember_eq_iff hkey hne.1 hne.2
  exact ⟨hne.1, hne.2, htoken, hshown.2 htoken, (hsame htoken).2 hswordfish⟩

/-- A quotation mark inside of a secret ends what the member rule takes, and an
assignment in a secret takes the quotation mark that the member rule looks for. -/
theorem not_shownMember_eq : shownMember "password" "x" ≠ shownMember "password" "a\"b" ∧
    shownMember "password" "x" ≠ shownMember "password" "hunter2 token=a" := by
  have hkey : "password" ∈ memberNames := List.mem_cons_self
  have hx : shownMember "password" "x" = .ok (String.ofList (concealed "password")) :=
    (shownMember_eq_concealed_iff hkey (by simp)).2 (concealable_of_not_mem hkey (by simp) (by simp)
      (not_runsOff_of_not_mem hkey (by simp)))
  have hquote : ¬ Concealable "password" "a\"b" := fun h => by
    have hcount : (addressRule.replaceAll (assignmentRule.replaceAll
        (memberText "password" "a\"b"))).count '"' ≠ 4 := by decide +kernel
    exact hcount h.quotes
  have hassign : ¬ Concealable "password" "hunter2 token=a" := fun h => by
    have hspelled : "token".toList ∈ someSpelling .ignored assignedNames :=
      ⟨"token", by decide, List.forall₂_same.2 fun c _ => by simp [LetterCase.same]⟩
    have hvalue : "a\"\x7d".toList ∈ fullRuns assignedSet.holds := by
      refine ⟨by simp, fun c hc => ?_⟩
      have hchars : c = 'a' ∨ c = '"' ∨ c = '\x7d' := by simpa using hc
      rcases hchars with rfl | rfl | rfl <;> decide
    refine h.stays ⟨"\x7b\"password\": \"hunter2 ".toList, "token".toList, "a\"\x7d".toList,
      ?_, by decide +kernel, hspelled, hvalue⟩
    simp [memberText, memberStart, memberKey, memberEnd, Json.escapeChar]
  constructor
  · rw [hx]
    exact fun h => hquote ((shownMember_eq_concealed_iff hkey (by simp)).1 h.symm)
  · rw [hx]
    exact fun h => hassign ((shownMember_eq_concealed_iff hkey (by simp)).1 h.symm)

end QueryTelemetry.Log.Masker
