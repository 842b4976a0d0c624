import QueryTelemetry.Log.Masker
import QueryTelemetry.Proofs.Pattern.Reading
import QueryTelemetry.Proofs.Pattern.Rewriting
import QueryTelemetry.Proofs.Text.Marks

/-!
# What the default rules of a masker take

Each default rule takes pieces of one form and writes the same piece with the mask
in it.  Two rules take a value up to the first character that cannot be in it: an
assignment to a secret name (`Masker.takes_assignmentRule_iff`) and a bearer token
(`Masker.takes_bearerRule_iff`).  Two take a value between an opening and a mark,
in an address and in JSON text (`Pattern.takes_enclosed_iff`).
-/

namespace QueryTelemetry

open Text (LetterCase IsMark)

/-! ## Values -/

theorem Rule.match?_eq_first (rule : Rule) (before rest : List Char) :
    rule.match? false before rest = rule.pattern.first (.start before rest) some := by
  simp [match?]

namespace Pattern

variable {chars : CharSet} {front : Pattern} {F : Language Char} {mark : Char} {m : String}
  {rule : Rule} {before rest piece after written : List Char} {t : Cursor}

theorem Reads.markChar (hmark : IsMark mark) : (Pattern.char .ignored mark).Reads {[mark]} := by
  have hletters : letters (fun x => LetterCase.ignored.same mark x) = {[mark]} := by
    ext w
    simp only [letters, LetterCase.same_mark_iff hmark, exists_eq_left]
    rfl
  exact hletters ▸ Reads.char mark

theorem Reads.markWord {text : String} (h : ∀ c ∈ text.toList, IsMark c) :
    (Pattern.word .ignored text).Reads {text.toList} := by
  have hspell : ∀ w : List Char, (∀ c ∈ w, IsMark c) → spellings .ignored w = {w} := by
    intro w hw
    induction w with
    | nil => exact spellings_nil _
    | cons c w ih =>
      ext x
      constructor
      · intro hx
        obtain ⟨d, rest, hsame, hrest, rfl⟩ := List.forall₂_cons_left_iff.1 hx
        obtain rfl := (LetterCase.same_mark_iff (hw c List.mem_cons_self)).1 hsame
        have hrest : rest ∈ spellings .ignored w := hrest
        rw [ih fun c hc => hw c (List.mem_cons_of_mem _ hc)] at hrest
        exact congrArg (d :: ·) hrest
      · rintro rfl
        exact List.forall₂_same.2 fun c _ => by simp [LetterCase.same]
  exact hspell _ h ▸ Reads.word .ignored text

/-- Whether a text does not begin in a set. -/
def Stops (chars : CharSet) (after : List Char) : Prop :=
  ∀ c, after.head? = some c → chars.holds c = false

/-- A run at the end of a pattern goes as far as it can. -/
theorem first_oneOrMore_some_iff {s : Cursor} :
    (oneOrMore true (set chars)).first s some = some t ↔ ∃ run after, s.rest = run ++ after ∧
      run ∈ fullRuns chars.holds ∧ Stops chars after ∧ s.past run after = t := by
  have hstops : ∀ run after, Stops chars after ↔ ¬ GoesOn chars (s.past run after) := by
    intro run after
    simp [Stops, GoesOn, Cursor.past]
  rw [first_oneOrMore_iff (.inl fun _ => rfl)]
  constructor
  · rintro ⟨hgoes, h⟩
    obtain ⟨run, after, hrest, hrun, hstop, hfarthest⟩ := exists_farthest chars s
    rw [hfarthest] at h
    exact ⟨run, after, hrest, ⟨(goesOn_iff hrest hrun hstop).1 hgoes, hrun⟩,
      (hstops run after).2 hstop, Option.some.inj h⟩
  · rintro ⟨run, after, hrest, ⟨hne, hrun⟩, hafter, rfl⟩
    have hstop := (hstops run after).1 hafter
    exact ⟨(goesOn_iff hrest hrun hstop).2 hne, congrArg some (farthest_eq_past hrest hrun hstop)⟩

/-- A value in some characters between an opening and a mark. -/
structure Encloses (rule : Rule) (front : Pattern) (chars : CharSet) (mark : Char) (m : String) :
    Prop where
  pattern : rule.pattern = sequence (group 1 front)
    (sequence (oneOrMore true (set chars)) (group 2 (Pattern.char .ignored mark)))
  replacement : rule.replacement = [.group 1, .plain m, .group 2]

theorem match?_enclosed_iff (hrule : Encloses rule front chars mark m) (hfront : front.Reads F)
    (hmark : IsMark mark) (hout : chars.holds mark = false) :
    rule.match? false before rest = some t ↔ ∃ opening value after,
      rest = opening ++ (value ++ ([mark] ++ after)) ∧ opening ∈ F ∧ value ∈ fullRuns chars.holds ∧
        (((Cursor.start before rest).keeping 1 opening (value ++ ([mark] ++ after))).past value
          ([mark] ++ after)).keeping 2 [mark] after = t := by
  have hchar := Reads.markChar hmark
  have hbegin : BeginOutside {[mark]} chars := fun w hw => ⟨mark, [], hw, hout⟩
  rw [Rule.match?_eq_first, hrule.pattern, first, first_group_iff hfront rfl]
  constructor
  · rintro ⟨opening, rest', hrest, hopening, h⟩
    rw [first, first_oneOrMore_iff (hchar.settles_group hbegin 2 some)] at h
    obtain ⟨hgoes, h⟩ := h
    obtain ⟨value, after', hvalue, hrun, hstop, hfarthest⟩ := exists_farthest chars
      ((Cursor.start before rest).keeping 1 opening rest')
    have hne := (goesOn_iff hvalue hrun hstop).1 hgoes
    rw [hfarthest, first_group_iff hchar rfl] at h
    obtain ⟨_, after, hafter, rfl, h⟩ := h
    obtain rfl : rest' = value ++ after' := hvalue
    obtain rfl : after' = [mark] ++ after := hafter
    exact ⟨opening, value, after, hrest, hopening, ⟨hne, hrun⟩, Option.some.inj h⟩
  · rintro ⟨opening, value, after, hrest, hopening, ⟨hne, hrun⟩, h⟩
    refine ⟨opening, value ++ ([mark] ++ after), hrest, hopening, ?_⟩
    obtain ⟨hfarthest, hstop⟩ := farthest_eq_past_of_mem
      (s := (Cursor.start before rest).keeping 1 opening (value ++ ([mark] ++ after)))
      hbegin rfl hrun (Set.mem_singleton [mark])
    rw [first, first_oneOrMore_iff (hchar.settles_group hbegin 2 some), hfarthest,
      first_group_iff hchar rfl]
    exact ⟨(goesOn_iff rfl hrun hstop).2 hne, [mark], after, rfl, rfl, congrArg some h⟩

theorem takes_enclosed_iff (hrule : Encloses rule front chars mark m) (hfront : front.Reads F)
    (hmark : IsMark mark) (hout : chars.holds mark = false) :
    rule.Takes before piece after written ↔ ∃ opening value,
      opening ∈ F ∧ value ∈ fullRuns chars.holds ∧ piece = opening ++ (value ++ [mark]) ∧
        written = opening ++ (m.toList ++ [mark]) := by
  have hexpand : ∀ s t : Cursor, rule.replacement.expand s t =
      t.group 1 ++ (m.toList ++ t.group 2) := by
    intro s t
    simp [hrule.replacement, Replacement.expand]
  constructor
  · rintro ⟨t, hmatch, hrest, hwritten⟩
    obtain ⟨opening, value, after', hboth, hopening, hvalue, rfl⟩ :=
      (match?_enclosed_iff hrule hfront hmark hout).1 hmatch
    obtain rfl : after' = after := hrest
    rw [hexpand] at hwritten
    have hpiece : piece = opening ++ (value ++ [mark]) := by
      rw [← List.append_assoc, ← List.append_assoc] at hboth
      exact (List.append_cancel_right hboth).trans (List.append_assoc ..)
    exact ⟨opening, value, hopening, hvalue, hpiece, by simpa using hwritten.symm⟩
  · rintro ⟨opening, value, hopening, hvalue, rfl, rfl⟩
    refine ⟨_, (match?_enclosed_iff hrule hfront hmark hout).2
      ⟨opening, value, after, by simp, hopening, hvalue, rfl⟩, rfl, ?_⟩
    rw [hexpand]
    simp

end Pattern

/-! ## The default rules -/

namespace Log.Masker

open Pattern

variable {before piece after written : List Char}

/-- The names of secrets in assignments. -/
def assignedNames : List String := ["password", "secret", "api_key", "token"]

/-- The names of secrets in JSON text. -/
def memberNames : List String := ["password", "secret", "token"]

/-- Whether two words begin with letters of which no character is both. -/
def initialsApart (w w' : String) : Bool :=
  match w.toList.head?, w'.toList.head? with
  | some a, some b =>
    decide (LetterCase.Alone a ∨ LetterCase.Alone b) && !LetterCase.ignored.same a b
  | _, _ => false

theorem beginApart_of_initialsApart {w w' : String} (h : initialsApart w w' = true) :
    BeginApart .ignored w w' := by
  rw [initialsApart] at h
  split at h
  · next a b ha hb =>
    simp only [Bool.and_eq_true, decide_eq_true_eq, Bool.not_eq_true'] at h
    exact ⟨a, b, ha, hb, fun c => LetterCase.same_apart h.1 h.2⟩
  · cases h

theorem assignedNames_apart : assignedNames.Pairwise (BeginApart .ignored) := by
  have hinitials : assignedNames.Pairwise (initialsApart · ·) := by decide +kernel
  exact hinitials.imp beginApart_of_initialsApart

theorem memberNames_apart : memberNames.Pairwise (BeginApart .ignored) :=
  assignedNames_apart.sublist (by decide)

/-- The characters of an assigned value: neither blanks nor signs between
assignments. -/
def assignedSet : CharSet where
  negated := true
  items := [.one '&', .one ';', blankItem]
  letters := .ignored

theorem match?_assignmentRule_iff {t : Cursor} {rest : List Char} :
    assignmentRule.match? false before rest = some t ↔ ∃ name value after,
      rest = name ++ ('=' :: (value ++ after)) ∧
        (Cursor.start before rest).holds (.boundary false false) = true ∧
        name ∈ someSpelling .ignored assignedNames ∧ value ∈ fullRuns assignedSet.holds ∧
        Stops assignedSet after ∧ (((Cursor.start before rest).keeping 1 name
          ('=' :: (value ++ after))).past ('=' :: value) after) = t := by
  have hnames := Reads.oneOf_word (by decide) assignedNames_apart
  have hpattern : assignmentRule.pattern = sequence (anchor (.boundary false false))
      (sequence (group 1 (oneOf (assignedNames.map (Pattern.word .ignored))))
        (sequence (Pattern.char .ignored '=') (oneOrMore true (set assignedSet)))) := rfl
  have hsign : IsMark '=' := by decide
  rw [Rule.match?_eq_first, hpattern, first, first, Option.ite_none_right_eq_some, first,
    first_group_iff hnames rfl]
  constructor
  · rintro ⟨hstart, name, rest', hrest, hname, h⟩
    rw [first, Reads.markChar hsign] at h
    obtain ⟨_, rest'', hsign, rfl, h⟩ := h
    obtain ⟨value, after, hvalue, hrun, hstops, rfl⟩ := first_oneOrMore_some_iff.1 h
    obtain rfl : rest' = ['='] ++ rest'' := hsign
    obtain rfl : rest'' = value ++ after := hvalue
    exact ⟨name, value, after, hrest, hstart, hname, hrun, hstops, by rw [Cursor.past_past]; rfl⟩
  · rintro ⟨name, value, after, hrest, hstart, hname, hrun, hstops, rfl⟩
    refine ⟨hstart, name, _, hrest, hname, ?_⟩
    rw [first, Reads.markChar hsign]
    refine ⟨['='], value ++ after, rfl, rfl, ?_⟩
    refine first_oneOrMore_some_iff.2 ⟨value, after, rfl, hrun, hstops, ?_⟩
    rw [Cursor.past_past]
    rfl

/-- The assignment rule takes an assignment to the name of a secret at the start of
a word, up to the next blank or sign between assignments. -/
theorem takes_assignmentRule_iff : assignmentRule.Takes before piece after written ↔
    ∃ name value, piece = name ++ '=' :: value ∧
      (Cursor.start before (piece ++ after)).holds (.boundary false false) = true ∧
      name ∈ someSpelling .ignored assignedNames ∧ value ∈ fullRuns assignedSet.holds ∧
      Stops assignedSet after ∧ written = name ++ '=' :: maskText.toList := by
  have hexpand : ∀ s t : Cursor, assignmentRule.replacement.expand s t =
      t.group 1 ++ '=' :: maskText.toList := by
    intro s t
    simp [assignmentRule, Replacement.expand, String.toList_append]
  constructor
  · rintro ⟨t, hmatch, hrest, hwritten⟩
    obtain ⟨name, value, after', hboth, hstart, hname, hvalue, hstops, rfl⟩ :=
      match?_assignmentRule_iff.1 hmatch
    obtain rfl : after' = after := hrest
    rw [hexpand] at hwritten
    have hpiece : piece = name ++ '=' :: value := by
      rw [← List.cons_append, ← List.append_assoc] at hboth
      exact List.append_cancel_right hboth
    exact ⟨name, value, hpiece, hstart, hname, hvalue, hstops, by simpa using hwritten.symm⟩
  · rintro ⟨name, value, rfl, hstart, hname, hvalue, hstops, rfl⟩
    refine ⟨_, match?_assignmentRule_iff.2
      ⟨name, value, after, by simp, hstart, hname, hvalue, hstops, rfl⟩, rfl, ?_⟩
    rw [hexpand]
    simp

/-! ### Addresses and JSON text -/

/-- The characters of the user in an address. -/
def userSet : CharSet where
  negated := true
  items := [.one ':', .one '/', .one '@', blankItem]
  letters := .ignored

/-- The characters of the password in an address. -/
def addressSet : CharSet where
  negated := true
  items := [.one '@', blankItem]
  letters := .ignored

/-- The characters of a value in JSON text. -/
def memberSet : CharSet where
  negated := true
  items := [.one '"']
  letters := .ignored

/-- Blanks. -/
def blankSet : CharSet where
  negated := false
  items := [blankItem]
  letters := .ignored

/-- What stands before the password in an address. -/
def addressOpening : Language Char := {"://".toList} * (fullRuns userSet.holds * {[':']})

/-- What stands before the value of a secret in JSON text. -/
def memberOpening : Language Char :=
  {['"']} * (someSpelling .ignored memberNames * ({['"']} * (runs blankSet.holds * ({[':']} *
    (runs blankSet.holds * {['"']})))))

/-- The address rule takes a password between the colon and the sign before the host. -/
theorem takes_addressRule_iff : addressRule.Takes before piece after written ↔
    ∃ opening value, opening ∈ addressOpening ∧ value ∈ fullRuns addressSet.holds ∧
      piece = opening ++ (value ++ ['@']) ∧ written = opening ++ (maskText.toList ++ ['@']) := by
  have hopening : (inOrder [word "://", oneOrMore true (set userSet), char ':']).Reads
      addressOpening := by
    refine (Reads.markWord (by simp [IsMark])).sequence ?_
    exact (Reads.markChar (by decide)).runBefore fun w hw => ⟨':', [], hw, by decide⟩
  exact takes_enclosed_iff ⟨rfl, rfl⟩ hopening (by decide) (by decide)

/-- The member rule takes a value between quotation marks behind the name of a secret. -/
theorem takes_memberRule_iff : memberRule.Takes before piece after written ↔
    ∃ opening value, opening ∈ memberOpening ∧ value ∈ fullRuns memberSet.holds ∧
      piece = opening ++ (value ++ ['"']) ∧ written = opening ++ (maskText.toList ++ ['"']) := by
  have hquote := Reads.markChar (show IsMark '"' by decide)
  have hcolon' := Reads.markChar (show IsMark ':' by decide)
  have hvalue : (sequence (many true (set blankSet)) (Pattern.char .ignored '"')).Reads
      (runs blankSet.holds * {['"']}) := hquote.manyBefore fun w hw => ⟨'"', [], hw, by decide⟩
  have hcolon : BeginOutside ({[':']} * (runs blankSet.holds * {['"']})) blankSet := by
    intro w hw
    obtain ⟨_, rfl, rest, -, rfl⟩ := Language.mem_mul.1 hw
    exact ⟨':', rest, rfl, by decide⟩
  have hnames := Reads.oneOf_word (by decide) memberNames_apart
  exact takes_enclosed_iff ⟨rfl, rfl⟩ (hquote.sequence (hnames.sequence (hquote.sequence
    ((hcolon'.sequence hvalue).manyBefore hcolon)))) (by decide) (by decide)

/-! ### Bearer tokens -/

/-- The characters of a bearer token. -/
def tokenSet : CharSet where
  negated := false
  items := [.range 'A' 'Z', .range 'a' 'z', .range '0' '9', .one '.', .one '_', .one '~', .one '+',
    .one '/', .one '=', .one '-']
  letters := .ignored

/-- What stands before a bearer token. -/
def bearerOpening : Language Char :=
  spellings .ignored "Bearer".toList * fullRuns blankSet.holds

theorem tokenSet_holds_of_isBlank {c : Char} (h : blankSet.holds c = true) :
    tokenSet.holds c = false := by
  have hall : ∀ n ∈ Text.blanks, tokenSet.holds (Char.ofNat n) = false := by decide +kernel
  have hblank : Text.isBlank c = true := by
    simpa [CharSet.holds, CharItem.holds, CharKind.holds, blankSet, blankItem] using h
  rw [← Char.ofNat_toNat c]
  exact hall _ (Text.mem_blanks_of_isBlank hblank)

theorem match?_bearerRule_iff {t : Cursor} {rest : List Char} :
    bearerRule.match? false before rest = some t ↔ ∃ opening token after,
      rest = opening ++ (token ++ after) ∧ opening ∈ bearerOpening ∧
        token ∈ fullRuns tokenSet.holds ∧ Stops tokenSet after ∧
        ((Cursor.start before rest).keeping 1 opening (token ++ after)).past token after = t := by
  have hword := Reads.word .ignored "Bearer"
  have hpattern : bearerRule.pattern =
      sequence (group 1 (sequence (Pattern.word .ignored "Bearer") (oneOrMore true (set blankSet))))
        (oneOrMore true (set tokenSet)) := rfl
  -- a token does not begin with a blank, so the blanks before it go as far as they can
  have hsettles : ∀ s, Settles (fun u => (oneOrMore true (set tokenSet)).first
      (Cursor.capture 1 s u) some) blankSet := by
    refine fun s => .inr fun u ⟨c, hhead, hblank⟩ => ?_
    refine Option.eq_none_iff_forall_ne_some.2 fun t ht => ?_
    obtain ⟨⟨d, hhead', htoken⟩, -⟩ := (first_oneOrMore_iff (.inl fun _ => rfl) _).1 ht
    obtain rfl : c = d := Option.some.inj (hhead.symm.trans hhead')
    cases htoken.symm.trans (tokenSet_holds_of_isBlank hblank)
  rw [Rule.match?_eq_first, hpattern, first, first, Cursor.enter_of_fresh rfl, first, hword]
  constructor
  · rintro ⟨spelled, rest', hrest, hspelled, h⟩
    obtain ⟨hgoes, h⟩ := (first_oneOrMore_iff (hsettles _) _).1 h
    obtain ⟨blanks, after', hblanks, hrun, hstop, hfarthest⟩ := exists_farthest blankSet
      ((Cursor.start before rest).past spelled rest')
    obtain rfl : rest' = blanks ++ after' := hblanks
    have hopening : spelled ++ blanks ∈ bearerOpening := Language.append_mem_mul hspelled
      ⟨(goesOn_iff rfl hrun hstop).1 hgoes, hrun⟩
    have hrest : rest = (spelled ++ blanks) ++ after' := hrest.trans (List.append_assoc ..).symm
    rw [hfarthest, Cursor.past_past, Cursor.capture_past hrest] at h
    obtain ⟨token, after, htoken, hmem, hstops, rfl⟩ := first_oneOrMore_some_iff.1 h
    obtain rfl : after' = token ++ after := htoken
    exact ⟨spelled ++ blanks, token, after, hrest, hopening, hmem, hstops, rfl⟩
  · rintro ⟨opening, token, after, hrest, hopening, hmem, hstops, rfl⟩
    obtain ⟨spelled, hspelled, blanks, ⟨hne, hrun⟩, rfl⟩ := Language.mem_mul.1 hopening
    refine ⟨spelled, blanks ++ (token ++ after), hrest.trans (List.append_assoc ..), hspelled, ?_⟩
    have hstop : ¬ GoesOn blankSet (((Cursor.start before rest).past spelled
        (blanks ++ (token ++ after))).past blanks (token ++ after)) := by
      rintro ⟨c, hhead, hblank⟩
      obtain ⟨d, token, rfl⟩ := List.exists_cons_of_ne_nil hmem.1
      obtain rfl : d = c := Option.some.inj hhead
      cases (hmem.2 d List.mem_cons_self).symm.trans (tokenSet_holds_of_isBlank hblank)
    refine (first_oneOrMore_iff (hsettles _) _).2 ⟨(goesOn_iff rfl hrun hstop).2 hne, ?_⟩
    rw [farthest_eq_past rfl hrun hstop, Cursor.past_past, Cursor.capture_past hrest]
    exact first_oneOrMore_some_iff.2 ⟨token, after, rfl, hmem, hstops, rfl⟩

/-- The bearer rule takes the word and a token behind blanks, as long as the token goes
on. -/
theorem takes_bearerRule_iff : bearerRule.Takes before piece after written ↔
    ∃ opening token, opening ∈ bearerOpening ∧ token ∈ fullRuns tokenSet.holds ∧
      Stops tokenSet after ∧ piece = opening ++ token ∧
        written = opening ++ maskText.toList := by
  have hexpand : ∀ s t : Cursor, bearerRule.replacement.expand s t =
      t.group 1 ++ maskText.toList := by
    intro s t
    simp [bearerRule, Replacement.expand]
  constructor
  · rintro ⟨t, hmatch, hrest, hwritten⟩
    obtain ⟨opening, token, after', hboth, hopening, htoken, hstops, rfl⟩ :=
      match?_bearerRule_iff.1 hmatch
    obtain rfl : after' = after := hrest
    rw [hexpand] at hwritten
    have hpiece : piece = opening ++ token := by
      rw [← List.append_assoc] at hboth
      exact List.append_cancel_right hboth
    exact ⟨opening, token, hopening, htoken, hstops, hpiece, by simpa using hwritten.symm⟩
  · rintro ⟨opening, token, hopening, htoken, hstops, rfl, rfl⟩
    refine ⟨_, match?_bearerRule_iff.2
      ⟨opening, token, after, by simp, hopening, htoken, hstops, rfl⟩, rfl, ?_⟩
    rw [hexpand]
    simp

end Log.Masker

end QueryTelemetry
