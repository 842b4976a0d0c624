import Mathlib.Computability.Language
import Mathlib.Data.List.TakeWhile
import QueryTelemetry.Pattern.Progress

/-!
# What a pattern reads

A pattern reads a language if its matches pass exactly the words of the language,
and if there is never more than one way to go on (`Pattern.Reads`).  Such patterns
can be put together: one after the other they read the product of their languages.

A greedy run over a set of characters has many ways.  It goes as far as it can if
whatever follows it takes any place, and also if whatever follows it cannot begin
with a character of the set (`Pattern.first_oneOrMore`).  In the second case the run
and what follows it read a language together (`Reads.runBefore`).
-/

namespace QueryTelemetry

open Text (LetterCase)

/-! ## Places behind a piece of text -/

namespace Cursor

/-- The place behind a piece of text, with the text that is left. -/
def past (s : Cursor) (piece after : List Char) : Cursor :=
  { s with before := piece.reverse ++ s.before, rest := after, passed := s.passed + piece.length }

/-- The place behind a piece of text that is kept as a group. -/
def keeping (s : Cursor) (number : Nat) (piece after : List Char) : Cursor :=
  { s.past piece after with
    groups := Assoc.put s.groups number { text := piece, stop := s.passed + piece.length } }

theorem past_nil {s : Cursor} {after : List Char} (h : s.rest = after) : s.past [] after = s := by
  subst h
  rfl

theorem past_past (s : Cursor) (p after q after' : List Char) :
    (s.past p after).past q after' = s.past (p ++ q) after' := by
  simp [past, Nat.add_assoc]

theorem capture_past {s : Cursor} {piece after : List Char} (h : s.rest = piece ++ after)
    (number : Nat) : capture number s (s.past piece after) = s.keeping number piece after := by
  have htext : s.rest.take (s.passed + piece.length - s.passed) = piece := by
    rw [h, Nat.add_sub_cancel_left, List.take_left]
  simp only [capture, keeping, past, htext]

theorem enter_of_fresh {s : Cursor} {number : Nat} (h : Assoc.get? s.groups number = none) :
    s.enter number = s := by
  rw [enter, h]

@[simp]
theorem group_past (s : Cursor) (piece after : List Char) (number : Nat) :
    (s.past piece after).group number = s.group number := rfl

@[simp]
theorem group_keeping (s : Cursor) (number number' : Nat) (piece after : List Char) :
    (s.keeping number piece after).group number' =
      if number' = number then piece else s.group number' := by
  simp only [group, group?, keeping, Assoc.get?_put, beq_iff_eq]
  split <;> rfl

@[simp]
theorem group_capture_zero (s t : Cursor) {number : Nat} (h : number ≠ 0) :
    (capture 0 s t).group number = t.group number := by
  simp only [group, group?, capture, Assoc.get?_put, beq_iff_eq, if_neg h]

end Cursor

/-! ## Languages of patterns -/

/-- The words of one character of some kind. -/
def letters (wanted : Char → Bool) : Language Char := {w | ∃ c, wanted c = true ∧ w = [c]}

/-- The words of characters of some kind. -/
def runs (wanted : Char → Bool) : Language Char := {w | ∀ c ∈ w, wanted c = true}

/-- The words of characters of some kind, but for the empty one. -/
def fullRuns (wanted : Char → Bool) : Language Char := {w | w ≠ [] ∧ ∀ c ∈ w, wanted c = true}

/-- The ways to write a word when letters are compared in some way. -/
def spellings (cased : LetterCase) (w : List Char) : Language Char :=
  {x | List.Forall₂ (fun a b => cased.same a b = true) w x}

theorem spellings_nil (cased : LetterCase) : spellings cased [] = 1 := by
  ext x
  exact List.forall₂_nil_left_iff.trans (Language.mem_one x).symm

theorem spellings_cons (cased : LetterCase) (c : Char) (w : List Char) :
    spellings cased (c :: w) = letters (fun x => cased.same c x) * spellings cased w := by
  ext x
  constructor
  · intro hx
    obtain ⟨d, rest, hsame, hrest, rfl⟩ := List.forall₂_cons_left_iff.1 hx
    exact Language.append_mem_mul (a := [d]) ⟨d, hsame, rfl⟩ hrest
  · intro hx
    obtain ⟨_, ⟨d, hsame, rfl⟩, rest, hrest, rfl⟩ := Language.mem_mul.1 hx
    exact .cons hsame hrest

/-- Every character of a spelling is the same as a character of the word. -/
theorem exists_same_of_mem_spellings {cased : LetterCase} {w x : List Char} {c : Char}
    (hx : x ∈ spellings cased w) (hc : c ∈ x) : ∃ a ∈ w, cased.same a c = true := by
  induction hx with
  | nil => cases hc
  | @cons a b w x hsame hrest ih =>
    rcases List.mem_cons.1 hc with rfl | hc
    · exact ⟨a, List.mem_cons_self, hsame⟩
    · obtain ⟨a', ha', hsame'⟩ := ih hc
      exact ⟨a', List.mem_cons_of_mem _ ha', hsame'⟩

/-- The ways to write one of some words. -/
def someSpelling (cased : LetterCase) (words : List String) : Language Char :=
  {x | ∃ w ∈ words, x ∈ spellings cased w.toList}

theorem someSpelling_singleton (cased : LetterCase) (w : String) :
    someSpelling cased [w] = spellings cased w.toList := by
  ext x
  constructor
  · rintro ⟨w', hw', hx⟩
    exact List.mem_singleton.1 hw' ▸ hx
  · exact fun hx => ⟨w, List.mem_singleton_self w, hx⟩

theorem someSpelling_cons (cased : LetterCase) (w : String) (words : List String) :
    someSpelling cased (w :: words) = spellings cased w.toList + someSpelling cased words := by
  ext x
  constructor
  · rintro ⟨w', hw', hx⟩
    rcases List.mem_cons.1 hw' with rfl | hw'
    · exact .inl hx
    · exact .inr ⟨w', hw', hx⟩
  · rintro (hx | ⟨w', hw', hx⟩)
    · exact ⟨w, List.mem_cons_self, hx⟩
    · exact ⟨w', List.mem_cons_of_mem _ hw', hx⟩

/-- No character begins both words. -/
def BeginApart (cased : LetterCase) (w w' : String) : Prop :=
  ∃ a b, w.toList.head? = some a ∧ w'.toList.head? = some b ∧
    ∀ c, cased.same a c = true → cased.same b c = false

theorem BeginApart.not_mem_spellings {cased : LetterCase} {w w' : String}
    (h : BeginApart cased w w') {x y after after' : List Char} (hboth : x ++ after = y ++ after')
    (hx : x ∈ spellings cased w.toList) : y ∉ spellings cased w'.toList := by
  intro hy
  obtain ⟨a, b, ha, hb, hapart⟩ := h
  obtain ⟨wrest, hw⟩ := List.head?_eq_some_iff.1 ha
  obtain ⟨wrest', hw'⟩ := List.head?_eq_some_iff.1 hb
  rw [hw] at hx
  rw [hw'] at hy
  obtain ⟨c, xrest, hxc, -, rfl⟩ := List.forall₂_cons_left_iff.1 hx
  obtain ⟨d, yrest, hyd, -, rfl⟩ := List.forall₂_cons_left_iff.1 hy
  obtain rfl : c = d := (List.cons.inj hboth).1
  cases (hapart c hxc).symm.trans hyd

namespace Pattern

variable {p q : Pattern} {chars : CharSet} {cased : LetterCase} {L M : Language Char}
  {s t : Cursor} {next : Cursor → Option Cursor}

/-- A pattern passes the words of a language, in one way each. -/
def Reads (p : Pattern) (L : Language Char) : Prop :=
  ∀ s next t, p.first s next = some t ↔
    ∃ piece after, s.rest = piece ++ after ∧ piece ∈ L ∧ next (s.past piece after) = some t

theorem Reads.empty : Pattern.empty.Reads 1 := by
  intro s next t
  rw [first]
  constructor
  · intro h
    exact ⟨[], s.rest, rfl, Language.nil_mem_one, by rwa [Cursor.past_nil rfl]⟩
  · rintro ⟨piece, after, hrest, hpiece, h⟩
    obtain rfl := (Language.mem_one _).1 hpiece
    rwa [Cursor.past_nil (by simpa using hrest)] at h

theorem Reads.set (chars : CharSet) : (Pattern.set chars).Reads (letters chars.holds) := by
  intro s next t
  rw [first, Cursor.step?]
  constructor
  · intro h
    obtain ⟨u, hu, h⟩ := Option.bind_eq_some_iff.1 h
    split at hu
    · next c rest hrest =>
      obtain ⟨hholds, hu⟩ := Option.ite_none_right_eq_some.1 hu
      obtain rfl := Option.some.inj hu
      exact ⟨[c], rest, hrest, ⟨c, hholds, rfl⟩, h⟩
    · cases hu
  · rintro ⟨piece, after, hrest, ⟨c, hholds, rfl⟩, h⟩
    simp only [hrest, List.singleton_append, hholds, if_true, Option.bind_some]
    exact h

theorem Reads.char (c : Char) :
    (Pattern.char cased c).Reads (letters fun x => cased.same c x) := by
  have hset : ({ negated := false, items := [.one c], letters := cased } : CharSet).holds =
      fun x => cased.same c x := by
    funext x
    simp [CharSet.holds, CharItem.holds]
  rw [Pattern.char, ← hset]
  exact Reads.set _

theorem Reads.sequence (hp : p.Reads L) (hq : q.Reads M) :
    (Pattern.sequence p q).Reads (L * M) := by
  intro s next t
  rw [first, hp]
  constructor
  · rintro ⟨piece, after, hrest, hpiece, h⟩
    obtain ⟨piece', after', hafter, hpiece', h⟩ := (hq _ _ _).1 h
    obtain rfl : after = piece' ++ after' := hafter
    refine ⟨piece ++ piece', after', by rw [hrest, List.append_assoc],
      Language.append_mem_mul hpiece hpiece', ?_⟩
    rwa [Cursor.past_past] at h
  · rintro ⟨both, after', hrest, hboth, h⟩
    obtain ⟨piece, hpiece, piece', hpiece', rfl⟩ := Language.mem_mul.1 hboth
    refine ⟨piece, piece' ++ after', by rw [hrest, List.append_assoc], hpiece, ?_⟩
    refine (hq _ _ _).2 ⟨piece', after', rfl, hpiece', ?_⟩
    rwa [Cursor.past_past]

/-- A pattern reads either of two languages if no text begins with words of both. -/
theorem Reads.either (hp : p.Reads L) (hq : q.Reads M)
    (hapart : ∀ x y after after', x ++ after = y ++ after' → x ∈ L → y ∉ M) :
    (Pattern.either p q).Reads (L + M) := by
  intro s next t
  have hcases : (Pattern.either p q).first s next = some t ↔
      p.first s next = some t ∨ q.first s next = some t := by
    rw [first]
    cases hfirst : p.first s next with
    | none => simp
    | some u =>
      simp only [Option.some.injEq]
      refine ⟨.inl, Or.rec id fun hsecond => ?_⟩
      obtain ⟨x, after, hrest, hx, -⟩ := (hp _ _ _).1 hfirst
      obtain ⟨y, after', hrest', hy, -⟩ := (hq _ _ _).1 hsecond
      exact absurd hy (hapart x y after after' (hrest.symm.trans hrest') hx)
  rw [hcases, hp, hq]
  constructor
  · rintro (⟨piece, after, hrest, hpiece, h⟩ | ⟨piece, after, hrest, hpiece, h⟩)
    · exact ⟨piece, after, hrest, .inl hpiece, h⟩
    · exact ⟨piece, after, hrest, .inr hpiece, h⟩
  · rintro ⟨piece, after, hrest, hpiece | hpiece, h⟩
    · exact .inl ⟨piece, after, hrest, hpiece, h⟩
    · exact .inr ⟨piece, after, hrest, hpiece, h⟩

theorem Reads.inOrder_char (cased : LetterCase) (w : List Char) :
    (inOrder (w.map (Pattern.char cased))).Reads (spellings cased w) := by
  induction w with
  | nil =>
    rw [spellings_nil]
    exact Reads.empty
  | cons c w ih =>
    rw [spellings_cons]
    cases w with
    | nil =>
      rw [spellings_nil, mul_one]
      exact Reads.char c
    | cons d w => exact (Reads.char c).sequence ih

theorem Reads.word (cased : LetterCase) (text : String) :
    (Pattern.word cased text).Reads (spellings cased text.toList) :=
  Reads.inOrder_char cased text.toList

/-- A pattern of some words reads each of them, if no character begins two of them. -/
theorem Reads.oneOf_word {words : List String} (hne : words ≠ [])
    (hapart : words.Pairwise (BeginApart cased)) :
    (oneOf (words.map (Pattern.word cased))).Reads (someSpelling cased words) := by
  induction words with
  | nil => exact absurd rfl hne
  | cons w words ih =>
    obtain ⟨hw, hwords⟩ := List.pairwise_cons.1 hapart
    cases words with
    | nil =>
      rw [someSpelling_singleton]
      exact Reads.word cased w
    | cons w' words =>
      rw [someSpelling_cons]
      refine (Reads.word cased w).either (ih (by simp) hwords) ?_
      rintro x y after after' hboth hx ⟨w'', hmem, hy⟩
      exact (hw w'' hmem).not_mem_spellings hboth hx hy

/-! ## Runs -/

/-- Whether the characters of a set go on at a place. -/
def GoesOn (chars : CharSet) (u : Cursor) : Prop :=
  ∃ c, u.rest.head? = some c ∧ chars.holds c = true

/-- What follows a run settles how far it goes: it takes any place, or it takes no
place where the run could go on. -/
def Settles (next : Cursor → Option Cursor) (chars : CharSet) : Prop :=
  (∀ u, (next u).isSome = true) ∨ ∀ u, GoesOn chars u → next u = none

/-- The place behind as many characters of a set as there are. -/
def farthest (chars : CharSet) (s : Cursor) : Cursor :=
  s.past (s.rest.takeWhile chars.holds) (s.rest.dropWhile chars.holds)

/-- The rounds of a run go as far as they can first. -/
theorem uptoRounds_set (chars : CharSet) {rounds : Nat} {s : Cursor} (h : s.rest.length ≤ rounds) :
    ∃ nearer, uptoRounds (Pattern.set chars).ways true rounds s = farthest chars s :: nearer ∧
      ∀ u ∈ nearer, GoesOn chars u := by
  induction rounds generalizing s with
  | zero =>
    have hrest : s.rest = [] := List.length_eq_zero_iff.1 (Nat.le_zero.1 h)
    refine ⟨[], ?_, by simp⟩
    simp [uptoRounds, farthest, hrest, Cursor.past_nil hrest]
  | succ rounds ih =>
    obtain ⟨before, rest, passed, groups⟩ := s
    cases rest with
    | nil => exact ⟨[], rfl, by simp⟩
    | cons c rest =>
      by_cases hc : chars.holds c = true
      · obtain ⟨nearer, hways, hnearer⟩ :=
          ih (s := { before := c :: before, rest, passed := passed + 1, groups })
            (Nat.le_of_succ_le_succ h)
        refine ⟨nearer ++ [{ before, rest := c :: rest, passed, groups }], ?_, ?_⟩
        · have hfarthest : farthest chars { before, rest := c :: rest, passed, groups } =
              farthest chars { before := c :: before, rest, passed := passed + 1, groups } := by
            simp [farthest, hc, Cursor.past, Nat.add_assoc, Nat.add_comm]
          rw [hfarthest, ← List.cons_append, ← hways]
          simp [uptoRounds, ways, Cursor.step?, hc]
        · intro u hu
          rcases List.mem_append.1 hu with hu | hu
          · exact hnearer u hu
          · obtain rfl := List.mem_singleton.1 hu
            exact ⟨c, rfl, hc⟩
      · refine ⟨[], ?_, by simp⟩
        simp [uptoRounds, ways, Cursor.step?, hc, farthest, Cursor.past_nil]

/-- The search behind a run finds what it finds at the farthest place. -/
theorem findSome?_run (hnext : Settles next chars) {nearer : List Cursor}
    (hnearer : ∀ u ∈ nearer, GoesOn chars u) (u : Cursor) :
    (u :: nearer).findSome? next = next u := by
  rw [List.findSome?_cons]
  cases hu : next u with
  | some t => rfl
  | none =>
    rcases hnext with htakes | hshuns
    · exact absurd (htakes u) (by simp [hu])
    · exact List.findSome?_eq_none_iff.2 fun u hmem => hshuns u (hnearer u hmem)

theorem first_many (hnext : Settles next chars) (s : Cursor) :
    (Pattern.many true (.set chars)).first s next = next (farthest chars s) := by
  obtain ⟨nearer, hways, hnearer⟩ := uptoRounds_set chars (s := s) (Nat.le_succ _)
  have hall : (Pattern.many true (.set chars)).ways s = farthest chars s :: nearer := by
    rw [many, ways, afterRounds, List.flatMap_singleton, ← hways]
    rfl
  rw [first_eq_findSome?, hall, findSome?_run hnext hnearer]

theorem first_oneOrMore_iff (hnext : Settles next chars) (s : Cursor) :
    (Pattern.oneOrMore true (.set chars)).first s next = some t ↔
      GoesOn chars s ∧ next (farthest chars s) = some t := by
  have hways : (Pattern.oneOrMore true (.set chars)).ways s =
      ((Pattern.set chars).ways s).flatMap fun u =>
        uptoRounds (Pattern.set chars).ways true (u.rest.length + 1) u := by
    simp only [oneOrMore, ways, afterRounds, List.flatMap_assoc, List.flatMap_singleton]
    rfl
  obtain ⟨before, rest, passed, groups⟩ := s
  rw [first_eq_findSome?, hways]
  cases rest with
  | nil => simp [ways, Cursor.step?, GoesOn]
  | cons c rest =>
    by_cases hc : chars.holds c = true
    · obtain ⟨nearer, hupto, hnearer⟩ := uptoRounds_set chars
        (s := { before := c :: before, rest, passed := passed + 1, groups }) (Nat.le_succ _)
      have hfarthest : farthest chars { before, rest := c :: rest, passed, groups } =
          farthest chars { before := c :: before, rest, passed := passed + 1, groups } := by
        simp [farthest, hc, Cursor.past, Nat.add_assoc, Nat.add_comm]
      have hgoes : GoesOn chars { before, rest := c :: rest, passed, groups } := ⟨c, rfl, hc⟩
      have hstep : (Pattern.set chars).ways { before, rest := c :: rest, passed, groups } =
          [{ before := c :: before, rest, passed := passed + 1, groups }] := by
        simp [ways, Cursor.step?, hc]
      rw [hstep, List.flatMap_singleton, hupto, findSome?_run hnext hnearer, hfarthest]
      exact (and_iff_right hgoes).symm
    · simp [ways, Cursor.step?, GoesOn, hc]

/-- The farthest place is behind a run that does not go on. -/
theorem farthest_eq_past {run after : List Char} (hrest : s.rest = run ++ after)
    (hrun : run ∈ runs chars.holds) (hafter : ¬ GoesOn chars (s.past run after)) :
    farthest chars s = s.past run after := by
  have hhead : after.takeWhile chars.holds = [] ∧ after.dropWhile chars.holds = after := by
    cases after with
    | nil => exact ⟨rfl, rfl⟩
    | cons c after =>
      have hc : ¬ chars.holds c = true := fun hc => hafter ⟨c, rfl, hc⟩
      simp [hc]
  rw [farthest, hrest, List.takeWhile_append_of_pos hrun, List.dropWhile_append_of_pos hrun,
    hhead.1, hhead.2, List.append_nil]

theorem exists_farthest (chars : CharSet) (s : Cursor) : ∃ run after, s.rest = run ++ after ∧
    run ∈ runs chars.holds ∧ ¬ GoesOn chars (s.past run after) ∧
      farthest chars s = s.past run after := by
  refine ⟨_, _, (List.takeWhile_append_dropWhile (p := chars.holds)).symm,
    fun c hc => List.mem_takeWhile_imp hc, ?_, rfl⟩
  rintro ⟨c, hhead, hc⟩
  have hstop := List.head?_dropWhile_not chars.holds s.rest
  have hhead : (s.rest.dropWhile chars.holds).head? = some c := hhead
  rw [hhead] at hstop
  cases hc.symm.trans hstop

/-- A run goes on where it begins if it is not empty. -/
theorem goesOn_iff {run after : List Char} (hrest : s.rest = run ++ after)
    (hrun : run ∈ runs chars.holds) (hafter : ¬ GoesOn chars (s.past run after)) :
    GoesOn chars s ↔ run ≠ [] := by
  cases run with
  | nil => simpa [Cursor.past_nil (s := s) (by simpa using hrest)] using hafter
  | cons c run => exact iff_of_true ⟨c, by rw [hrest]; rfl, hrun c List.mem_cons_self⟩ (by simp)

/-- The words of a language are not empty and begin outside of a set. -/
def BeginOutside (M : Language Char) (chars : CharSet) : Prop :=
  ∀ w ∈ M, ∃ c rest, w = c :: rest ∧ chars.holds c = false

/-- What begins outside of a set has no match where the set goes on. -/
theorem Reads.first_eq_none (hq : q.Reads M) (hM : BeginOutside M chars) (hs : GoesOn chars s)
    (next : Cursor → Option Cursor) : q.first s next = none := by
  refine Option.eq_none_iff_forall_ne_some.2 fun t ht => ?_
  obtain ⟨c, hhead, hc⟩ := hs
  obtain ⟨piece, after, hrest, hpiece, -⟩ := (hq _ _ _).1 ht
  obtain ⟨d, rest, rfl, hd⟩ := hM piece hpiece
  rw [hrest] at hhead
  obtain rfl : d = c := Option.some.inj hhead
  cases hc.symm.trans hd

theorem Reads.settles (hq : q.Reads M) (hM : BeginOutside M chars) (next : Cursor → Option Cursor) :
    Settles (fun u => q.first u next) chars :=
  .inr fun _ hu => hq.first_eq_none hM hu next

/-- A group begins where its body begins. -/
theorem Reads.settles_group (hq : q.Reads M) (hM : BeginOutside M chars) (number : Nat)
    (next : Cursor → Option Cursor) :
    Settles (fun u => (Pattern.group number q).first u next) chars := by
  refine .inr fun u ⟨c, hhead, hc⟩ => ?_
  exact hq.first_eq_none hM ⟨c, by rw [Cursor.rest_enter, hhead], hc⟩ _

/-- Where a run ends if what follows it begins outside of its set. -/
theorem farthest_eq_past_of_mem {run w after : List Char} (hM : BeginOutside M chars)
    (hrest : s.rest = run ++ (w ++ after)) (hrun : run ∈ runs chars.holds) (hw : w ∈ M) :
    farthest chars s = s.past run (w ++ after) ∧ ¬ GoesOn chars (s.past run (w ++ after)) := by
  have hstop : ¬ GoesOn chars (s.past run (w ++ after)) := by
    obtain ⟨c, rest, rfl, hc⟩ := hM w hw
    rintro ⟨d, hhead, hd⟩
    obtain rfl : c = d := Option.some.inj hhead
    cases hd.symm.trans hc
  exact ⟨farthest_eq_past hrest hrun hstop, hstop⟩

/-- Any number of characters of a set, and then a word that does not begin in it. -/
theorem Reads.manyBefore (hq : q.Reads M) (hM : BeginOutside M chars) :
    (Pattern.sequence (Pattern.many true (.set chars)) q).Reads (runs chars.holds * M) := by
  intro s next t
  rw [first, first_many (hq.settles hM next), hq]
  constructor
  · rintro ⟨piece, after, hpiece, hmem, h⟩
    obtain ⟨run, rest, hrest, hrun, -, hfarthest⟩ := exists_farthest chars s
    rw [hfarthest] at hpiece h
    obtain rfl : rest = piece ++ after := hpiece
    rw [Cursor.past_past] at h
    exact ⟨run ++ piece, after, by rw [hrest, List.append_assoc],
      Language.append_mem_mul hrun hmem, h⟩
  · rintro ⟨both, after, hrest, hboth, h⟩
    obtain ⟨run, hrun, w, hw, rfl⟩ := Language.mem_mul.1 hboth
    rw [List.append_assoc] at hrest
    rw [(farthest_eq_past_of_mem hM hrest hrun hw).1]
    exact ⟨w, after, rfl, hw, by rwa [Cursor.past_past]⟩

/-- A run over a set, and then a word that does not begin in it. -/
theorem Reads.runBefore (hq : q.Reads M) (hM : BeginOutside M chars) :
    (Pattern.sequence (Pattern.oneOrMore true (.set chars)) q).Reads
      (fullRuns chars.holds * M) := by
  intro s next t
  rw [first, first_oneOrMore_iff (hq.settles hM next), hq]
  constructor
  · rintro ⟨hgoes, piece, after, hpiece, hmem, h⟩
    obtain ⟨run, rest, hrest, hrun, hstop, hfarthest⟩ := exists_farthest chars s
    have hne := (goesOn_iff hrest hrun hstop).1 hgoes
    rw [hfarthest] at hpiece h
    obtain rfl : rest = piece ++ after := hpiece
    rw [Cursor.past_past] at h
    exact ⟨run ++ piece, after, by rw [hrest, List.append_assoc],
      Language.append_mem_mul ⟨hne, hrun⟩ hmem, h⟩
  · rintro ⟨both, after, hrest, hboth, h⟩
    obtain ⟨run, ⟨hne, hrun⟩, w, hw, rfl⟩ := Language.mem_mul.1 hboth
    rw [List.append_assoc] at hrest
    obtain ⟨hfarthest, hstop⟩ := farthest_eq_past_of_mem hM hrest hrun hw
    refine ⟨(goesOn_iff hrest hrun hstop).2 hne, ?_⟩
    rw [hfarthest]
    exact ⟨w, after, rfl, hw, by rwa [Cursor.past_past]⟩

/-! ## Groups -/

/-- A group keeps the word that its body reads. -/
theorem first_group_iff (hp : p.Reads L) {number : Nat}
    (hfresh : Assoc.get? s.groups number = none) :
    (Pattern.group number p).first s next = some t ↔
      ∃ piece after, s.rest = piece ++ after ∧ piece ∈ L ∧
        next (s.keeping number piece after) = some t := by
  rw [first, Cursor.enter_of_fresh hfresh, hp]
  refine exists_congr fun piece => exists_congr fun after => and_congr_right fun hrest => ?_
  rw [Cursor.capture_past hrest]

end Pattern

end QueryTelemetry
