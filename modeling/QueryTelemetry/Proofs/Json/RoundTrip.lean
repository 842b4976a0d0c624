import Mathlib.Data.List.Forall2
import QueryTelemetry.Json.Printer
import QueryTelemetry.Json.Reader
import QueryTelemetry.Proofs.Json.Literals
import QueryTelemetry.Proofs.Json.Trees
import QueryTelemetry.Proofs.Text.Decimals

/-!
# JSON is read as what was written

`Denotes s v` says of a text that the reader takes it for a value and stops right behind
it, whatever comes next, with no more fuel than the text has characters.  Every leaf is
written as such a text, and between the brackets of a list or of a map such texts make
one again (`denotes_list`, `denotes_map`).  So a JSON tree is written on one line of
printable ASCII that is read as the tree (`exists_print`).
-/

namespace QueryTelemetry.Json

/-- What does not go on with a number. -/
def EndsNumber (rest : List Char) : Prop := ∀ c ∈ rest.head?, inNumber c = false

/-- A text that the reader takes for a value, whatever comes behind it, as long as it
does not go on with a number. -/
structure Denotes (s : String) (v : Value) : Prop where
  plain : ∀ c ∈ s.toList, IsPlain c
  /-- It begins neither with a blank nor with the end of a list. -/
  begins : ∃ c cs, s.toList = c :: cs ∧ c ≠ ' ' ∧ c ≠ ']'
  reads : ∀ fuel rest, s.length ≤ fuel + 1 → EndsNumber rest →
    takeValue (fuel + 1) (s.toList ++ rest) = some (v, rest)

theorem skipBlanks_space (cs : List Char) : skipBlanks (' ' :: cs) = skipBlanks cs := rfl

theorem skipBlanks_of_plain {c : Char} (h : IsPlain c) (hspace : c ≠ ' ') (cs : List Char) :
    skipBlanks (c :: cs) = c :: cs := by
  have hn : c ≠ '\n' := by rintro rfl; exact absurd h (by decide)
  have hr : c ≠ '\r' := by rintro rfl; exact absurd h (by decide)
  have ht : c ≠ '\t' := by rintro rfl; exact absurd h (by decide)
  simp [skipBlanks, hspace, hn, hr, ht]

theorem takeValue_space (fuel : Nat) (cs : List Char) :
    takeValue fuel (' ' :: cs) = takeValue fuel cs := by
  cases fuel with
  | zero => rfl
  | succ fuel => rw [takeValue, takeValue, skipBlanks_space]

/-! ## Leaves -/

theorem denotes_null : Denotes "null" .null where
  plain := plain_of_all (by decide)
  begins := ⟨'n', _, rfl, by decide, by decide⟩
  reads _ _ _ _ := rfl

theorem denotes_bool (b : Bool) : Denotes (if b then "true" else "false") (.bool b) where
  plain := plain_of_all (by cases b <;> decide)
  begins := by
    cases b
    · exact ⟨'f', _, rfl, by decide, by decide⟩
    · exact ⟨'t', _, rfl, by decide, by decide⟩
  reads _ _ _ _ := by cases b <;> rfl

theorem denotes_literal (s : String) : Denotes (literal s) (.text s) where
  plain _ := isPlain_of_mem_literal
  begins := ⟨'"', _, toList_literal s, by decide, by decide⟩
  reads fuel rest _ _ := by
    have htext : (literal s).toList ++ rest =
        '"' :: (s.toList.flatMap escapeChar ++ '"' :: rest) := by simp [toList_literal]
    rw [htext, takeValue, skipBlanks_of_plain (by decide) (by decide)]
    simp only [takeLiteral_literal]
    simp

theorem isPlain_of_inNumber {c : Char} (h : inNumber c = true) : IsPlain c := by
  simp only [inNumber, Bool.or_eq_true, beq_iff_eq] at h
  rcases h with ((((h | rfl) | rfl) | rfl) | rfl) | rfl
  · have hbounds := Text.toNat_of_isDigit h
    unfold IsPlain
    omega
  all_goals decide

theorem takeWhile_inNumber {cs rest : List Char} (hcs : ∀ c ∈ cs, inNumber c = true)
    (hrest : EndsNumber rest) : (cs ++ rest).takeWhile inNumber = cs ∧
      (cs ++ rest).dropWhile inNumber = rest := by
  have hends : rest.takeWhile inNumber = [] ∧ rest.dropWhile inNumber = rest := by
    cases rest with
    | nil => simp
    | cons c rest => simp [hrest c rfl]
  rw [List.takeWhile_append_of_pos hcs, List.dropWhile_append_of_pos hcs, hends.1, hends.2]
  simp

/-- A run of characters that is a number is read as that number. -/
theorem takeValue_number {cs rest : List Char} {v : Value} (fuel : Nat) (hne : cs ≠ [])
    (hcs : ∀ c ∈ cs, inNumber c = true) (hv : number? cs = some v) (hrest : EndsNumber rest) :
    takeValue (fuel + 1) (cs ++ rest) = some (v, rest) := by
  obtain ⟨c, cs, rfl⟩ := List.exists_cons_of_ne_nil hne
  have hc := hcs c List.mem_cons_self
  have hother : ∀ d, inNumber d = false → c ≠ d := by
    intro d hd heq
    rw [heq, hd] at hc
    cases hc
  obtain ⟨htake, hdrop⟩ := takeWhile_inNumber (fun d hd => hcs d (List.mem_cons_of_mem c hd)) hrest
  rw [List.cons_append, takeValue,
    skipBlanks_of_plain (isPlain_of_inNumber hc) (hother ' ' (by decide))]
  -- None of the signs that a value of another kind begins with can stand in a number.
  have hquote := hother '"' (by decide)
  have hbracket := hother '[' (by decide)
  have hbrace := hother '\x7b' (by decide)
  simp [hother 'n' (by decide), hother 't' (by decide), hother 'f' (by decide), htake, hdrop, hv]

theorem number?_toString (n : Int) : number? (toString n).toList = some (.int n) := by
  have hwhole : ((toString n).toList.any fun c => c == '.' || c == 'e' || c == 'E') = false := by
    rw [List.any_eq_false, Text.toList_toString_int]
    intro c hc hmark
    have hdigit : c = '-' ∨ c.isDigit = true := by
      rcases List.mem_append.1 hc with hc | hc
      · split at hc
        · exact .inl (List.mem_singleton.1 hc)
        · cases hc
      · exact .inr (Text.isDigit_of_mem_toDigits hc)
    simp only [Bool.or_eq_true, beq_iff_eq] at hmark
    rcases hmark with (rfl | rfl) | rfl <;> simp at hdigit
  unfold number?
  rw [hwhole, if_neg (by simp), Text.takeSign_toString_int]
  dsimp only
  rw [Text.takeDigits_toDigits]
  have hdigits : ((Nat.toDigits 10 n.natAbs).map (·.toNat - 48)).isEmpty = false := by
    simp [Nat.toDigits_ne_nil]
  have hvalue : (if n < 0 then -(n.natAbs : Int) else n.natAbs) = n := by
    split <;> omega
  simp only [hdigits, List.isEmpty_nil, Bool.not_true, Bool.or_false, Bool.false_eq_true, if_false,
    Text.ofDigits_toDigits, decide_eq_true_eq, hvalue]

theorem inNumber_of_mem_toString {n : Int} {c : Char} (h : c ∈ (toString n).toList) :
    inNumber c = true := by
  rw [Text.toList_toString_int] at h
  rcases List.mem_append.1 h with h | h
  · split at h
    · rw [List.mem_singleton.1 h]
      rfl
    · cases h
  · simp [inNumber, Text.isDigit_of_mem_toDigits h]

theorem toString_ne_empty (n : Int) : (toString n).toList ≠ [] := by
  rw [Text.toList_toString_int]
  simp [Nat.toDigits_ne_nil]

theorem denotes_int (n : Int) : Denotes (toString n) (.int n) where
  plain _ h := isPlain_of_inNumber (inNumber_of_mem_toString h)
  begins := by
    obtain ⟨c, cs, hcs⟩ := List.exists_cons_of_ne_nil (toString_ne_empty n)
    have hc : inNumber c = true := inNumber_of_mem_toString (hcs ▸ List.mem_cons_self)
    refine ⟨c, cs, hcs, ?_, ?_⟩ <;> rintro rfl <;> cases hc
  reads fuel rest _ hrest :=
    takeValue_number fuel (toString_ne_empty n) (fun _ => inNumber_of_mem_toString)
      (number?_toString n) hrest

/-! ## Any value -/

theorem Denotes.ne_empty {s : String} {v : Value} (h : Denotes s v) : 0 < s.length := by
  obtain ⟨c, cs, hcs, -⟩ := h.begins
  rw [← String.length_toList, hcs]
  simp

theorem Denotes.takes {s : String} {v : Value} (h : Denotes s v) {fuel : Nat} {rest : List Char}
    (hfuel : s.length ≤ fuel) (hrest : EndsNumber rest) :
    takeValue fuel (s.toList ++ rest) = some (v, rest) := by
  have hpos := h.ne_empty
  obtain ⟨fuel, rfl⟩ : ∃ n, fuel = n + 1 := ⟨fuel - 1, by omega⟩
  exact h.reads fuel rest hfuel hrest

theorem endsNumber_cons {c : Char} (h : inNumber c = false) (rest : List Char) :
    EndsNumber (c :: rest) := by
  simpa [EndsNumber] using h

/-! ## Several texts between brackets -/

theorem plain_intercalate {texts : List String}
    (h : ∀ s ∈ texts, ∀ c ∈ s.toList, IsPlain c) :
    ∀ c ∈ (String.intercalate ", " texts).toList, IsPlain c := by
  induction texts with
  | nil => simp
  | cons s texts ih =>
    have hs := h s List.mem_cons_self
    have hothers := ih fun t ht => h t (List.mem_cons_of_mem s ht)
    cases texts with
    | nil => rwa [String.intercalate_singleton]
    | cons s' texts =>
      rw [String.intercalate_cons_cons]
      intro c hc
      rw [String.toList_append, String.toList_append] at hc
      rcases List.mem_append.1 hc with hc | hc
      · rcases List.mem_append.1 hc with hc | hc
        · exact hs c hc
        · exact plain_of_all (by decide) c hc
      · exact hothers c hc

/-- What is read as a value between two signs denotes the value. -/
theorem denotes_enclosed {left right : Char} {s inner : String} {v : Value}
    (hchars : s.toList = left :: (inner.toList ++ [right])) (hleft : IsPlain left)
    (hbegins : left ≠ ' ' ∧ left ≠ ']') (hright : IsPlain right)
    (hinner : ∀ c ∈ inner.toList, IsPlain c)
    (htake : ∀ fuel rest, inner.length < fuel →
      takeValue (fuel + 1) (left :: (inner.toList ++ right :: rest)) = some (v, rest)) :
    Denotes s v where
  plain := by
    rw [hchars]
    simp only [List.mem_cons, List.mem_append, List.not_mem_nil, or_false]
    rintro c (rfl | hc | rfl)
    · exact hleft
    · exact hinner c hc
    · exact hright
  begins := ⟨left, _, hchars, hbegins⟩
  reads fuel rest hfuel _ := by
    have hlength : s.length = inner.length + 2 := by
      rw [← String.length_toList, hchars, ← String.length_toList]
      simp
    rw [hchars, List.cons_append, List.append_assoc, List.singleton_append]
    exact htake fuel rest (by omega)

/-- Several texts begin as the first of them. -/
theorem exists_intercalate_eq (s : String) (texts : List String) :
    ∃ more, (String.intercalate ", " (s :: texts)).toList = s.toList ++ more := by
  cases texts with
  | nil => exact ⟨[], by simp⟩
  | cons s' texts =>
    rw [String.intercalate_cons_cons, String.append_assoc, String.toList_append]
    exact ⟨_, rfl⟩

/-- A reader of some kind of parts, each behind a comma and a blank, reads all of them up
to the closing sign if it reads the last one and goes on behind the others. -/
theorem take_intercalate {α : Type} {part : String → α → Prop} {stop : Char}
    {take : Nat → List Char → Option (List α × List Char)}
    (last : ∀ {s a fuel rest}, part s a → s.length ≤ fuel →
      take (fuel + 1) (s.toList ++ stop :: rest) = some ([a], rest))
    (more : ∀ {s a fuel cs parts rest}, part s a → s.length ≤ fuel →
      take fuel cs = some (parts, rest) →
      take (fuel + 1) (s.toList ++ ',' :: ' ' :: cs) = some (a :: parts, rest))
    {texts : List String} {parts : List α} (h : List.Forall₂ part texts parts) (hne : texts ≠ [])
    {fuel : Nat} (hfuel : (String.intercalate ", " texts).length < fuel) (rest : List Char) :
    take fuel ((String.intercalate ", " texts).toList ++ stop :: rest) = some (parts, rest) := by
  induction h generalizing fuel with
  | nil => exact absurd rfl hne
  | @cons s a texts parts hs hothers ih =>
    obtain ⟨fuel, rfl⟩ : ∃ n, fuel = n + 1 := ⟨fuel - 1, by omega⟩
    -- The comma stands between two parts, so the last part is a case of its own.
    cases texts with
    | nil =>
      cases hothers
      rw [String.intercalate_singleton] at hfuel ⊢
      exact last hs (by omega)
    | cons s' texts =>
      have hcomma : (", " : String).length = 2 := rfl
      rw [String.intercalate_cons_cons, String.length_append, String.length_append] at hfuel
      have hshort : (String.intercalate ", " (s' :: texts)).length < fuel := by omega
      have hrest := ih (List.cons_ne_nil s' texts) hshort
      rw [String.intercalate_cons_cons, String.toList_append, String.toList_append,
        List.append_assoc, List.append_assoc]
      exact more hs (by omega) hrest

/-! ## Lists -/

theorem takeItems_space (fuel : Nat) (cs : List Char) :
    takeItems fuel (' ' :: cs) = takeItems fuel cs := by
  cases fuel with
  | zero => rfl
  | succ fuel => rw [takeItems, takeItems, takeValue_space]

section

variable {s : String} {v : Value} {fuel : Nat} {cs rest : List Char}

theorem takeItems_last (h : Denotes s v) (hfuel : s.length ≤ fuel) :
    takeItems (fuel + 1) (s.toList ++ ']' :: rest) = some ([v], rest) := by
  rw [takeItems, h.takes hfuel (endsNumber_cons (by decide) rest)]
  rfl

theorem takeItems_more {items : List Value} (h : Denotes s v) (hfuel : s.length ≤ fuel)
    (hmore : takeItems fuel cs = some (items, rest)) :
    takeItems (fuel + 1) (s.toList ++ ',' :: ' ' :: cs) = some (v :: items, rest) := by
  have hcomma : skipBlanks (',' :: ' ' :: cs) = ',' :: ' ' :: cs := rfl
  rw [takeItems, h.takes hfuel (endsNumber_cons (by decide) _)]
  simp [hcomma, takeItems_space, hmore]

end

/-- Items between the brackets of a list denote the list. -/
theorem denotes_list {texts : List String} {items : List Value}
    (h : List.Forall₂ Denotes texts items) :
    Denotes ("[" ++ String.intercalate ", " texts ++ "]") (.list items) := by
  have hplain := ((List.forall₂_and_left _ _).1 (h.imp fun _ _ hs => ⟨hs.plain, hs⟩)).1
  have hchars : ("[" ++ String.intercalate ", " texts ++ "]").toList =
      '[' :: ((String.intercalate ", " texts).toList ++ [']']) := by simp
  refine denotes_enclosed hchars (by decide) (by decide) (by decide) (plain_intercalate hplain)
    fun fuel rest hshort => ?_
  rw [takeValue, skipBlanks_of_plain (by decide) (by decide)]
  cases h with
  | nil => rfl
  | @cons s v texts items hs hmore =>
    have hitems := take_intercalate takeItems_last takeItems_more (.cons hs hmore)
      (List.cons_ne_nil s texts) hshort rest
    obtain ⟨c, cs, hcs, hspace, hend⟩ := hs.begins
    obtain ⟨more, hmore⟩ := exists_intercalate_eq s texts
    have hc : IsPlain c := hs.plain c (hcs ▸ List.mem_cons_self)
    rw [hmore, hcs, List.append_assoc, List.cons_append] at hitems ⊢
    simp [skipBlanks_of_plain hc hspace, hend, hitems]

/-! ## Maps -/

/-- A key and a value as they stand between the braces of a map. -/
def memberText (key text : String) : String := literal key ++ ": " ++ text

/-- A text is that of a member of a map. -/
def DenotesMember (s : String) (e : Value × Value) : Prop :=
  ∃ key text, s = memberText key text ∧ e.1 = .text key ∧ Denotes text e.2

theorem toList_memberText (key text : String) : (memberText key text).toList =
    '"' :: (key.toList.flatMap escapeChar ++ '"' :: ':' :: ' ' :: text.toList) := by
  simp [memberText, toList_literal]

theorem length_le_memberText (key text : String) : text.length ≤ (memberText key text).length := by
  unfold memberText
  rw [String.length_append]
  omega

theorem takeMembers_space (fuel : Nat) (cs : List Char) :
    takeMembers fuel (' ' :: cs) = takeMembers fuel cs := by
  cases fuel with
  | zero => rfl
  | succ fuel => rw [takeMembers, takeMembers, skipBlanks_space]

section

variable {s : String} {e : Value × Value} {fuel : Nat} {cs rest : List Char}

theorem takeMembers_last (h : DenotesMember s e) (hfuel : s.length ≤ fuel) :
    takeMembers (fuel + 1) (s.toList ++ '\x7d' :: rest) = some ([e], rest) := by
  obtain ⟨k, v⟩ := e
  obtain ⟨key, text, rfl, rfl, htext⟩ := h
  have hvalue := htext.takes (Nat.le_trans (length_le_memberText key text) hfuel)
    (endsNumber_cons (c := '\x7d') (by decide) rest)
  have hcolon : ∀ cs, skipBlanks (':' :: cs) = ':' :: cs := fun _ => rfl
  have hbrace : ∀ cs, skipBlanks ('\x7d' :: cs) = '\x7d' :: cs := fun _ => rfl
  rw [toList_memberText, takeMembers, List.cons_append,
    skipBlanks_of_plain (by decide) (by decide), List.append_assoc]
  simp only [List.cons_append, takeLiteral_literal]
  simp [hcolon, takeValue_space, hvalue, hbrace]

theorem takeMembers_more {entries : Entries} (h : DenotesMember s e) (hfuel : s.length ≤ fuel)
    (hmore : takeMembers fuel cs = some (entries, rest)) :
    takeMembers (fuel + 1) (s.toList ++ ',' :: ' ' :: cs) = some (e :: entries, rest) := by
  obtain ⟨k, v⟩ := e
  obtain ⟨key, text, rfl, rfl, htext⟩ := h
  have hvalue := htext.takes (Nat.le_trans (length_le_memberText key text) hfuel)
    (endsNumber_cons (c := ',') (by decide) (' ' :: cs))
  have hcolon : ∀ cs, skipBlanks (':' :: cs) = ':' :: cs := fun _ => rfl
  have hcomma : ∀ cs, skipBlanks (',' :: cs) = ',' :: cs := fun _ => rfl
  rw [toList_memberText, takeMembers, List.cons_append,
    skipBlanks_of_plain (by decide) (by decide), List.append_assoc]
  simp only [List.cons_append, takeLiteral_literal]
  simp [hcolon, takeValue_space, hvalue, hcomma, takeMembers_space, hmore]

end

theorem plain_of_denotesMember {s : String} {e : Value × Value} (h : DenotesMember s e) :
    ∀ c ∈ s.toList, IsPlain c := by
  obtain ⟨key, text, rfl, -, htext⟩ := h
  intro c hc
  rw [memberText, String.toList_append, String.toList_append] at hc
  simp only [List.mem_append] at hc
  rcases hc with (hc | hc) | hc
  · exact isPlain_of_mem_literal hc
  · exact plain_of_all (by decide) c hc
  · exact htext.plain c hc

/-- Members between the braces of a map denote the map, if no key comes twice. -/
theorem denotes_map {texts : List String} {fields : Fields}
    (hkeys : (Assoc.keys fields).Nodup)
    (h : List.Forall₂ DenotesMember texts fields.toEntries) :
    Denotes ("\x7b" ++ String.intercalate ", " texts ++ "\x7d") fields.toValue := by
  have hplain := ((List.forall₂_and_left _ _).1
    (h.imp fun _ _ hs => ⟨plain_of_denotesMember hs, hs⟩)).1
  have hchars : ("\x7b" ++ String.intercalate ", " texts ++ "\x7d").toList =
      '\x7b' :: ((String.intercalate ", " texts).toList ++ ['\x7d']) := by simp
  refine denotes_enclosed hchars (by decide) (by decide) (by decide) (plain_intercalate hplain)
    fun fuel rest hshort => ?_
  rw [takeValue, skipBlanks_of_plain (by decide) (by decide), Fields.toValue]
  -- What the reader makes of the entries is the map again.
  have hoverlay := Fields.overlay_nil_toEntries hkeys
  generalize fields.toEntries = entries at h hoverlay ⊢
  cases h with
  | nil => rfl
  | @cons s e texts entries hs hmore =>
    have hmembers := take_intercalate takeMembers_last takeMembers_more (.cons hs hmore)
      (List.cons_ne_nil s texts) hshort rest
    obtain ⟨more, hmore⟩ := exists_intercalate_eq s texts
    obtain ⟨inner, hinner⟩ : ∃ inner, s.toList = '"' :: inner := by
      obtain ⟨key, text, rfl, -, -⟩ := hs
      exact ⟨_, toList_memberText key text⟩
    rw [hmore, hinner, List.append_assoc, List.cons_append] at hmembers ⊢
    simp [skipBlanks_of_plain (c := '"') (by decide) (by decide), hmembers, hoverlay]

/-! ## Trees -/

variable {style : Style} {v : Value} {depth : Nat}

theorem container_of_line (h : style.indent = none) (depth : Nat) (left right : String)
    (items : List String) :
    style.container depth left right items = left ++ String.intercalate ", " items ++ right := by
  unfold Style.container Style.newline
  rw [h]
  cases items <;> simp

theorem exists_writeAll {items : List Value}
    (h : ∀ v ∈ items, ∃ s, Style.line.write depth v = .ok s ∧ Denotes s v) :
    ∃ texts, Style.line.writeAll depth items = .ok texts ∧ List.Forall₂ Denotes texts items := by
  induction items with
  | nil => exact ⟨[], rfl, .nil⟩
  | cons v items ih =>
    obtain ⟨s, hwrite, hs⟩ := h v List.mem_cons_self
    obtain ⟨texts, hmore, htexts⟩ := ih fun v hv => h v (List.mem_cons_of_mem _ hv)
    refine ⟨s :: texts, ?_, .cons hs htexts⟩
    rw [Style.writeAll, hwrite, hmore]
    rfl

theorem exists_members {fields : Fields}
    (h : ∀ e ∈ fields, ∃ s, Style.line.write depth e.2 = .ok s ∧ Denotes s e.2) :
    ∃ texts, members (Style.line.writeEntries depth fields.toEntries) = .ok texts ∧
      List.Forall₂ DenotesMember texts fields.toEntries := by
  induction fields with
  | nil => exact ⟨[], rfl, .nil⟩
  | cons e fields ih =>
    obtain ⟨s, hwrite, hs⟩ := h e List.mem_cons_self
    obtain ⟨texts, hmore, htexts⟩ := ih fun e he => h e (List.mem_cons_of_mem _ he)
    refine ⟨memberText e.1 s :: texts, ?_, .cons ⟨e.1, s, rfl, rfl, hs⟩ htexts⟩
    show members ((.text e.1, Style.line.write depth e.2) ::
      Style.line.writeEntries depth (Fields.toEntries fields)) = _
    rw [members, hwrite, hmore]
    rfl

/-- A tree is written as a text that denotes it. -/
theorem exists_write (h : v.IsTree) (depth : Nat) :
    ∃ s, Style.line.write depth v = .ok s ∧ Denotes s v := by
  -- The parts of a container are written one level deeper than the container.
  induction h generalizing depth with
  | null => exact ⟨_, rfl, denotes_null⟩
  | bool b => exact ⟨_, rfl, denotes_bool b⟩
  | int n hlength =>
    refine ⟨_, ?_, denotes_int n⟩
    rw [Style.write, Value.intText, if_neg (Nat.not_lt.2 hlength)]
  | text s => exact ⟨_, rfl, denotes_literal s⟩
  | list _ ih =>
    obtain ⟨texts, hwrite, htexts⟩ := exists_writeAll fun v hv => ih v hv (depth + 1)
    refine ⟨_, ?_, denotes_list htexts⟩
    rw [Style.write, hwrite]
    exact congrArg _ (container_of_line rfl depth "[" "]" texts)
  | map hkeys _ ih =>
    obtain ⟨texts, hwrite, htexts⟩ := exists_members fun e he => ih e he (depth + 1)
    refine ⟨_, ?_, denotes_map hkeys htexts⟩
    rw [Fields.toValue, Style.write, Style.object, if_neg (by decide)]
    show (members _ >>= fun _ => _) = _
    rw [hwrite]
    exact congrArg _ (container_of_line rfl depth "\x7b" "\x7d" texts)

theorem read_of_denotes {s : String} (h : Denotes s v) : read s = some v := by
  have htake := h.reads s.length [] (by omega) (by simp [EndsNumber])
  rw [List.append_nil] at htake
  rw [read, htake]
  rfl

/-- A tree is written on one line, in printable ASCII, and read again as the tree. -/
theorem exists_print (h : v.IsTree) : ∃ s, print .line v = .ok s ∧
    (∀ c ∈ s.toList, IsPlain c) ∧ read s = some v := by
  obtain ⟨s, hwrite, hs⟩ := exists_write h 0
  exact ⟨s, hwrite, hs.plain, read_of_denotes hs⟩

end QueryTelemetry.Json
