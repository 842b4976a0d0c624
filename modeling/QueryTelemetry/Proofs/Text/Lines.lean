import Mathlib.Data.List.Basic

/-!
# Lines of a text

A line ends at any of the line breaks of Unicode; a carriage return and the line feed
behind it are one end (`splitLines`).  What is written line by line comes apart into the
same lines exactly if none of them has a line break of its own (`lines_unlines_iff`).
-/

namespace QueryTelemetry.Text

/-- The code points that end a line. -/
def lineBreaks : List Nat := [10, 11, 12, 13, 28, 29, 30, 133, 8232, 8233]

/-- Whether a character ends a line. -/
def isLineBreak (c : Char) : Bool := lineBreaks.contains c.toNat

/-- A text that does not fit on one line. -/
def HasLineBreak (s : String) : Prop := ∃ c ∈ s.toList, isLineBreak c = true

instance (s : String) : Decidable (HasLineBreak s) :=
  decidable_of_iff (s.toList.any isLineBreak = true) List.any_eq_true

/-- The lines of a text, the characters before it on its first line being given, the nearest
first. -/
def splitLines (line : List Char) : List Char → List (List Char)
  | [] => if line.isEmpty then [] else [line.reverse]
  | '\r' :: '\n' :: rest => line.reverse :: splitLines [] rest
  | c :: rest =>
    if isLineBreak c then line.reverse :: splitLines [] rest else splitLines (c :: line) rest

/-- The lines of a text. -/
def lines (s : String) : List String := (splitLines [] s.toList).map String.ofList

/-- Lines as a text, each with its end. -/
def unlines (lines : List String) : String := String.join (lines.map (· ++ "\n"))

/-- Printable ASCII stays on its line. -/
theorem isLineBreak_of_printable {c : Char} (h : 32 ≤ c.toNat ∧ c.toNat < 127) :
    isLineBreak c = false := by
  refine Bool.eq_false_iff.2 fun hbreak => ?_
  simp only [isLineBreak, lineBreaks, List.contains_cons, List.contains_nil, Bool.or_false,
    Bool.or_eq_true, beq_iff_eq] at hbreak
  omega

/-! ## Texts with a line break -/

theorem not_hasLineBreak_iff {s : String} :
    ¬ HasLineBreak s ↔ ∀ c ∈ s.toList, isLineBreak c = false := by
  simp [HasLineBreak]

theorem not_hasLineBreak_empty : ¬ HasLineBreak "" := by decide

theorem hasLineBreak_append (s t : String) :
    HasLineBreak (s ++ t) ↔ HasLineBreak s ∨ HasLineBreak t := by
  simp only [HasLineBreak, String.toList_append, List.mem_append, or_and_right, exists_or]

theorem hasLineBreak_intercalate {separator : String} (hseparator : ¬ HasLineBreak separator)
    (texts : List String) :
    HasLineBreak (String.intercalate separator texts) ↔ ∃ s ∈ texts, HasLineBreak s := by
  induction texts with
  | nil => simp [not_hasLineBreak_empty]
  | cons s texts ih =>
    cases texts with
    | nil => simp
    | cons s' texts =>
      rw [String.intercalate_cons_cons, hasLineBreak_append, hasLineBreak_append, ih]
      simp [hseparator]

/-! ## Lines put together and taken apart -/

/-- No line has a line break of its own. -/
theorem isLineBreak_of_mem_splitLines {line cs l : List Char}
    (hline : ∀ c ∈ line, isLineBreak c = false) (hl : l ∈ splitLines line cs) :
    ∀ c ∈ l, isLineBreak c = false := by
  induction line, cs using splitLines.induct with
  | case1 line hempty =>
    rw [splitLines, if_pos hempty] at hl
    cases hl
  | case2 line hempty =>
    rw [splitLines, if_neg hempty] at hl
    rw [List.mem_singleton.1 hl]
    simpa using hline
  | case3 line rest ih =>
    rw [splitLines] at hl
    rcases List.mem_cons.1 hl with rfl | hl
    · simpa using hline
    · exact ih (by simp) hl
  | case4 line c rest hcr hbreak ih =>
    rw [splitLines, if_pos hbreak] at hl
    · rcases List.mem_cons.1 hl with rfl | hl
      · simpa using hline
      · exact ih (by simp) hl
    · exact hcr
  | case5 line c rest hcr hbreak ih =>
    rw [splitLines, if_neg hbreak] at hl
    · refine ih (fun d hd => ?_) hl
      rcases List.mem_cons.1 hd with rfl | hd
      · simpa using hbreak
      · exact hline d hd
    · exact hcr

theorem splitLines_newline (line rest : List Char) :
    splitLines line ('\n' :: rest) = line.reverse :: splitLines [] rest := by
  rw [splitLines, if_pos (by decide)]
  simp

theorem splitLines_cons {c : Char} (h : isLineBreak c = false) (line rest : List Char) :
    splitLines line (c :: rest) = splitLines (c :: line) rest := by
  rw [splitLines, if_neg (by simp [h])]
  rintro rest rfl -
  cases h

/-- A line without a line break goes up to its end. -/
theorem splitLines_append {cs : List Char} (h : ∀ c ∈ cs, isLineBreak c = false)
    (line rest : List Char) :
    splitLines line (cs ++ '\n' :: rest) = (line.reverse ++ cs) :: splitLines [] rest := by
  induction cs generalizing line with
  | nil => rw [List.nil_append, splitLines_newline, List.append_nil]
  | cons c cs ih =>
    rw [List.cons_append, splitLines_cons (h c List.mem_cons_self),
      ih fun d hd => h d (List.mem_cons_of_mem _ hd)]
    simp

theorem unlines_cons (s : String) (ls : List String) :
    unlines (s :: ls) = s ++ "\n" ++ unlines ls := by
  simp [unlines]

theorem lines_unlines {ls : List String} (h : ∀ s ∈ ls, ¬ HasLineBreak s) :
    lines (unlines ls) = ls := by
  induction ls with
  | nil => rfl
  | cons s ls ih =>
    have hs := not_hasLineBreak_iff.1 (h s List.mem_cons_self)
    have hchars : (unlines (s :: ls)).toList = s.toList ++ '\n' :: (unlines ls).toList := by
      simp [unlines_cons]
    have hrest := ih fun t ht => h t (List.mem_cons_of_mem _ ht)
    rw [lines] at hrest ⊢
    rw [hchars, splitLines_append hs, List.map_cons, hrest]
    simp

/-- What is written line by line comes apart into the same lines exactly if none of them has
a line break of its own. -/
theorem lines_unlines_iff {ls : List String} :
    lines (unlines ls) = ls ↔ ∀ s ∈ ls, ¬ HasLineBreak s := by
  refine ⟨fun h s hs => ?_, lines_unlines⟩
  rw [← h] at hs
  obtain ⟨l, hl, rfl⟩ := List.mem_map.1 hs
  rw [not_hasLineBreak_iff, String.toList_ofList]
  exact isLineBreak_of_mem_splitLines (by simp) hl

end QueryTelemetry.Text
