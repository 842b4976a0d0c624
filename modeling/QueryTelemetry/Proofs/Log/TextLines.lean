import Mathlib.Tactic.Choose
import QueryTelemetry.Proofs.Log.Offers
import QueryTelemetry.Proofs.Text.Decimals
import QueryTelemetry.Proofs.Text.Lines

/-!
# Lines of text

A line of text shows the name of the logger, the message, the fields and the fault of
a record as they are.  So a line break in any of them is one in the line, and nothing
else makes one (`Record.exists_textLine`).  An open stream gets the lines of the
records that pass its level, one after the other.  They are the lines of what is
written exactly if none of those records brings a line break
(`Handler.text_stream_lines`).
-/

namespace QueryTelemetry.Log

open Text (HasLineBreak hasLineBreak_append)

/-! ## What never has a line break -/

theorem not_hasLineBreak_padded (width n : Nat) : ¬ HasLineBreak (padded width n) := by
  refine Text.not_hasLineBreak_iff.2 fun c hc => Text.isLineBreak_of_printable ?_
  have hdigit : c.isDigit = true := by
    rw [padded, String.toList_ofList] at hc
    rcases List.mem_append.1 hc with hc | hc
    · rw [List.eq_of_mem_replicate hc]
      rfl
    · exact Text.isDigit_of_mem_toDigits hc
  have hbounds := Text.toNat_of_isDigit hdigit
  omega

theorem not_hasLineBreak_render (t : Timestamp) : ¬ HasLineBreak t.render := by
  have hmarks : ¬ HasLineBreak "-" ∧ ¬ HasLineBreak "T" ∧ ¬ HasLineBreak ":" ∧ ¬ HasLineBreak "." ∧
      ¬ HasLineBreak "+00:00" ∧ ¬ HasLineBreak "" := by decide
  unfold Timestamp.render
  by_cases h : t.microsecond = 0
  · simp [h, hasLineBreak_append, not_hasLineBreak_padded, hmarks]
  · simp [h, hasLineBreak_append, not_hasLineBreak_padded, hmarks]

theorem not_hasLineBreak_name (l : Level) : ¬ HasLineBreak l.name := by
  cases l <;> decide

/-! ## The line of a record -/

/-- A field whose name or text has a line break. -/
def BreaksField (e : String × Value) : Prop :=
  HasLineBreak e.1 ∨ ∃ shown, e.2.toText = .ok shown ∧ HasLineBreak shown

namespace Record

/-- A record that brings a line break into its line. -/
def BreaksLine (withFields : Bool) (r : Record) : Prop :=
  HasLineBreak r.logger ∨ HasLineBreak r.message ∨
    (withFields = true ∧ ∃ e ∈ r.fields, BreaksField e) ∨
    ∃ v shown, r.exc = some v ∧ v.describe = .ok shown ∧ HasLineBreak shown

/-- A record whose parts all have a text. -/
structure HasText (withFields : Bool) (r : Record) : Prop where
  fields : withFields = true → ∀ e ∈ r.fields, ∃ shown, e.2.toText = .ok shown
  exc : ∀ v, r.exc = some v → ∃ shown, v.describe = .ok shown

end Record

theorem exists_parts {fields : Fields} (h : ∀ e ∈ fields, ∃ shown, e.2.toText = .ok shown) :
    ∃ parts, (fields.mapM fun e => do
        let shown ← e.2.toText
        .ok (e.1 ++ "=" ++ shown) : Except Fault (List String)) = .ok parts ∧
      ((∃ s ∈ parts, HasLineBreak s) ↔ ∃ e ∈ fields, BreaksField e) := by
  induction fields with
  | nil => exact ⟨[], rfl, by simp⟩
  | cons e fields ih =>
    obtain ⟨shown, hshown⟩ := h e List.mem_cons_self
    obtain ⟨parts, hparts, hiff⟩ := ih fun e he => h e (List.mem_cons_of_mem _ he)
    have hfirst : HasLineBreak (e.1 ++ "=" ++ shown) ↔ BreaksField e := by
      have hequals : ¬ HasLineBreak "=" := by decide
      simp [hasLineBreak_append, BreaksField, hshown, hequals]
    refine ⟨(e.1 ++ "=" ++ shown) :: parts, ?_, ?_⟩
    · rw [List.mapM_cons, hparts, hshown]
      rfl
    · simp only [List.mem_cons, exists_eq_or_imp, hfirst, hiff]

theorem exists_keyValues {fields : Fields} (h : ∀ e ∈ fields, ∃ shown, e.2.toText = .ok shown) :
    ∃ s, keyValues fields = .ok s ∧ (HasLineBreak s ↔ ∃ e ∈ fields, BreaksField e) := by
  obtain ⟨parts, hparts, hiff⟩ := exists_parts h
  have hblank : ¬ HasLineBreak " " := by decide
  refine ⟨String.intercalate " " parts, ?_, ?_⟩
  · unfold keyValues
    rw [hparts]
    rfl
  · exact (Text.hasLineBreak_intercalate hblank parts).trans hiff

namespace Record

variable {withFields : Bool} {r : Record}

theorem exists_fieldsPart (h : r.HasText withFields) :
    ∃ s, (if withFields then Format.fieldsPart r else .ok "") = .ok s ∧
      (HasLineBreak s ↔ withFields = true ∧ ∃ e ∈ r.fields, BreaksField e) := by
  cases withFields with
  | false => exact ⟨"", rfl, by simp [Text.not_hasLineBreak_empty]⟩
  | true =>
    rw [if_pos rfl, Format.fieldsPart]
    split
    · next hempty =>
      refine ⟨"", rfl, ?_⟩
      simp [List.isEmpty_iff.1 hempty, Text.not_hasLineBreak_empty]
    · obtain ⟨s, hs, hiff⟩ := exists_keyValues (h.fields rfl)
      have hbar : ¬ HasLineBreak " | " := by decide
      refine ⟨" | " ++ s, ?_, ?_⟩
      · rw [hs]
        rfl
      · simp [hasLineBreak_append, hbar, hiff]

theorem exists_excPart (h : r.HasText withFields) :
    ∃ s, Format.excPart r = .ok s ∧
      (HasLineBreak s ↔ ∃ v shown, r.exc = some v ∧ v.describe = .ok shown ∧
        HasLineBreak shown) := by
  unfold Format.excPart
  cases hexc : r.exc with
  | none => exact ⟨"", rfl, by simp [Text.not_hasLineBreak_empty]⟩
  | some v =>
    obtain ⟨shown, hshown⟩ := h.exc v hexc
    have hbar : ¬ HasLineBreak " | exception=" := by decide
    refine ⟨" | exception=" ++ shown, ?_, ?_⟩
    · simp only [hshown]
      rfl
    · simp [hasLineBreak_append, hbar, hshown]

theorem textLine_eq (withFields : Bool) (r : Record) :
    Format.textLine withFields r =
      (if withFields then Format.fieldsPart r else .ok "") >>= fun fields =>
      Format.excPart r >>= fun exc =>
      .ok (r.timestamp.render ++ " [" ++ r.level.name ++ "] " ++ r.logger ++ ": " ++ r.message ++
        fields ++ exc) := by
  cases withFields <;> rfl

/-- A record whose parts have a text has a line, which has a line break exactly if the
record brings one. -/
theorem exists_textLine (h : r.HasText withFields) :
    ∃ line, Format.textLine withFields r = .ok line ∧
      (HasLineBreak line ↔ r.BreaksLine withFields) := by
  obtain ⟨fields, hfields, hfieldsBreak⟩ := exists_fieldsPart h
  obtain ⟨exc, hexc, hexcBreak⟩ := exists_excPart h
  have hmarks : ¬ HasLineBreak " [" ∧ ¬ HasLineBreak "] " ∧ ¬ HasLineBreak ": " := by decide
  refine ⟨r.timestamp.render ++ " [" ++ r.level.name ++ "] " ++ r.logger ++ ": " ++ r.message ++
    fields ++ exc, ?_, ?_⟩
  · rw [textLine_eq, hfields, hexc]
    rfl
  · simp only [hasLineBreak_append, not_hasLineBreak_render, not_hasLineBreak_name, hmarks,
      hfieldsBreak, hexcBreak, false_or, or_false, or_assoc, BreaksLine]

end Record

/-! ## Streams -/

namespace Sink

/-- A sink after some lines, and what left through it. -/
def writeAll (sink : Sink) : List String → Sink × List Emission
  | [] => (sink, [])
  | line :: lines =>
    let (next, out) := sink.write line
    let (last, more) := next.writeAll lines
    (last, out ++ more)

theorem writeAll_memory (t : String) (lines : List String) :
    (memory t).writeAll lines = (memory (t ++ String.join lines), []) := by
  induction lines generalizing t with
  | nil => simp [writeAll]
  | cons line lines ih =>
    rw [writeAll, write]
    simp only [ih]
    simp [String.append_assoc]

theorem writeAll_errorStream (lines : List String) :
    errorStream.writeAll lines = (errorStream, lines.map .errorStream) := by
  induction lines with
  | nil => rfl
  | cons line lines ih =>
    rw [writeAll, write]
    simp only [ih]
    rfl

end Sink

namespace Handler

/-- A handler after some records, and what left through it. -/
def handleAll (h : Handler) : List Record → Except Fault (Handler × List Emission)
  | [] => .ok (h, [])
  | r :: records => do
    let (h, out) ← h.handle r
    let (h, more) ← h.handleAll records
    .ok (h, out ++ more)

theorem handleAll_cons {h h' h'' : Handler} {r : Record} {records : List Record}
    {out more : List Emission} (hfirst : h.handle r = .ok (h', out))
    (hothers : h'.handleAll records = .ok (h'', more)) :
    h.handleAll (r :: records) = .ok (h'', out ++ more) := by
  rw [handleAll, hfirst]
  show (h'.handleAll records >>= fun _ => _) = _
  rw [hothers]
  rfl

/-- A stream writes the lines of the records that pass its level, in order, and nothing
else. -/
theorem handleAll_stream {format : Format} {least : Level} {line : Record → String}
    {records : List Record}
    (hline : ∀ r ∈ records, least.passes r.level = true → format.render r = .ok (line r))
    (sink : Sink) :
    let lines := (records.filter fun r => least.passes r.level).map fun r => line r ++ "\n"
    (stream sink format least false).handleAll records =
      .ok (stream (sink.writeAll lines).1 format least false, (sink.writeAll lines).2) := by
  -- Each record finds the sink as the records before it have left it.
  induction records generalizing sink with
  | nil => rfl
  | cons r records ih =>
    have hothers := ih fun r hr => hline r (List.mem_cons_of_mem _ hr)
    cases hpasses : least.passes r.level with
    | false =>
      rw [List.filter_cons, if_neg (by simp [hpasses])]
      exact handleAll_cons (handle_of_not_passes hpasses) (hothers sink)
    | true =>
      rw [List.filter_cons, if_pos hpasses, List.map_cons]
      exact handleAll_cons (handle_of_render hpasses (hline r List.mem_cons_self hpasses))
        (hothers _)

/-- Records written through an open stream of text lines.  The stream gets the lines of
those that pass its level, in order, each with its end.  What it gets has these lines and
no others exactly if none of those records brings a line break: in the name of its
logger, its message, the name or the text of a field where fields are shown, or the
description of its fault. -/
theorem text_stream_lines {withFields : Bool} {least : Level} {records : List Record}
    (h : ∀ r ∈ records, least.passes r.level = true → r.HasText withFields) (t : String) :
    ∃ line : Record → String,
      (∀ r ∈ records, least.passes r.level = true → Format.textLine withFields r = .ok (line r) ∧
        (HasLineBreak (line r) ↔ r.BreaksLine withFields)) ∧
      let lines := (records.filter fun r => least.passes r.level).map line
      (stream (.memory t) (.text withFields) least false).handleAll records =
        .ok (stream (.memory (t ++ Text.unlines lines)) (.text withFields) least false, []) ∧
      (stream .errorStream (.text withFields) least false).handleAll records =
        .ok (stream .errorStream (.text withFields) least false,
          lines.map fun s => .errorStream (s ++ "\n")) ∧
      (Text.lines (Text.unlines lines) = lines ↔
        ∀ r ∈ records, least.passes r.level = true → ¬ r.BreaksLine withFields) := by
  have hline : ∀ r : Record, ∃ line, r ∈ records → least.passes r.level = true →
      Format.textLine withFields r = .ok line ∧ (HasLineBreak line ↔ r.BreaksLine withFields) := by
    intro r
    by_cases hr : r ∈ records ∧ least.passes r.level = true
    · obtain ⟨line, hline⟩ := Record.exists_textLine (h r hr.1 hr.2)
      exact ⟨line, fun _ _ => hline⟩
    · exact ⟨"", fun hmem hpasses => absurd ⟨hmem, hpasses⟩ hr⟩
  choose line hline using hline
  have hrender : ∀ r ∈ records, least.passes r.level = true →
      (Format.text withFields).render r = .ok (line r) := fun r hr hpasses => (hline r hr hpasses).1
  have hwritten := handleAll_stream hrender
  refine ⟨line, hline, ?_, ?_, ?_⟩
  · rw [hwritten, Sink.writeAll_memory, Text.unlines, List.map_map]
    rfl
  · rw [hwritten, Sink.writeAll_errorStream, List.map_map, List.map_map]
    rfl
  · rw [Text.lines_unlines_iff]
    constructor
    · intro hnone r hr hpasses hbreaks
      refine hnone (line r) ?_ ((hline r hr hpasses).2.2 hbreaks)
      exact List.mem_map_of_mem (List.mem_filter.2 ⟨hr, hpasses⟩)
    · intro hnone s hs hbreak
      obtain ⟨r, hr, rfl⟩ := List.mem_map.1 hs
      obtain ⟨hmem, hpasses⟩ := List.mem_filter.1 hr
      exact hnone r hmem hpasses ((hline r hmem hpasses).2.1 hbreak)

/-- A record of a logger, a message and fields. -/
def sample (level : Level) (message : String) (extra : Fields) : Record where
  level
  message
  logger := "t"
  timestamp := ⟨2024, 1, 15, 10, 30, 45, 123456⟩
  context := .empty
  extra
  exc := none

/-- A record that fits on its line, and one below the level of the stream that would not. -/
theorem text_stream_lines_of_two :
    let records := [sample .debug "a\nb" [], sample .info "hello" [("n", .int 1)]]
    ∃ line, (stream (.memory "") (.text true) .info false).handleAll records =
        .ok (stream (.memory (Text.unlines [line])) (.text true) .info false, []) ∧
      Text.lines (Text.unlines [line]) = [line] := by
  intro records
  have hfields : (sample .info "hello" [("n", .int 1)]).fields = [("n", .int 1)] := rfl
  have htext : ∀ r ∈ records, Level.info.passes r.level = true → r.HasText true := by
    simp only [records, List.mem_cons, List.not_mem_nil, or_false]
    rintro r (rfl | rfl) hpasses
    · cases hpasses
    · refine ⟨fun _ e he => ?_, by rintro v ⟨⟩⟩
      rw [hfields] at he
      rw [List.mem_singleton.1 he]
      exact ⟨_, rfl⟩
  have hfits : ∀ r ∈ records, Level.info.passes r.level = true → ¬ r.BreaksLine true := by
    simp only [records, List.mem_cons, List.not_mem_nil, or_false]
    rintro r (rfl | rfl) hpasses
    · cases hpasses
    · rintro (hlogger | hmessage | ⟨-, e, he, hfield⟩ | ⟨v, shown, hv, -⟩)
      · exact absurd hlogger (by decide)
      · exact absurd hmessage (by decide)
      · rw [hfields] at he
        rw [List.mem_singleton.1 he] at hfield
        rcases hfield with hname | ⟨shown, hshown, hbreak⟩
        · exact absurd hname (by decide)
        · obtain rfl : "1" = shown := Except.ok.inj hshown
          exact absurd hbreak (by decide)
      · cases hv
  obtain ⟨line, -, hmemory, -, hiff⟩ := text_stream_lines htext ""
  rw [String.empty_append] at hmemory
  exact ⟨line (sample .info "hello" [("n", .int 1)]), hmemory, hiff.2 hfits⟩

/-- A message of two lines is two lines of the stream. -/
theorem text_stream_splits_message :
    (stream (.memory "") (.text true) .debug false).handleAll [sample .info "a\nb" []] =
      .ok (stream (.memory "2024-01-15T10:30:45.123456+00:00 [INFO] t: a\nb\n") (.text true)
        .debug false, []) ∧
    Text.lines "2024-01-15T10:30:45.123456+00:00 [INFO] t: a\nb\n" =
      ["2024-01-15T10:30:45.123456+00:00 [INFO] t: a", "b"] := by
  have hline : (Format.text true).render (sample .info "a\nb" []) =
      .ok "2024-01-15T10:30:45.123456+00:00 [INFO] t: a\nb" := by rfl
  exact ⟨handleAll_cons (handle_of_render rfl hline) rfl, by decide +kernel⟩

end Handler

end QueryTelemetry.Log
