import QueryTelemetry.Text.Quoted
import QueryTelemetry.Trace.Journal

/-!
# Collected spans

The spans of one provider that have ended, in the order of their ends, and ways to look around in
them: by name, from a span to its parent, and from a span to its children.
-/

namespace QueryTelemetry.Trace

/-- The recorded spans of a provider that have ended, in the order of their ends. -/
def Journal.collected (j : Journal) (provider : String) : List Span :=
  (j.finishes.filterMap fun f => j.spans[f.entry]?).filter (·.tracer.provider == provider)

namespace Span

/-- How many of some spans have each name, in the order of the names' first use. -/
def countsByName (spans : List Span) : List (String × Nat) :=
  spans.foldl (fun counts s => Assoc.put counts s.name ((Assoc.get? counts s.name).getD 0 + 1)) []

/-- The parent of a span, if it is among some spans. -/
def parentAmong (s : Span) (spans : List Span) : Option Span :=
  s.parent.bind fun p => spans.find? (·.identity.spanId == p.spanId)

/-- The children of a span among some spans. -/
def childrenAmong (s : Span) (spans : List Span) : List Span :=
  spans.filter fun c => (c.parent.map Identity.spanId) == some s.identity.spanId

/-- The only span of a name among some spans. -/
def only (spans : List Span) (name : String) : Except Fault Span :=
  match spans.filter (·.name == name) with
  | [s] => .ok s
  | found =>
    .error (.plain .assertion ("expected one span named " ++ Text.quote name ++ ", found " ++
      toString found.length))

end Span

end QueryTelemetry.Trace
