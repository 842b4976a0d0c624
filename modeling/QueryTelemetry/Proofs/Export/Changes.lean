import Mathlib.Data.List.Induction
import QueryTelemetry.Export.Setup
import QueryTelemetry.Proofs.Fault.Steps

/-!
# Changes of the configured provider

A program changes its configured provider by configuring and by shutting down,
as often and in whatever order it likes.  `Turn` lists everything that one
change can do, and `turn_change` says that every change does one of these
things.

Nothing that a change does is taken back.  `Advances` says this of two setups: a
provider keeps its source, once it is closed it stays closed, and a source that
has stopped hands no more spans on.  So a provider that has been shut down stays
shut down (`IsShutDown.advances`), and the spans of its tracers are lost
(`IsShutDown.span_tracer`).
-/

namespace QueryTelemetry.Export

/-! ## Sources that run and sources that have stopped -/

/-- An exporter that settings ask for has taken nothing. -/
theorem Exporter.fresh_of_ofSettings {packages : Packages} {s : Settings.Tracing} {e : Exporter}
    (h : ofSettings packages s = .ok (some e)) : e.stopped = false ∧ e.taken = [] := by
  unfold ofSettings at h
  split at h
  · unfold ofCollector at h
    split at h
    · cases htimeout : s.collector.timeout.inSeconds with
      | error f =>
        rw [htimeout] at h
        cases h
      | ok timeout =>
        rw [htimeout] at h
        cases h
        exact ⟨rfl, rfl⟩
    · cases h
  · cases h
    exact ⟨rfl, rfl⟩
  · cases h
    exact ⟨rfl, rfl⟩
  · cases h

theorem Processor.stopped_flush (q : Processor) : q.flush.2.stopped = q.stopped := by
  unfold flush
  split
  · split <;> rfl
  · rfl

namespace Source

/-- A source that hands the spans that end on to its exporter. -/
def IsRunning (s : Source) : Prop :=
  ∀ q, s.processor = some q → q.stopped = false ∧ q.exporter.stopped = false

/-- A source that hands no more spans on. -/
def IsStopped (s : Source) : Prop := ∀ q, s.processor = some q → q.stopped = true

/-- A source as it is made: nothing has gone through it, and it can be flushed and
shut down. -/
structure IsFresh (s : Source) : Prop where
  flushes : s.flushFails = false
  shutsDown : s.shutdownFails = false
  processor : ∀ q, s.processor = some q →
    q.stopped = false ∧ q.waiting = [] ∧ q.exporter.stopped = false ∧ q.exporter.taken = []

theorem IsFresh.isRunning {s : Source} (h : s.IsFresh) : s.IsRunning := by
  intro q hq
  obtain ⟨hstopped, -, hexporter, -⟩ := h.processor q hq
  exact ⟨hstopped, hexporter⟩

theorem IsStopped.take {s : Source} (h : s.IsStopped) (e : Exported) : s.take e = s := by
  have hprocessor : s.processor.map (·.take e) = s.processor := by
    cases hq : s.processor with
    | none => rfl
    | some q => rw [Option.map_some, Processor.take_of_stopped (h q hq)]
  unfold Source.take mapProcessor
  rw [hprocessor]

theorem isStopped_mapProcessor_shutdown (s : Source) :
    (s.mapProcessor Processor.shutdown).IsStopped := by
  intro q hq
  obtain ⟨q', -, rfl⟩ := Option.map_eq_some_iff.1 hq
  exact q'.stopped_shutdown

/-- A source that is shut down has stopped. -/
theorem isStopped_of_shutdown {s s' : Source} (h : s.shutdown = .ok s') :
    s'.IsStopped ∧ s'.shutdownFails = s.shutdownFails := by
  unfold Source.shutdown at h
  split at h
  · cases h
  · cases h
    exact ⟨s.isStopped_mapProcessor_shutdown, rfl⟩

/-- A flush neither stops a source nor sets it going again. -/
theorem IsStopped.flush {s s' : Source} {timeout : Int} {done : Bool} (h : s.IsStopped)
    (hflush : s.flush timeout = .ok (done, s')) : s'.IsStopped := by
  unfold Source.flush at hflush
  split at hflush
  · cases hflush
  · split at hflush
    · cases hflush
      exact h
    · next q hq =>
      split at hflush
      · cases hflush
        exact h
      · obtain rfl := (Prod.mk.inj (Except.ok.inj hflush)).2
        intro q' hq'
        obtain rfl := Option.some.inj hq'
        show q.flush.2.stopped = true
        rw [Processor.stopped_flush]
        exact h q hq

theorem shutdownFails_of_flush {s s' : Source} {timeout : Int} {done : Bool}
    (hflush : s.flush timeout = .ok (done, s')) : s'.shutdownFails = s.shutdownFails := by
  unfold Source.flush at hflush
  split at hflush
  · cases hflush
  · split at hflush
    · cases hflush
      rfl
    · split at hflush <;> cases hflush <;> rfl

theorem build_of_ofSettings {packages : Packages} {host : Host} {s : Settings.Tracing}
    {given : Option Exporter} {source : Source}
    (h : ofSettings packages host s given = .ok source) :
    build packages host s given = .ok source := by
  unfold ofSettings at h
  cases hbuild : build packages host s given with
  | error f =>
    rw [hbuild] at h
    cases h
  | ok built =>
    rw [hbuild] at h
    exact h

theorem processorOf_eq_ok {s : Settings.Tracing} {e : Exporter} {q : Processor}
    (h : processorOf s e = .ok q) : q.exporter = e ∧ q.stopped = false ∧ q.waiting = [] := by
  unfold processorOf at h
  split at h
  · obtain ⟨limits, -, h⟩ := exists_of_bind_eq_ok h
    cases h
    exact ⟨rfl, rfl, rfl⟩
  · cases h
    exact ⟨rfl, rfl, rfl⟩

/-- A source that settings describe is fresh. -/
theorem isFresh_of_ofSettings {packages : Packages} {host : Host} {s : Settings.Tracing}
    {source : Source} (h : ofSettings packages host s none = .ok source) : source.IsFresh := by
  obtain ⟨resource, -, hbuild⟩ := exists_of_bind_eq_ok (build_of_ofSettings h)
  obtain ⟨chosen, hchosen, hbuild⟩ := exists_of_bind_eq_ok hbuild
  cases chosen with
  | none =>
    cases hbuild
    exact ⟨rfl, rfl, fun q hq => nomatch hq⟩
  | some e =>
    obtain ⟨q, hprocessor, hbuild⟩ := exists_of_bind_eq_ok hbuild
    cases hbuild
    obtain ⟨hopen, htaken⟩ := Exporter.fresh_of_ofSettings hchosen
    obtain ⟨rfl, hstopped, hwaiting⟩ := processorOf_eq_ok hprocessor
    refine ⟨rfl, rfl, ?_⟩
    intro q' hq'
    obtain rfl := Option.some.inj hq'
    exact ⟨hstopped, hwaiting, hopen, htaken⟩

end Source

namespace Setup

/-! ## Providers in use and providers that have been shut down -/

/-- A provider that has not been shut down and whose source runs. -/
def IsUsable (p : Setup) (i : Nat) : Prop :=
  ∃ v k s, p.providers[i]? = some v ∧ v.closed = false ∧ v.source = some k ∧
    p.sources[k]? = some s ∧ s.IsRunning

/-- A provider that has been shut down, and its source with it. -/
def IsShutDown (p : Setup) (i : Nat) : Prop :=
  ∃ v, p.providers[i]? = some v ∧ v.closed = true ∧
    ∀ k, v.source = some k → ∃ s, p.sources[k]? = some s ∧ s.IsStopped

theorem not_isUsable_of_isShutDown {p : Setup} {i : Nat} (h : p.IsShutDown i) :
    ¬ p.IsUsable i := by
  obtain ⟨v, hv, hclosed, -⟩ := h
  rintro ⟨v', -, -, hv', hopen, -⟩
  obtain rfl := Option.some.inj (hv.symm.trans hv')
  exact absurd (hclosed.symm.trans hopen) (by decide)

theorem updateSource_of_fixed {p : Setup} {k : Nat} {s : Source} {f : Source → Source}
    (hs : p.sources[k]? = some s) (hf : f s = s) : p.updateSource k f = p := by
  have hsources : p.sources.modify k f = p.sources := by
    apply List.ext_getElem?
    intro k'
    rw [List.getElem?_modify]
    by_cases hk : k = k'
    · subst hk
      simp [hs, hf]
    · simp [hk]
  unfold updateSource
  rw [hsources]

/-- A span of a source that has stopped changes nothing. -/
theorem span_of_isStopped {p : Setup} {k : Nat} {s : Source} (hs : p.sources[k]? = some s)
    (hstopped : s.IsStopped) (scope version name : String) :
    p.span (.ofSource k scope version) name = p :=
  updateSource_of_fixed hs (hstopped.take _)

/-- Spans of a provider that has been shut down are lost. -/
theorem IsShutDown.span_tracer {p : Setup} {i : Nat} (h : p.IsShutDown i)
    (scope version : Option String) (name : String) :
    p.span (p.tracer i scope version) name = p := by
  obtain ⟨v, hv, -, hstopped⟩ := h
  cases hk : v.source with
  | none =>
    have htracer : p.tracer i scope version = .idle := by simp only [Setup.tracer, hv, hk]
    rw [htracer]
    rfl
  | some k =>
    obtain ⟨s, hs, hstopped⟩ := hstopped k hk
    have htracer : p.tracer i scope version =
        .ofSource k (orElse scope v.settings.tracerName) (version.getD "") := by
      simp only [Setup.tracer, hv, hk]
    rw [htracer]
    exact span_of_isStopped hs hstopped ..

/-! ## What is never taken back -/

/-- One setup comes from another by the use of sources and providers and by making
new ones. -/
structure Advances (p p' : Setup) : Prop where
  packages : p'.packages = p.packages
  host : p'.host = p.host
  provider : ∀ (i : Nat) (v : Provider), p.providers[i]? = some v → ∃ closed,
    p'.providers[i]? = some { v with closed } ∧ (v.closed = true → closed = true)
  source : ∀ (k : Nat) (s : Source), p.sources[k]? = some s → ∃ s', p'.sources[k]? = some s' ∧
    s'.shutdownFails = s.shutdownFails ∧ (s.IsStopped → s'.IsStopped)

/-- One setup comes from another by the use of sources and providers alone. -/
structure Uses (p p' : Setup) : Prop extends Advances p p' where
  configured : p'.configured = p.configured
  global : p'.global = p.global
  length_providers : p'.providers.length = p.providers.length
  length_sources : p'.sources.length = p.sources.length

section

variable {p p' p'' : Setup} {i k : Nat}

theorem Advances.refl (p : Setup) : Advances p p :=
  ⟨rfl, rfl, fun _ v hv => ⟨v.closed, hv, id⟩, fun _ s hs => ⟨s, hs, rfl, id⟩⟩

theorem Advances.trans (h : Advances p p') (h' : Advances p' p'') : Advances p p'' := by
  refine ⟨h'.packages.trans h.packages, h'.host.trans h.host, ?_, ?_⟩
  · intro i v hv
    obtain ⟨closed, hv', hclosed⟩ := h.provider i v hv
    obtain ⟨closed', hv'', hclosed'⟩ := h'.provider i _ hv'
    exact ⟨closed', hv'', fun hc => hclosed' (hclosed hc)⟩
  · intro k s hs
    obtain ⟨s', hs', hfails, hstopped⟩ := h.source k s hs
    obtain ⟨s'', hs'', hfails', hstopped'⟩ := h'.source k s' hs'
    exact ⟨s'', hs'', hfails'.trans hfails, fun hc => hstopped' (hstopped hc)⟩

theorem Uses.refl (p : Setup) : Uses p p := ⟨.refl p, rfl, rfl, rfl, rfl⟩

theorem Uses.trans (h : Uses p p') (h' : Uses p' p'') : Uses p p'' :=
  ⟨h.toAdvances.trans h'.toAdvances, h'.configured.trans h.configured,
    h'.global.trans h.global, h'.length_providers.trans h.length_providers,
    h'.length_sources.trans h.length_sources⟩

theorem Advances.length_providers_le (h : Advances p p') :
    p.providers.length ≤ p'.providers.length := by
  apply Nat.le_of_not_lt
  intro hlt
  obtain ⟨closed, hv, -⟩ := h.provider p'.providers.length _ (List.getElem?_eq_getElem hlt)
  rw [List.getElem?_eq_none (Nat.le_refl _)] at hv
  cases hv

/-- What has been shut down stays shut down. -/
theorem IsShutDown.advances (h : p.IsShutDown i) (hp : Advances p p') : p'.IsShutDown i := by
  obtain ⟨v, hv, hclosed, hsource⟩ := h
  obtain ⟨closed, hv', hclosed'⟩ := hp.provider i v hv
  refine ⟨_, hv', hclosed' hclosed, ?_⟩
  intro k hk
  obtain ⟨s, hs, hstopped⟩ := hsource k hk
  obtain ⟨s', hs', -, hstopped'⟩ := hp.source k s hs
  exact ⟨s', hs', hstopped' hstopped⟩

theorem uses_updateSource {s : Source} {f : Source → Source} (hs : p.sources[k]? = some s)
    (hfails : (f s).shutdownFails = s.shutdownFails)
    (hstopped : s.IsStopped → (f s).IsStopped) : Uses p (p.updateSource k f) := by
  refine ⟨⟨rfl, rfl, fun i v hv => ⟨v.closed, hv, id⟩, ?_⟩, rfl, rfl, rfl, List.length_modify ..⟩
  intro k' s' hs'
  show ∃ s'', (p.sources.modify k f)[k']? = _ ∧ _
  rw [List.getElem?_modify, hs']
  by_cases hk : k = k'
  · subst hk
    obtain rfl := Option.some.inj (hs.symm.trans hs')
    exact ⟨f s, by simp, hfails, hstopped⟩
  · exact ⟨s', by simp [hk], rfl, id⟩

theorem uses_close (p : Setup) (i : Nat) :
    Uses p (p.updateProvider i fun v => { v with closed := true }) := by
  refine ⟨⟨rfl, rfl, ?_, fun k s hs => ⟨s, hs, rfl, id⟩⟩, rfl, rfl, List.length_modify .., rfl⟩
  intro i' v hv
  show ∃ closed, (p.providers.modify i _)[i']? = _ ∧ _
  rw [List.getElem?_modify, hv]
  by_cases hi : i = i'
  · exact ⟨true, by simp [hi], fun _ => rfl⟩
  · exact ⟨v.closed, by simp [hi], id⟩

theorem sourceOf_eq_some {s : Source} (h : p.sourceOf i = some (k, s)) :
    (∃ v, p.providers[i]? = some v ∧ v.source = some k) ∧ p.sources[k]? = some s := by
  unfold sourceOf at h
  simp only [Option.bind_eq_bind, Option.bind_eq_some_iff, Option.some.injEq, Prod.mk.injEq] at h
  obtain ⟨v, hv, k', hk, s', hs, rfl, rfl⟩ := h
  exact ⟨⟨v, hv, hk⟩, hs⟩

theorem sourceOf_of_some {v : Provider} {s : Source} (hv : p.providers[i]? = some v)
    (hk : v.source = some k) (hs : p.sources[k]? = some s) : p.sourceOf i = some (k, s) := by
  unfold sourceOf
  simp [hv, hk, hs]

theorem sourceOf_updateSource {s : Source} (h : p.sourceOf i = some (k, s))
    (f : Source → Source) : (p.updateSource k f).sourceOf i = some (k, f s) := by
  obtain ⟨⟨v, hv, hk⟩, hs⟩ := sourceOf_eq_some h
  refine sourceOf_of_some (v := v) hv hk ?_
  show (p.sources.modify k f)[k]? = _
  simp [hs]

theorem sourceOf_close {s : Source} (h : p.sourceOf i = some (k, s)) (j : Nat) :
    (p.updateProvider j fun v => { v with closed := true }).sourceOf i = some (k, s) := by
  obtain ⟨⟨v, hv, hk⟩, hs⟩ := sourceOf_eq_some h
  obtain ⟨closed, hv', -⟩ := (uses_close p j).provider i v hv
  exact sourceOf_of_some hv' hk hs

/-- The source of a provider that has been shut down has stopped. -/
theorem IsShutDown.isStopped {s : Source} (h : p.IsShutDown i) (hs : p.sourceOf i = some (k, s)) :
    s.IsStopped := by
  obtain ⟨v, hv, -, hsource⟩ := h
  obtain ⟨⟨v', hv', hk⟩, hs⟩ := sourceOf_eq_some hs
  have hsame : v = v' := Option.some.inj (hv.symm.trans hv')
  obtain ⟨s', hs', hstopped⟩ := hsource k (hsame ▸ hk)
  have hsame' : s' = s := Option.some.inj (hs'.symm.trans hs)
  exact hsame' ▸ hstopped

/-! ## Flushing and shutting down -/

theorem uses_flush (p : Setup) (i : Nat) (timeout : Int) : Uses p (p.flush i timeout).setup := by
  unfold Setup.flush
  split
  · exact .refl p
  · next k s hsource =>
    split
    · next done s' hflush =>
      exact uses_updateSource (sourceOf_eq_some hsource).2 (Source.shutdownFails_of_flush hflush)
        fun hstopped => hstopped.flush hflush
    · exact .refl p

theorem uses_shutdown (p : Setup) (i : Nat) : Uses p (p.shutdown i).setup := by
  unfold Setup.shutdown
  split
  · exact .refl p
  · have hclose := uses_close p i
    dsimp only
    split
    · exact hclose
    · next k s hsource =>
      split
      · next s' hshutdown =>
        obtain ⟨hstopped, hfails⟩ := Source.isStopped_of_shutdown hshutdown
        exact hclose.trans (uses_updateSource (sourceOf_eq_some hsource).2 hfails fun _ => hstopped)
      · exact hclose

/-- A provider whose source the host lets be shut down, and whose source has
stopped if the provider is closed. -/
def IsSturdy (p : Setup) (i : Nat) : Prop :=
  ∃ v k s, p.providers[i]? = some v ∧ v.source = some k ∧ p.sources[k]? = some s ∧
    s.shutdownFails = false ∧ (v.closed = true → s.IsStopped)

theorem setup_shutdown_of_closed {v : Provider} (hv : p.providers[i]? = some v)
    (hclosed : v.closed = true) : (p.shutdown i).setup = p := by
  unfold Setup.shutdown
  rw [if_pos (by simp [hv, hclosed])]

theorem setup_shutdown_of_open {v : Provider} {s : Source} (hv : p.providers[i]? = some v)
    (hopen : v.closed = false) (hs : p.sourceOf i = some (k, s))
    (hfails : s.shutdownFails = false) :
    (p.shutdown i).setup = (p.updateProvider i fun v => { v with closed := true }).updateSource k
      fun _ => s.mapProcessor Processor.shutdown := by
  have hshutdown : s.shutdown = .ok (s.mapProcessor Processor.shutdown) := by
    unfold Source.shutdown
    rw [hfails]
    rfl
  have hclosed := sourceOf_close hs i
  unfold Setup.shutdown
  rw [if_neg (by simp [hv, hopen])]
  simp only [hclosed, hshutdown]

theorem isShutDown_shutdown (h : p.IsSturdy i) : (p.shutdown i).setup.IsShutDown i := by
  obtain ⟨v, k, s, hv, hk, hs, hfails, hclosed⟩ := h
  cases hc : v.closed with
  | true =>
    rw [setup_shutdown_of_closed hv hc]
    refine ⟨v, hv, hc, ?_⟩
    intro k' hk'
    obtain rfl := Option.some.inj (hk.symm.trans hk')
    exact ⟨s, hs, hclosed hc⟩
  | false =>
    rw [setup_shutdown_of_open hv hc (sourceOf_of_some hv hk hs) hfails]
    refine ⟨{ v with closed := true }, ?_, rfl, ?_⟩
    · show (p.providers.modify i _)[i]? = _
      simp [hv]
    · intro k' hk'
      obtain rfl := Option.some.inj (hk.symm.trans hk')
      refine ⟨s.mapProcessor Processor.shutdown, ?_, s.isStopped_mapProcessor_shutdown⟩
      show (p.sources.modify k _)[k]? = _
      simp [hs]

theorem uses_retire (p : Setup) : Uses p p.retire.setup := by
  unfold retire
  split
  · exact .refl p
  · exact uses_shutdown p _

theorem isShutDown_retire (hi : p.configured = some i) (h : p.IsSturdy i) :
    p.retire.setup.IsShutDown i := by
  unfold retire
  rw [hi]
  exact isShutDown_shutdown h

theorem providers_flush (p : Setup) (i : Nat) (timeout : Int) :
    (p.flush i timeout).setup.providers = p.providers := by
  unfold Setup.flush
  split
  · rfl
  · split <;> rfl

theorem advances_shutdownConfigured (p : Setup) : Advances p p.shutdownConfigured.setup := by
  unfold shutdownConfigured
  split
  · exact .refl p
  · next i hi =>
    have huses := (uses_flush p i usualTimeout).trans (uses_shutdown (p.flush i usualTimeout).setup i)
    exact ⟨huses.packages, huses.host, huses.provider, huses.source⟩

end

/-! ## Changes -/

/-- A change of the configured provider. -/
inductive Change where
  | configure (s : Settings.Tracing) (asGlobal : Bool)
  | shutdown

/-- A change that configures with settings that are switched off. -/
def Change.IsOff : Change → Prop
  | .configure s _ => s.enabled = false
  | .shutdown => False

/-- Make a change.  The result is that of configuring; shutting down gives none. -/
def change (p : Setup) : Change → Done (Except Fault (Option Nat))
  | .configure s asGlobal => p.configure s asGlobal
  | .shutdown =>
    { result := .ok none, setup := p.shutdownConfigured.setup, notes := p.shutdownConfigured.notes }

/-- The setup after a change. -/
def next (p : Setup) (c : Change) : Setup := (p.change c).setup

/-- The setup after some changes. -/
def run (p : Setup) (cs : List Change) : Setup := cs.foldl next p

/-- The change raises an error. -/
def Raises (p : Setup) (c : Change) : Prop := ∃ f, (p.change c).result = .error f

@[simp] theorem run_nil (p : Setup) : p.run [] = p := rfl

@[simp] theorem run_concat (p : Setup) (cs : List Change) (c : Change) :
    p.run (cs ++ [c]) = (p.run cs).next c := by
  unfold run
  rw [List.foldl_append]
  rfl

/-- A setup with a new source and its provider, which is the configured one. -/
def installed (p : Setup) (s : Settings.Tracing) (source : Source) (asGlobal : Bool) : Setup :=
  { p with
    sources := p.sources ++ [source]
    providers := p.providers ++
      [{ settings := s, given := none, source := some p.sources.length, closed := false }]
    global := if asGlobal then some (p.global.getD p.sources.length) else p.global
    configured := some p.providers.length }

/-- Everything that a change can do, with its result and the setup afterwards. -/
inductive Turn (p : Setup) : Change → Except Fault (Option Nat) → Setup → Prop where
  | off {s : Settings.Tracing} {asGlobal : Bool} (hoff : s.enabled = false) :
      Turn p (.configure s asGlobal) (.ok none) p
  | refused {s : Settings.Tracing} {asGlobal : Bool} {f : Fault} (hon : s.enabled = true)
      (hsource : Source.ofSettings p.packages p.host s none = .error f) :
      Turn p (.configure s asGlobal) (.error f) p.retire.setup
  | made {s : Settings.Tracing} {asGlobal : Bool} {source : Source} (hon : s.enabled = true)
      (hsource : Source.ofSettings p.packages p.host s none = .ok source) :
      Turn p (.configure s asGlobal) (.ok (some p.providers.length))
        (p.retire.setup.installed s source asGlobal)
  | stopped : Turn p .shutdown (.ok none) p.shutdownConfigured.setup

theorem create_of_ok {p : Setup} {s : Settings.Tracing} {source : Source}
    (hon : s.enabled = true)
    (hsource : Source.ofSettings p.packages p.host s none = .ok source) :
    p.create s none = .ok (p.providers.length,
      { p with
        sources := p.sources ++ [source]
        providers := p.providers ++
          [{ settings := s, given := none, source := some p.sources.length, closed := false }] }) := by
  unfold create
  rw [if_pos hon, hsource]
  rfl

theorem create_of_error {p : Setup} {s : Settings.Tracing} {f : Fault} (hon : s.enabled = true)
    (hsource : Source.ofSettings p.packages p.host s none = .error f) :
    p.create s none = .error f := by
  unfold create
  rw [if_pos hon, hsource]
  rfl

/-- Making the new provider's source the global one. -/
theorem setGlobal_new {p : Setup} {s : Settings.Tracing} {source : Source} :
    (p.installed s source false).setGlobal p.providers.length = p.installed s source true := by
  have hprovider : (p.installed s source false).providers[p.providers.length]? =
      some { settings := s, given := none, source := some p.sources.length, closed := false } := by
    simp [installed]
  unfold setGlobal
  rw [hprovider]
  show (p.installed s source false).chooseGlobal p.sources.length = _
  unfold chooseGlobal installed
  cases p.global <;> simp

/-- Every change does one of the things that a turn lists. -/
theorem turn_change (p : Setup) (c : Change) : Turn p c (p.change c).result (p.next c) := by
  have hretire := uses_retire p
  unfold next
  cases c with
  | shutdown => exact .stopped
  | configure s asGlobal =>
    show Turn p _ (p.configure s asGlobal).result (p.configure s asGlobal).setup
    unfold configure
    by_cases hon : s.enabled = true
    · rw [if_pos hon]
      dsimp only
      cases hsource : Source.ofSettings p.packages p.host s none with
      | error f =>
        rw [create_of_error hon (by rw [hretire.packages, hretire.host]; exact hsource)]
        exact .refused hon hsource
      | ok source =>
        rw [create_of_ok hon (by rw [hretire.packages, hretire.host]; exact hsource)]
        have hmade : Turn p (.configure s asGlobal) _ _ := .made hon hsource
        rw [← hretire.length_providers] at hmade
        cases asGlobal with
        | false => exact hmade
        | true =>
          rw [← setGlobal_new] at hmade
          exact hmade
    · rw [if_neg hon]
      exact .off (by simpa using hon)

/-- Settings of which no source can be made raise an error. -/
theorem raises_of_ofSettings {p : Setup} {s : Settings.Tracing} {f : Fault}
    (hon : s.enabled = true)
    (hsource : Source.ofSettings p.packages p.host s none = .error f) (asGlobal : Bool) :
    p.Raises (.configure s asGlobal) := by
  have hretire := uses_retire p
  have hcreate : p.retire.setup.create s none = .error f := by
    apply create_of_error hon
    rw [hretire.packages, hretire.host]
    exact hsource
  refine ⟨f, ?_⟩
  show (p.configure s asGlobal).result = .error f
  unfold configure
  simp only [if_pos hon, hcreate]

/-- Settings of which a source can be made give the next provider. -/
theorem result_of_ofSettings {p : Setup} {s : Settings.Tracing} {source : Source}
    (hon : s.enabled = true)
    (hsource : Source.ofSettings p.packages p.host s none = .ok source) (asGlobal : Bool) :
    (p.configure s asGlobal).result = .ok (some p.providers.length) := by
  have hretire := uses_retire p
  have hcreate := create_of_ok (p := p.retire.setup) hon
    (by rw [hretire.packages, hretire.host]; exact hsource)
  unfold configure
  simp only [if_pos hon, hcreate, hretire.length_providers]

/-! ## What a run of changes leaves -/

theorem advances_installed (p : Setup) (s : Settings.Tracing) (source : Source)
    (asGlobal : Bool) : Advances p (p.installed s source asGlobal) := by
  refine ⟨rfl, rfl, ?_, ?_⟩
  · intro i v hv
    exact ⟨v.closed, List.getElem?_append_left (List.getElem?_eq_some_iff.1 hv).1 ▸ hv, id⟩
  · intro k s' hs'
    exact ⟨s', List.getElem?_append_left (List.getElem?_eq_some_iff.1 hs').1 ▸ hs', rfl, id⟩

theorem Turn.advances {p p' : Setup} {c : Change} {r : Except Fault (Option Nat)}
    (h : Turn p c r p') : Advances p p' := by
  cases h with
  | off => exact .refl p
  | refused => exact (uses_retire p).toAdvances
  | made => exact (uses_retire p).toAdvances.trans (advances_installed ..)
  | stopped => exact advances_shutdownConfigured p

theorem advances_next (p : Setup) (c : Change) : Advances p (p.next c) := (turn_change p c).advances

theorem advances_run (p : Setup) (cs : List Change) : Advances p (p.run cs) := by
  induction cs using List.reverseRecOn with
  | nil => exact .refl p
  | append_singleton cs c ih =>
    rw [run_concat]
    exact ih.trans (advances_next _ c)

/-- A provider that has just been made: nothing has been done with it or its source. -/
def IsNew (p : Setup) (i : Nat) : Prop :=
  ∃ v k s, p.providers[i]? = some v ∧ v.closed = false ∧ v.source = some k ∧
    p.sources[k]? = some s ∧ s.IsFresh

theorem IsNew.isUsable {p : Setup} {i : Nat} (h : p.IsNew i) : p.IsUsable i := by
  obtain ⟨v, k, s, hv, hopen, hk, hs, hfresh⟩ := h
  exact ⟨v, k, s, hv, hopen, hk, hs, hfresh.isRunning⟩

theorem IsNew.isSturdy {p : Setup} {i : Nat} (h : p.IsNew i) : p.IsSturdy i := by
  obtain ⟨v, k, s, hv, hopen, hk, hs, hfresh⟩ := h
  refine ⟨v, k, s, hv, hk, hs, hfresh.shutsDown, ?_⟩
  intro hclosed
  exact absurd (hclosed.symm.trans hopen) (by decide)

theorem isNew_installed {p : Setup} {s : Settings.Tracing} {source : Source}
    (hfresh : source.IsFresh) (asGlobal : Bool) :
    (p.installed s source asGlobal).IsNew p.providers.length := by
  refine ⟨{ settings := s, given := none, source := some p.sources.length, closed := false },
    p.sources.length, source, ?_, rfl, rfl, ?_, hfresh⟩
  · simp [installed]
  · simp [installed]

end Setup

end QueryTelemetry.Export
