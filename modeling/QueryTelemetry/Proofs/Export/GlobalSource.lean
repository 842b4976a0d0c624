import QueryTelemetry.Proofs.Export.Configured

/-!
# The global source over a run of changes

The source of the first provider that a change makes global stays the global one
for good (`chosen?`).  A later change may ask for the source of its own provider
in vain.

So the spans of the global tracer reach the exporter of the provider that a
change has made global only if no change before has made one global
(`taken_shutdownConfigured`).  If one has, that provider has been shut down by
now, and the spans of the global tracer are lost.
-/

namespace QueryTelemetry.Export

/-! ## Spans on their way to an exporter -/

namespace Processor

/-- The spans that a processor has been handed: those that its exporter has taken,
and those that wait. -/
def handed (q : Processor) : List Exported := q.exporter.taken ++ q.waiting

theorem stopped_exporter_flush (q : Processor) :
    q.flush.2.exporter.stopped = q.exporter.stopped := by
  unfold flush exportWaiting Exporter.accept
  split
  · split
    · rfl
    · dsimp only
      split <;> rfl
  · rfl

theorem handed_exportWaiting {q : Processor} (h : q.exporter.stopped = false) :
    q.exportWaiting.handed = q.handed := by
  simp [handed, exportWaiting, Exporter.accept, h]

/-- A span is handed to a processor, which keeps it waiting or exports it at once. -/
theorem handed_take {q : Processor} (hopen : q.stopped = false) (hwaiting : q.waiting = [])
    (hexporter : q.exporter.stopped = false) (e : Exported) :
    (q.take e).handed = q.handed ++ [e] := by
  unfold take
  rw [if_neg (by simp [hopen])]
  split
  · simp [handed]
  · simp [handed, hwaiting, Exporter.accept, hexporter]

theorem handed_flush {q : Processor} (h : q.exporter.stopped = false) :
    q.flush.2.handed = q.handed := by
  unfold flush
  split
  · split
    · rfl
    · exact handed_exportWaiting h
  · rfl

theorem taken_shutdown {q : Processor} (hopen : q.stopped = false)
    (hexporter : q.exporter.stopped = false) : q.shutdown.exporter.taken = q.handed := by
  unfold shutdown
  rw [if_neg (by simp [hopen])]
  simp [handed, exportWaiting, Exporter.accept, Exporter.stop, hexporter]

end Processor

namespace Source

/-- The spans that a source has been handed, if it has a processor. -/
def handed (s : Source) : Option (List Exported) := s.processor.map Processor.handed

theorem IsFresh.handed_take {s : Source} (h : s.IsFresh) (e : Exported) :
    (s.take e).handed = s.exporter?.map fun _ => [e] := by
  unfold Source.handed Source.take mapProcessor exporter?
  cases hq : s.processor with
  | none => rfl
  | some q =>
    obtain ⟨hopen, hwaiting, hexporter, htaken⟩ := h.processor q hq
    have hhanded : (q.take e).handed = [e] := by
      rw [Processor.handed_take hopen hwaiting hexporter]
      simp [Processor.handed, hwaiting, htaken]
    simp [hhanded]

theorem IsRunning.take {s : Source} (h : s.IsRunning) (e : Exported) : (s.take e).IsRunning := by
  intro q' hq'
  obtain ⟨q, hq, rfl⟩ := Option.map_eq_some_iff.1 hq'
  obtain ⟨hopen, hexporter⟩ := h q hq
  unfold Processor.take Exporter.accept
  split
  · exact ⟨hopen, hexporter⟩
  · split
    · exact ⟨hopen, hexporter⟩
    · refine ⟨hopen, ?_⟩
      simp [hexporter]

/-- A flush loses nothing. -/
theorem IsRunning.flush {s s' : Source} {timeout : Int} {done : Bool} (h : s.IsRunning)
    (hflush : s.flush timeout = .ok (done, s')) : s'.IsRunning ∧ s'.handed = s.handed := by
  unfold Source.flush at hflush
  split at hflush
  · cases hflush
  · split at hflush
    · cases hflush
      exact ⟨h, rfl⟩
    · next q hq =>
      split at hflush
      · cases hflush
        exact ⟨h, rfl⟩
      · obtain rfl := (Prod.mk.inj (Except.ok.inj hflush)).2
        obtain ⟨hopen, hexporter⟩ := h q hq
        refine ⟨?_, ?_⟩
        · intro q' hq'
          obtain rfl := Option.some.inj hq'
          exact ⟨q.stopped_flush.trans hopen, q.stopped_exporter_flush.trans hexporter⟩
        · show some q.flush.2.handed = s.handed
          rw [Processor.handed_flush hexporter, Source.handed, hq]
          rfl

/-- When a source is shut down, its exporter has taken every span that was handed on. -/
theorem IsRunning.taken_shutdown {s : Source} (h : s.IsRunning) :
    (s.mapProcessor Processor.shutdown).exporter?.map Exporter.taken = s.handed := by
  unfold exporter? mapProcessor Source.handed
  cases hq : s.processor with
  | none => rfl
  | some q =>
    obtain ⟨hopen, hexporter⟩ := h q hq
    simp [Processor.taken_shutdown hopen hexporter]

end Source

namespace Setup

variable {p p₀ : Setup} {i k : Nat} {s : Source}

/-- A provider that is open, with its source and the place of that.  The source runs,
and the host lets it be shut down. -/
structure Runs (p : Setup) (i k : Nat) (s : Source) : Prop where
  isOpen : ∃ v, p.providers[i]? = some v ∧ v.closed = false
  source : p.sourceOf i = some (k, s)
  running : s.IsRunning
  shutsDown : s.shutdownFails = false

theorem Runs.span (h : p.Runs i k s) (scope version name : String) :
    (p.span (.ofSource k scope version) name).Runs i k (s.take { name, scope, version }) :=
  ⟨h.isOpen, sourceOf_updateSource h.source _, h.running.take _, h.shutsDown⟩

theorem Runs.flush (h : p.Runs i k s) (timeout : Int) :
    ∃ s', (p.flush i timeout).setup.Runs i k s' ∧ s'.handed = s.handed := by
  unfold Setup.flush
  rw [h.source]
  dsimp only
  split
  · next done s' hflush =>
    obtain ⟨hrunning, hhanded⟩ := h.running.flush hflush
    refine ⟨s', ⟨h.isOpen, sourceOf_updateSource h.source _, hrunning, ?_⟩, hhanded⟩
    rw [Source.shutdownFails_of_flush hflush]
    exact h.shutsDown
  · exact ⟨s, h, rfl⟩

theorem Runs.shutdown (h : p.Runs i k s) :
    ((p.shutdown i).setup.exporterOf i).map Exporter.taken = s.handed := by
  obtain ⟨v, hv, hopen⟩ := h.isOpen
  rw [setup_shutdown_of_open hv hopen h.source h.shutsDown]
  unfold exporterOf
  rw [sourceOf_updateSource (sourceOf_close h.source i)]
  exact h.running.taken_shutdown

/-- Shutting down the configured provider hands its exporter every span that its
source was handed. -/
theorem Runs.shutdownConfigured (h : p.Runs i k s) (hi : p.configured = some i) :
    (p.shutdownConfigured.setup.exporterOf i).map Exporter.taken = s.handed := by
  obtain ⟨s', hruns, hhanded⟩ := h.flush usualTimeout
  have htaken := hruns.shutdown
  rw [hhanded] at htaken
  unfold Setup.shutdownConfigured
  rw [hi]
  exact htaken

/-! ## The choice of the global source -/

/-- The provider that a change with some result made, if it was to be the global one. -/
def Change.chosen? : Change → Except Fault (Option Nat) → Option Nat
  | .configure _ true, .ok made => made
  | _, _ => none

/-- The provider that a change makes, if it is to be the global one. -/
def choice? (p : Setup) (c : Change) : Option Nat := c.chosen? (p.change c).result

/-- The first provider that a run of changes makes to be the global one. -/
def chosen? (p : Setup) : List Change → Option Nat
  | [] => none
  | c :: cs => (p.choice? c).or (chosen? (p.next c) cs)

theorem chosen?_concat (p : Setup) (cs : List Change) (c : Change) :
    p.chosen? (cs ++ [c]) = (p.chosen? cs).or ((p.run cs).choice? c) := by
  induction cs generalizing p with
  | nil => simp [chosen?]
  | cons d ds ih =>
    show (p.choice? d).or ((p.next d).chosen? (ds ++ [c])) = _
    rw [ih, ← Option.or_assoc]
    rfl

/-- The source of the provider is the global one. -/
def IsGlobal (p : Setup) (i : Nat) : Prop := ∃ k s, p.sourceOf i = some (k, s) ∧ p.global = some k

/-- Which source is the global one, if the first provider that was to be the global
one is known. -/
def Follows (p : Setup) : Option Nat → Prop
  | none => p.global = none
  | some j => p.IsGlobal j

theorem Advances.sourceOf {p p' : Setup} (hp : Advances p p') (h : p.sourceOf i = some (k, s)) :
    ∃ s', p'.sourceOf i = some (k, s') := by
  obtain ⟨⟨v, hv, hk⟩, hs⟩ := sourceOf_eq_some h
  obtain ⟨closed, hv', -⟩ := hp.provider i v hv
  obtain ⟨s', hs', -⟩ := hp.source k s hs
  exact ⟨s', sourceOf_of_some hv' hk hs'⟩

theorem IsGlobal.lt_length (h : p.IsGlobal i) : i < p.providers.length := by
  obtain ⟨k, s, hs, -⟩ := h
  obtain ⟨⟨v, hv, -⟩, -⟩ := sourceOf_eq_some hs
  exact (List.getElem?_eq_some_iff.1 hv).1

theorem IsGlobal.advances {p p' : Setup} (h : p.IsGlobal i) (hp : Advances p p')
    (hglobal : p'.global = p.global) : p'.IsGlobal i := by
  obtain ⟨k, s, hs, hk⟩ := h
  obtain ⟨s', hs'⟩ := hp.sourceOf hs
  exact ⟨k, s', hs', hglobal.trans hk⟩

theorem Follows.advances {p p' : Setup} {chosen : Option Nat} (h : p.Follows chosen)
    (hp : Advances p p') (hglobal : p'.global = p.global) : p'.Follows chosen := by
  cases chosen with
  | none => exact hglobal.trans h
  | some j => exact IsGlobal.advances h hp hglobal

theorem global_shutdownConfigured (p : Setup) :
    p.shutdownConfigured.setup.global = p.global := by
  unfold Setup.shutdownConfigured
  split
  · rfl
  · next i hi =>
    exact ((uses_flush p i usualTimeout).trans (uses_shutdown _ i)).global

theorem configured_installed (p : Setup) (s : Settings.Tracing) (source : Source)
    (asGlobal : Bool) :
    (p.installed s source asGlobal).configured = some p.providers.length := rfl

theorem sourceOf_installed (p : Setup) (s : Settings.Tracing) (source : Source)
    (asGlobal : Bool) : (p.installed s source asGlobal).sourceOf p.providers.length =
      some (p.sources.length, source) := by
  refine sourceOf_of_some (v := ⟨s, none, some p.sources.length, false⟩) ?_ rfl ?_
  · simp [installed]
  · simp [installed]

theorem isGlobal_installed (h : p.global = none) (s : Settings.Tracing) (source : Source) :
    (p.installed s source true).IsGlobal p.providers.length := by
  refine ⟨_, _, sourceOf_installed p s source true, ?_⟩
  show some (p.global.getD p.sources.length) = _
  rw [h]
  rfl

/-- A global source that is chosen stays. -/
theorem IsGlobal.global_installed (h : p.IsGlobal i) (s : Settings.Tracing) (source : Source)
    (asGlobal : Bool) : (p.installed s source asGlobal).global = p.global := by
  obtain ⟨k, -, -, hk⟩ := h
  show (if asGlobal then some (p.global.getD p.sources.length) else p.global) = p.global
  rw [hk]
  cases asGlobal <;> rfl

theorem IsGlobal.installed (h : p.IsGlobal i) (s : Settings.Tracing) (source : Source)
    (asGlobal : Bool) : (p.installed s source asGlobal).IsGlobal i :=
  h.advances (advances_installed p s source asGlobal) (h.global_installed s source asGlobal)

/-- A change makes its provider the global one if none is, and leaves the global
source alone otherwise. -/
theorem Follows.next {chosen : Option Nat} (h : p.Follows chosen) (c : Change) :
    (p.next c).Follows (chosen.or (p.choice? c)) := by
  have huses := uses_retire p
  have hretired : p.retire.setup.Follows chosen := h.advances huses.toAdvances huses.global
  have hturn := turn_change p c
  unfold choice?
  generalize (p.change c).result = r at hturn ⊢
  generalize p.next c = p' at hturn ⊢
  cases hturn with
  | @off s asGlobal hoff =>
    have hchoice : (Change.configure s asGlobal).chosen? (.ok none) = none := by
      cases asGlobal <;> rfl
    rw [hchoice, Option.or_none]
    exact h
  | @refused s asGlobal f hon hsource =>
    have hchoice : (Change.configure s asGlobal).chosen? (.error f) = none := by
      cases asGlobal <;> rfl
    rw [hchoice, Option.or_none]
    exact hretired
  | @made s asGlobal source hon hsource =>
    cases asGlobal with
    | false =>
      show (p.retire.setup.installed s source false).Follows (chosen.or none)
      rw [Option.or_none]
      exact hretired.advances (advances_installed ..) rfl
    | true =>
      show (p.retire.setup.installed s source true).Follows (chosen.or (some p.providers.length))
      cases chosen with
      | none =>
        rw [← huses.length_providers]
        exact isGlobal_installed hretired s source
      | some j => exact IsGlobal.installed hretired s source true
  | stopped =>
    show p.shutdownConfigured.setup.Follows (chosen.or none)
    rw [Option.or_none]
    exact h.advances (advances_shutdownConfigured p) (global_shutdownConfigured p)

theorem follows_run (h : p₀.global = none) (cs : List Change) :
    (p₀.run cs).Follows (p₀.chosen? cs) := by
  induction cs using List.reverseRecOn with
  | nil => exact h
  | append_singleton cs c ih =>
    rw [run_concat, chosen?_concat]
    exact ih.next c

theorem eq_of_choice? {c : Change} (h : p.choice? c = some i) : i = p.providers.length := by
  have hturn := turn_change p c
  unfold choice? at h
  generalize (p.change c).result = r at hturn h
  generalize p.next c = p' at hturn
  cases hturn with
  | @off s asGlobal hoff => cases asGlobal <;> cases h
  | @refused s asGlobal f hon hsource => cases asGlobal <;> cases h
  | @made s asGlobal source hon hsource =>
    cases asGlobal with
    | false => cases h
    | true => exact (Option.some.inj h).symm
  | stopped => cases h

/-- Only a provider that the run makes can be chosen. -/
theorem le_of_chosen? {cs : List Change} {j : Nat} (h : p.chosen? cs = some j) :
    p.providers.length ≤ j := by
  induction cs generalizing p with
  | nil => cases h
  | cons c cs ih =>
    have hlength : p.providers.length ≤ (p.next c).providers.length :=
      (advances_next p c).length_providers_le
    rcases Option.or_eq_some_iff.1 h with hchoice | ⟨-, hchosen⟩
    · exact Nat.le_of_eq (eq_of_choice? hchoice).symm
    · exact Nat.le_trans hlength (ih hchosen)

/-! ## The tracer of the global source -/

theorem IsGlobal.globalTracer (h : p.IsGlobal i) (hs : p.sourceOf i = some (k, s))
    (scope : String) : p.globalTracer scope = .ofSource k scope "" := by
  obtain ⟨k', s', hs', hk'⟩ := h
  obtain ⟨rfl, -⟩ := Prod.mk.inj (Option.some.inj (hs.symm.trans hs'))
  unfold Setup.globalTracer
  rw [hk']

/-- Spans of the global tracer are lost when the provider of the global source has
been shut down. -/
theorem IsGlobal.span_globalTracer (h : p.IsGlobal i) (hdown : p.IsShutDown i)
    (scope name : String) : p.span (p.globalTracer scope) name = p := by
  obtain ⟨k, s, hs, -⟩ := id h
  rw [h.globalTracer hs]
  exact span_of_isStopped (sourceOf_eq_some hs).2 (hdown.isStopped hs) ..

/-- A provider that is made when the global source is chosen comes too late. -/
theorem not_isGlobal_installed (h : p.IsGlobal i) (s : Settings.Tracing) (source : Source)
    (asGlobal : Bool) : ¬ (p.installed s source asGlobal).IsGlobal p.providers.length := by
  have hkept := h.global_installed s source asGlobal
  have hnew := sourceOf_installed p s source asGlobal
  obtain ⟨k, s', hs', hk⟩ := h
  have hlt : k < p.sources.length := (List.getElem?_eq_some_iff.1 (sourceOf_eq_some hs').2).1
  rintro ⟨k', s'', hs'', hk'⟩
  have hplace : p.sources.length = k' := (Prod.mk.inj (Option.some.inj (hnew.symm.trans hs''))).1
  have hsame : k' = k := Option.some.inj (hk'.symm.trans (hkept.trans hk))
  omega

/-- Spans of the global tracer reach the exporter of the configured provider when its
source is the global one and it is new. -/
theorem taken_of_isGlobal (hnew : p.IsNew i) (hglobal : p.IsGlobal i)
    (hconfigured : p.configured = some i) (scope name : String) :
    ((p.span (p.globalTracer scope) name).shutdownConfigured.setup.exporterOf i).map
        Exporter.taken =
      (p.exporterOf i).map fun _ => [{ name, scope, version := "" }] := by
  obtain ⟨v, k, s, hv, hopen, hk, hs, hfresh⟩ := hnew
  have hsource : p.sourceOf i = some (k, s) := sourceOf_of_some hv hk hs
  have hruns : p.Runs i k s :=
    ⟨⟨v, hv, hopen⟩, hsource, hfresh.isRunning, hfresh.shutsDown⟩
  have htaken := (hruns.span scope "" name).shutdownConfigured hconfigured
  rw [hglobal.globalTracer hsource, htaken, hfresh.handed_take]
  unfold exporterOf
  rw [hsource]

/-- Configuring that makes a provider retires the one before and adds a fresh source
with the new provider. -/
theorem exists_installed {s : Settings.Tracing} {asGlobal : Bool}
    (hmade : (p.configure s asGlobal).result = .ok (some i)) :
    ∃ source : Source, source.IsFresh ∧ i = p.retire.setup.providers.length ∧
      (p.configure s asGlobal).setup = p.retire.setup.installed s source asGlobal := by
  have hturn : Turn p (.configure s asGlobal) (.ok (some i)) (p.configure s asGlobal).setup := by
    rw [← hmade]
    exact turn_change p (.configure s asGlobal)
  generalize (p.configure s asGlobal).setup = p' at hturn ⊢
  cases hturn with
  | made hon hsource =>
    exact ⟨_, Source.isFresh_of_ofSettings hsource, (uses_retire p).length_providers.symm, rfl⟩

/-- A change makes a provider that is to be the global one, after any run of changes.
Its source is the global one exactly if no change of the run made a provider for
that.  Then every span of the global tracer reaches its exporter.  Otherwise the
source of the first such provider is still the global one; that provider has been
shut down, and spans of the global tracer change nothing. -/
theorem global_source_after_changes (hconfigured : p₀.configured = none)
    (hglobal : p₀.global = none) (cs : List Change) {s : Settings.Tracing}
    (hmade : ((p₀.run cs).configure s true).result = .ok (some i)) :
    let p := ((p₀.run cs).configure s true).setup
    p.configured = some i ∧ p.IsUsable i ∧
    (p.IsGlobal i ↔ p₀.chosen? cs = none) ∧
    (p₀.chosen? cs = none → ∀ scope name,
      ((p.span (p.globalTracer scope) name).shutdownConfigured.setup.exporterOf i).map
          Exporter.taken =
        (p.exporterOf i).map fun _ => [{ name, scope, version := "" }]) ∧
    (∀ j, p₀.chosen? cs = some j → p.IsGlobal j ∧ p.IsShutDown j ∧
      ∀ scope name, p.span (p.globalTracer scope) name = p) := by
  intro p
  obtain ⟨source, hfresh, hi, hsetup⟩ := exists_installed hmade
  have hp : p = (p₀.run cs).retire.setup.installed s source true := hsetup
  have huses := uses_retire (p₀.run cs)
  have hfollows : (p₀.run cs).retire.setup.Follows (p₀.chosen? cs) :=
    (follows_run hglobal cs).advances huses.toAdvances huses.global
  have hconfigured' : p.configured = some i := by
    rw [hi, hp]
    exact configured_installed ..
  have hnew : p.IsNew i := by
    rw [hi, hp]
    exact isNew_installed hfresh true
  cases hchosen : p₀.chosen? cs with
  | none =>
    rw [hchosen] at hfollows
    have hfirst : p.IsGlobal i := by
      rw [hi, hp]
      exact isGlobal_installed hfollows s source
    refine ⟨hconfigured', hnew.isUsable, iff_of_true hfirst rfl, ?_, nofun⟩
    intro _
    exact taken_of_isGlobal hnew hfirst hconfigured'
  | some j =>
    rw [hchosen] at hfollows
    have hlate : ¬ p.IsGlobal i := by
      rw [hi, hp]
      exact not_isGlobal_installed hfollows s source true
    have hstays : p.IsGlobal j := by
      rw [hp]
      exact IsGlobal.installed hfollows s source true
    have hdown : p.IsShutDown j := by
      have hlt : j < (p₀.run cs).providers.length :=
        huses.length_providers ▸ IsGlobal.lt_length hfollows
      have hretired := (managed_run hconfigured cs).isShutDown_of_retire (le_of_chosen? hchosen) hlt
      rw [hp]
      exact hretired.advances (advances_installed ..)
    refine ⟨hconfigured', hnew.isUsable, iff_of_false hlate nofun, nofun, ?_⟩
    intro j' hj'
    obtain rfl := Option.some.inj hj'
    exact ⟨hstays, hdown, hstays.span_globalTracer hdown⟩

/-- A first provider is to be the global one, is shut down, and a second one is to be
the global one too. -/
theorem global_source_after_two_changes :
    let p := ((beginning.run [.configure .testing true, .shutdown]).configure .testing true).setup
    p.configured = some 1 ∧ p.IsUsable 1 ∧ p.IsGlobal 0 ∧ p.IsShutDown 0 := by
  have hlength :
      (beginning.run [.configure .testing true, .shutdown]).providers.length = 1 := by
    decide +kernel
  have hchosen : beginning.chosen? [.configure .testing true, .shutdown] = some 0 := by
    decide +kernel
  obtain ⟨source, hsource⟩ : ∃ source,
      Source.ofSettings beginning.packages beginning.host .testing none = .ok source := ⟨_, rfl⟩
  have hadvances := advances_run beginning [.configure .testing true, .shutdown]
  rw [← hadvances.packages, ← hadvances.host] at hsource
  have hmade := result_of_ofSettings rfl hsource true
  rw [hlength] at hmade
  obtain ⟨hconfigured, husable, -, -, hlate⟩ :=
    global_source_after_changes configured_beginning rfl _ hmade
  obtain ⟨hglobal, hdown, -⟩ := hlate 0 hchosen
  exact ⟨hconfigured, husable, hglobal, hdown⟩

/-- Two providers in memory are made one after the other, each to be the global one.
The global source is still that of the first, and a span of the global tracer does
not reach the second. -/
theorem global_source_left_behind :
    let p := beginning.run [.configure .testing true, .configure .testing true]
    p.configured = some 1 ∧ (p.providers[1]?).bind Provider.source = some 1 ∧
      p.global = some 0 ∧
      ((p.span (p.globalTracer "gqlext") "late").exporterOf 1).map Exporter.taken = some [] := by
  decide +kernel

end Setup

end QueryTelemetry.Export
