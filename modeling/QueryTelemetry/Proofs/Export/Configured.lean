import QueryTelemetry.Proofs.Export.Changes

/-!
# The configured provider over a run of changes

A run of changes keeps one provider at most in use.  Whatever else it has made
is shut down: when the next provider is made, the one before it is shut down
first, and shutting down leaves none.

The provider before is shut down even if the next one cannot be made then.  It
stays the configured one, and it has been shut down (`isShutDown_of_raises`).
So what decides about the configured provider is the last change that was not
switched off (`LastRaised`).
-/

namespace QueryTelemetry.Export.Setup

variable {p p₀ : Setup} {i n : Nat}

/-- The last change that was not switched off raised an error. -/
def LastRaised (p₀ : Setup) (cs : List Change) : Prop :=
  ∃ before c after, cs = before ++ c :: after ∧ (p₀.run before).Raises c ∧ ∀ d ∈ after, d.IsOff

theorem lastRaised_concat (p₀ : Setup) (cs : List Change) (c : Change) :
    LastRaised p₀ (cs ++ [c]) ↔ (p₀.run cs).Raises c ∨ c.IsOff ∧ LastRaised p₀ cs := by
  constructor
  · rintro ⟨before, d, after, hcs, hraises, hoff⟩
    rcases List.eq_nil_or_concat after with rfl | ⟨after', d', rfl⟩
    · obtain ⟨rfl, hlast⟩ := List.append_inj' hcs rfl
      obtain rfl := List.singleton_inj.1 hlast
      exact .inl hraises
    · rw [List.concat_eq_append, ← List.cons_append, ← List.append_assoc] at hcs
      obtain ⟨rfl, hlast⟩ := List.append_inj' hcs rfl
      obtain rfl := List.singleton_inj.1 hlast
      exact .inr ⟨hoff c (by simp), before, d, after', rfl, hraises, fun e he => hoff e (by simp [he])⟩
  · rintro (hraises | ⟨hc, before, d, after, rfl, hraises, hoff⟩)
    · exact ⟨cs, c, [], rfl, hraises, fun d hd => nomatch hd⟩
    · refine ⟨before, d, after ++ [c], by simp, hraises, ?_⟩
      intro e he
      rcases List.mem_append.1 he with he | he
      · exact hoff e he
      · obtain rfl := List.mem_singleton.1 he
        exact hc

/-! ## One change -/

/-- A flush leaves a provider as sturdy as it is. -/
theorem IsSturdy.flush (h : p.IsSturdy i) (j : Nat) (timeout : Int) :
    (p.flush j timeout).setup.IsSturdy i := by
  obtain ⟨v, k, s, hv, hk, hs, hfails, hclosed⟩ := h
  obtain ⟨s', hs', hfails', hstopped⟩ := (uses_flush p j timeout).source k s hs
  refine ⟨v, k, s', ?_, hk, hs', hfails'.trans hfails, fun hc => hstopped (hclosed hc)⟩
  rw [providers_flush]
  exact hv

theorem isShutDown_shutdownConfigured (hi : p.configured = some i) (h : p.IsSturdy i) :
    p.shutdownConfigured.setup.IsShutDown i := by
  have hdown := isShutDown_shutdown (h.flush i usualTimeout)
  unfold shutdownConfigured
  rw [hi]
  exact hdown

theorem length_shutdownConfigured (p : Setup) :
    p.shutdownConfigured.setup.providers.length = p.providers.length := by
  unfold shutdownConfigured
  split
  · rfl
  · next i hi =>
    exact ((uses_flush p i usualTimeout).trans (uses_shutdown _ i)).length_providers

theorem configured_shutdownConfigured (p : Setup) :
    p.shutdownConfigured.setup.configured = none := by
  unfold shutdownConfigured
  split
  · assumption
  · rfl

/-- A provider that has been shut down stays sturdy. -/
theorem IsSturdy.advances {p' : Setup} (h : p.IsSturdy i) (hp : Advances p p')
    (hdown : p'.IsShutDown i) : p'.IsSturdy i := by
  obtain ⟨v, k, s, hv, hk, hs, hfails, -⟩ := h
  obtain ⟨closed, hv', -⟩ := hp.provider i v hv
  obtain ⟨s', hs', hfails', -⟩ := hp.source k s hs
  have hsource : p'.sourceOf i = some (k, s') := sourceOf_of_some hv' hk hs'
  exact ⟨_, k, s', hv', hk, hs', hfails'.trans hfails, fun _ => hdown.isStopped hsource⟩

/-! ## The run -/

/-- What holds of the providers from place `n` on: all of them but the configured
one have been shut down, and so has that one if it was spoiled by an error. -/
structure Managed (n : Nat) (spoiled : Prop) (p : Setup) : Prop where
  base : n ≤ p.providers.length
  retired : ∀ i, n ≤ i → i < p.providers.length → p.configured ≠ some i → p.IsShutDown i
  place : ∀ i, p.configured = some i → n ≤ i
  sturdy : ∀ i, p.configured = some i → p.IsSturdy i
  spoilt : ∀ i, p.configured = some i → spoiled → p.IsShutDown i
  sound : ∀ i, p.configured = some i → ¬ spoiled → p.IsUsable i

/-- Without a configured provider, all of them must have been shut down. -/
theorem managed_of_none {spoiled : Prop} (hnone : p.configured = none)
    (hbase : n ≤ p.providers.length)
    (hretired : ∀ i, n ≤ i → i < p.providers.length → p.IsShutDown i) : Managed n spoiled p where
  base := hbase
  retired i hle hlt _ := hretired i hle hlt
  place _ hi := nomatch hnone.symm.trans hi
  sturdy _ hi := nomatch hnone.symm.trans hi
  spoilt _ hi := nomatch hnone.symm.trans hi
  sound _ hi := nomatch hnone.symm.trans hi

/-- Shutting down leaves no configured provider, and none in use. -/
theorem Managed.shutdownConfigured {spoiled : Prop} (h : Managed n spoiled p) (spoiled' : Prop) :
    Managed n spoiled' p.shutdownConfigured.setup := by
  have hlength := length_shutdownConfigured p
  apply managed_of_none (configured_shutdownConfigured p) (hlength ▸ h.base)
  intro i hle hlt
  rw [hlength] at hlt
  by_cases hi : p.configured = some i
  · exact isShutDown_shutdownConfigured hi (h.sturdy i hi)
  · exact (h.retired i hle hlt hi).advances (advances_shutdownConfigured p)

/-- The configured provider that is retired has been shut down like all others. -/
theorem Managed.isShutDown_of_retire {spoiled : Prop} (h : Managed n spoiled p) (hle : n ≤ i)
    (hlt : i < p.providers.length) : p.retire.setup.IsShutDown i := by
  by_cases hi : p.configured = some i
  · exact isShutDown_retire hi (h.sturdy i hi)
  · exact (h.retired i hle hlt hi).advances (uses_retire p).toAdvances

theorem Managed.retire {spoiled : Prop} (h : Managed n spoiled p) :
    Managed n True p.retire.setup := by
  have huses := uses_retire p
  have hdown : ∀ i, p.retire.setup.configured = some i → p.retire.setup.IsShutDown i := by
    intro i hi
    rw [huses.configured] at hi
    exact isShutDown_retire hi (h.sturdy i hi)
  refine
    { base := by rw [huses.length_providers]; exact h.base
      retired := ?_
      place := fun i hi => h.place i (huses.configured ▸ hi)
      sturdy := ?_
      spoilt := fun i hi _ => hdown i hi
      sound := fun i _ hsound => absurd trivial hsound }
  · intro i hle hlt _
    rw [huses.length_providers] at hlt
    exact h.isShutDown_of_retire hle hlt
  · intro i hi
    have hsturdy := h.sturdy i (huses.configured ▸ hi)
    exact hsturdy.advances huses.toAdvances (hdown i hi)

theorem Managed.installed {spoiled : Prop} (h : Managed n spoiled p) {s : Settings.Tracing}
    {source : Source} (hfresh : source.IsFresh) (asGlobal : Bool) :
    Managed n False (p.retire.setup.installed s source asGlobal) := by
  have huses := uses_retire p
  have hadvances := advances_installed p.retire.setup s source asGlobal
  have hlength : (p.retire.setup.installed s source asGlobal).providers.length =
      p.providers.length + 1 := by
    simp [Setup.installed, huses.length_providers]
  have hconfigured : (p.retire.setup.installed s source asGlobal).configured =
      some p.providers.length := by
    rw [← huses.length_providers]
    rfl
  have hnew : (p.retire.setup.installed s source asGlobal).IsNew p.providers.length := by
    rw [← huses.length_providers]
    exact isNew_installed hfresh asGlobal
  have hplace : ∀ i, (p.retire.setup.installed s source asGlobal).configured = some i →
      i = p.providers.length := by
    intro i hi
    exact Option.some.inj (hi.symm.trans hconfigured)
  refine
    { base := by have := h.base; omega
      retired := ?_
      place := fun i hi => hplace i hi ▸ h.base
      sturdy := fun i hi => hplace i hi ▸ hnew.isSturdy
      spoilt := fun i _ hspoiled => hspoiled.elim
      sound := fun i hi _ => hplace i hi ▸ hnew.isUsable }
  intro i hle hlt hother
  have hi : i ≠ p.providers.length := by
    rintro rfl
    exact hother hconfigured
  exact (h.isShutDown_of_retire hle (by omega)).advances hadvances

/-- A provider is managed after a change as before it; what counts is whether the
change raised an error. -/
theorem Managed.next {spoiled : Prop} (h : Managed n spoiled p) (c : Change) :
    Managed n (p.Raises c ∨ c.IsOff ∧ spoiled) (p.next c) := by
  have hturn := turn_change p c
  unfold Raises
  generalize (p.change c).result = r at hturn ⊢
  generalize p.next c = p' at hturn ⊢
  cases hturn with
  | off hoff => simpa [Change.IsOff, hoff] using h
  | refused hon hsource => simpa using h.retire
  | @made s asGlobal source hon hsource =>
    have hinstalled := h.installed (s := s) (Source.isFresh_of_ofSettings hsource) asGlobal
    simpa [Change.IsOff, hon] using hinstalled
  | stopped => exact h.shutdownConfigured _

theorem managed_run (h : p₀.configured = none) (cs : List Change) :
    Managed p₀.providers.length (LastRaised p₀ cs) (p₀.run cs) := by
  induction cs using List.reverseRecOn with
  | nil =>
    apply managed_of_none h (Nat.le_refl _)
    intro i hle hlt
    omega
  | append_singleton cs c ih =>
    rw [run_concat, lastRaised_concat]
    exact ih.next c

/-- A change that raises an error leaves the configured provider where it is, and
shut down. -/
theorem isShutDown_of_raises {spoiled : Prop} (h : Managed n spoiled p) {c : Change}
    (hraises : p.Raises c) :
    (p.next c).configured = p.configured ∧ ∀ i, p.configured = some i → (p.next c).IsShutDown i := by
  obtain ⟨f, hf⟩ := hraises
  have hturn := turn_change p c
  rw [hf] at hturn
  generalize p.next c = p' at hturn ⊢
  cases hturn with
  | refused hon hsource =>
    exact ⟨(uses_retire p).configured, fun i hi => isShutDown_retire hi (h.sturdy i hi)⟩

/-- After any run of changes every provider that the run made has been shut down,
but for the configured one; and the configured one has been shut down exactly when
the last change that was not switched off raised an error.  Otherwise it is in
use.  A change that raises an error takes the configured provider out of use. -/
theorem configured_after_changes (h : p₀.configured = none) (cs : List Change) :
    (∀ i, p₀.providers.length ≤ i → i < (p₀.run cs).providers.length →
      (p₀.run cs).configured ≠ some i → (p₀.run cs).IsShutDown i) ∧
    (∀ i, (p₀.run cs).configured = some i →
      p₀.providers.length ≤ i ∧ i < (p₀.run cs).providers.length ∧
      ((p₀.run cs).IsShutDown i ↔ LastRaised p₀ cs) ∧
      ((p₀.run cs).IsUsable i ↔ ¬ LastRaised p₀ cs)) ∧
    (∀ c, (p₀.run cs).Raises c → ((p₀.run cs).next c).configured = (p₀.run cs).configured ∧
      ∀ i, (p₀.run cs).configured = some i →
        ((p₀.run cs).next c).IsShutDown i ∧ ¬ ((p₀.run cs).next c).IsUsable i) := by
  have hrun := managed_run h cs
  refine ⟨hrun.retired, ?_, ?_⟩
  · intro i hi
    have hspoilt := hrun.spoilt i hi
    have hsound := hrun.sound i hi
    have hlt : i < (p₀.run cs).providers.length := by
      obtain ⟨v, k, s, hv, -⟩ := hrun.sturdy i hi
      exact (List.getElem?_eq_some_iff.1 hv).1
    refine ⟨hrun.place i hi, hlt, ⟨?_, hspoilt⟩, ⟨?_, hsound⟩⟩
    · intro hdown
      by_contra hlast
      exact not_isUsable_of_isShutDown hdown (hsound hlast)
    · intro husable hlast
      exact not_isUsable_of_isShutDown (hspoilt hlast) husable
  · intro c hraises
    obtain ⟨hconfigured, hdown⟩ := isShutDown_of_raises hrun hraises
    refine ⟨hconfigured, ?_⟩
    intro i hi
    exact ⟨hdown i hi, not_isUsable_of_isShutDown (hdown i hi)⟩

/-- A program that begins, on a host without packages for a collector. -/
def beginning : Setup :=
  initial { grpc := false, http := false } ⟨"host", "machine", "system", "runtime", "version", 1⟩

theorem configured_beginning : beginning.configured = none := rfl

/-- Settings that want a collector raise an error. -/
theorem raises_without_packages (cs : List Change) (asGlobal : Bool) :
    (beginning.run cs).Raises (.configure .standard asGlobal) := by
  have hadvances := advances_run beginning cs
  apply raises_of_ofSettings rfl
  rw [hadvances.packages, hadvances.host]
  rfl

/-- A provider in memory is in use until settings are tried that want a collector. -/
theorem configured_after_two_changes :
    let p := beginning.run [.configure .testing true]
    p.configured = some 0 ∧ p.IsUsable 0 ∧ p.Raises (.configure .standard true) ∧
      (p.next (.configure .standard true)).IsShutDown 0 := by
  intro p
  have hconfigured : p.configured = some 0 := rfl
  have hraises : p.Raises (.configure .standard true) := raises_without_packages _ true
  have hlast : ¬ LastRaised beginning [.configure .testing true] := by
    rw [← List.nil_append [_], lastRaised_concat]
    rintro (⟨f, hf⟩ | ⟨hoff, -⟩)
    · cases hf
    · cases hoff
  obtain ⟨-, hcurrent, herror⟩ :=
    configured_after_changes configured_beginning [.configure .testing true]
  obtain ⟨-, -, -, husable⟩ := hcurrent 0 hconfigured
  obtain ⟨-, hdown⟩ := herror _ hraises
  exact ⟨hconfigured, husable.2 hlast, hraises, (hdown 0 hconfigured).1⟩

/-- After settings that want a collector the provider in memory is still the
configured one, but it has been shut down, and its spans are lost. -/
theorem configured_provider_lost :
    let p := beginning.run [.configure .testing false]
    let p' := p.next (.configure .standard false)
    p.Raises (.configure .standard false) ∧ p'.configured = some 0 ∧
      (∃ v, p'.providers[0]? = some v ∧ v.closed = true) ∧
      ∀ name, p'.span (p'.tracer 0 none none) name = p' := by
  intro p p'
  have hconfigured : p.configured = some 0 := rfl
  have hraises : p.Raises (.configure .standard false) := raises_without_packages _ false
  have hmanaged := managed_run configured_beginning [.configure .testing false]
  obtain ⟨hkept, hdown⟩ := isShutDown_of_raises hmanaged hraises
  have hlost : p'.IsShutDown 0 := hdown 0 hconfigured
  obtain ⟨v, hv, hclosed, -⟩ := id hlost
  exact ⟨hraises, hkept.trans hconfigured, ⟨v, hv, hclosed⟩, hlost.span_tracer none none⟩

end QueryTelemetry.Export.Setup
