import QueryTelemetry.Proofs.Export.Changes
import QueryTelemetry.Proofs.Settings.Variables

/-!
# Providers of settings from the environment

Loading settings reads every variable by itself, so it accepts sizes and times that a
provider refuses.  Most settings cannot be refused: a description of the service is always
simple enough for a resource, and the times that have no variable are fixed.  What is left
is the time limit, which must be finite, and the two sizes, which must be positive and fit
each other (`Environment.AllowsBatching`).  A provider that sends spans to a collector can be made
from loaded settings exactly then (`Setup.create_loaded_iff`).
-/

namespace QueryTelemetry

/-! ## What can be cut to a whole number -/

namespace Decimal

/-- Finite numbers have a whole part, and no others. -/
theorem exists_truncate_iff (x : Float) :
    (∃ n, truncate x = .ok n) ↔ x.isNaN = false ∧ x.isInf = false := by
  unfold truncate
  cases x.isNaN <;> cases x.isInf <;> simp

end Decimal

/-! ## Descriptions of a service -/

namespace Export.Resource

/-- A value that can be made simple. -/
def IsSimple (v : Value) : Prop := ∃ simple, simplify v = .ok simple

/-- An entry with a text for a key and a value that can be made simple. -/
def IsPlain (e : Value × Value) : Prop := (∃ name, e.1 = .text name) ∧ IsSimple e.2

theorem isPlain_of_mem_put {m : Entries} {k v : Value} (hm : ∀ e ∈ m, IsPlain e)
    (h : IsPlain (k, v)) : ∀ e ∈ Assoc.put m k v, IsPlain e := by
  induction m with
  | nil =>
    intro e he
    obtain rfl := List.mem_singleton.1 he
    exact h
  | cons first m ih =>
    have hrest : ∀ e ∈ m, IsPlain e := fun e he => hm e (List.mem_cons_of_mem _ he)
    have hfirst : IsPlain first := hm first List.mem_cons_self
    simp only [Assoc.put]
    split
    · rintro e (_ | ⟨_, he⟩)
      · exact ⟨hfirst.1, h.2⟩
      · exact hrest e he
    · rintro e (_ | ⟨_, he⟩)
      · exact hfirst
      · exact ih hrest e he

theorem isPlain_of_mem_overlay {m n : Entries} (hm : ∀ e ∈ m, IsPlain e)
    (hn : ∀ e ∈ n, IsPlain e) : ∀ e ∈ Assoc.overlay m n, IsPlain e := by
  induction n generalizing m with
  | nil => exact hm
  | cons e n ih =>
    rw [Assoc.overlay_cons]
    exact ih (isPlain_of_mem_put hm (hn e List.mem_cons_self))
      fun e' he' => hn e' (List.mem_cons_of_mem _ he')

theorem exists_simplifyEntries {m : Entries} (hm : ∀ e ∈ m, IsPlain e) :
    ∃ simple, simplifyEntries m = .ok simple := by
  induction m with
  | nil => exact ⟨[], rfl⟩
  | cons e m ih =>
    obtain ⟨simple, hsimple⟩ := ih fun e' he' => hm e' (List.mem_cons_of_mem _ he')
    obtain ⟨k, v⟩ := e
    obtain ⟨⟨name, rfl⟩, item, hitem⟩ := hm _ List.mem_cons_self
    simp only [simplifyEntries]
    split
    · refine ⟨(name, item) :: simple, ?_⟩
      rw [hitem, hsimple]
      rfl
    · exact ⟨simple, hsimple⟩

theorem isPlain_of_mem_toEntries {fields : Fields} (h : ∀ e ∈ fields, IsSimple e.2) :
    ∀ e ∈ fields.toEntries, IsPlain e := by
  intro e he
  obtain ⟨e', he', rfl⟩ := List.mem_map.1 he
  exact ⟨⟨e'.1, rfl⟩, h e' he'⟩

theorem isSimple_text (s : String) : IsSimple (.text s) := ⟨.text s, rfl⟩

theorem isSimple_toFields (host : Host) : ∀ e ∈ host.toFields, IsSimple e.2 := by
  have hpid : IsSimple (.int host.processId) := ⟨.int host.processId, rfl⟩
  simpa [Host.toFields, isSimple_text] using hpid

theorem isSimple_optional (name : String) (given : Option String) :
    ∀ e ∈ Settings.Service.optional name given, IsSimple e.2 := by
  cases given with
  | none => exact fun _ he => absurd he List.not_mem_nil
  | some text =>
    simp only [Settings.Service.optional]
    split
    · exact fun _ he => absurd he List.not_mem_nil
    · rintro e (_ | ⟨_, ⟨⟩⟩)
      exact isSimple_text text

/-- A service that is described by texts alone has a resource on every host. -/
theorem exists_ofService {s : Settings.Service} (h : s.additional = []) (host : Option Host) :
    ∃ r, ofService s host = .ok r := by
  have hhost : ∀ e ∈ ((host.map Host.toFields).getD []).toEntries, IsPlain e := by
    refine isPlain_of_mem_toEntries ?_
    cases host with
    | none => exact fun _ he => absurd he List.not_mem_nil
    | some host => exact isSimple_toFields host
  have hservice : ∀ e ∈ s.toAttributes, IsPlain e := by
    rw [Settings.Service.toAttributes, h, Assoc.overlay_nil]
    refine isPlain_of_mem_toEntries fun e he => ?_
    rcases List.mem_append.1 he with he | he
    · rcases List.mem_append.1 he with he | he
      · simp only [List.mem_cons, List.not_mem_nil, or_false] at he
        obtain rfl | rfl | rfl := he <;> exact isSimple_text _
      · exact isSimple_optional _ _ e he
    · exact isSimple_optional _ _ e he
  obtain ⟨simple, hsimple⟩ := exists_simplifyEntries (isPlain_of_mem_overlay hhost hservice)
  refine ⟨named { attributes := Assoc.overlay [] simple }, ?_⟩
  rw [ofService, create, ofEntries, hsimple]
  rfl

end Export.Resource

/-! ## Loaded settings -/

namespace Settings

/-- What is read of the time limit and of the two sizes decides everything in loaded settings
that a provider may refuse. -/
structure Loads (s : Tracing) (timeout : Option Float) (queueSize batchSize : Option Int) :
    Prop where
  service : s.service.additional = []
  protocol : s.collector.protocol = .grpc
  timeout : s.collector.timeout = (timeout.map Seconds.fraction).getD (.fraction 10.0)
  batch : s.batch = { Batch.standard with
    queueSize := queueSize.getD 2048, batchSize := batchSize.getD 512 }

theorem exists_of_load {env : Environment} {s : Tracing} (h : Tracing.load env = .ok s) :
    ∃ timeout queueSize batchSize, env.float? "TIMEOUT" = .ok timeout ∧
      env.int? "BATCH_QUEUE_SIZE" = .ok queueSize ∧ env.int? "BATCH_SIZE" = .ok batchSize ∧
      Loads s timeout queueSize batchSize := by
  obtain ⟨hread, hrest⟩ := Tracing.reading_of_load h
  obtain ⟨timeout, htimeout, hseconds⟩ := exists_of_map_eq_ok (hread .timeout)
  obtain ⟨queueSize, hqueue, hqueued⟩ := exists_of_map_eq_ok (hread .queueSize)
  obtain ⟨batchSize, hbatch, hbatched⟩ := exists_of_map_eq_ok (hread .batchSize)
  have hqueued : s.batch.queueSize = queueSize.getD 2048 := hqueued.symm
  have hbatched : s.batch.batchSize = batchSize.getD 512 := hbatched.symm
  have hexport : s.batch.exportTimeout = Batch.standard.exportTimeout :=
    congrArg (·.batch.exportTimeout) hrest
  have hdelay : s.batch.scheduleDelay = Batch.standard.scheduleDelay :=
    congrArg (·.batch.scheduleDelay) hrest
  refine ⟨timeout, queueSize, batchSize, htimeout, hqueue, hbatch,
    congrArg (·.service.additional) hrest, congrArg (·.collector.protocol) hrest, hseconds.symm, ?_⟩
  rw [← hqueued, ← hbatched]
  simp only [← hexport, ← hdelay]

/-- What the environment says about batching can be used: a time limit that is set is finite,
the sizes are positive, and a batch fits the queue. -/
structure Environment.AllowsBatching (env : Environment) : Prop where
  timeout : ∀ x, env.float? "TIMEOUT" = .ok (some x) → x.isNaN = false ∧ x.isInf = false
  sizes : ∃ queueSize batchSize, env.int? "BATCH_QUEUE_SIZE" = .ok queueSize ∧
    env.int? "BATCH_SIZE" = .ok batchSize ∧ 0 < queueSize.getD 2048 ∧ 0 < batchSize.getD 512 ∧
    batchSize.getD 512 ≤ queueSize.getD 2048

end Settings

namespace Export

open Settings

variable {s : Settings.Tracing} {timeout : Option Float} {queueSize batchSize : Option Int}

/-! ## What a provider makes of them -/

/-- Limits with the times of settings that give none. -/
def Limits.ofSizes (queueSize batchSize : Int) : Limits :=
  { queueSize, batchSize, exportTimeout := 30000, scheduleDelay := 5000 }

theorem ofBatch_loaded (h : Loads s timeout queueSize batchSize) :
    Limits.ofBatch s.batch =
      (Limits.ofSizes (queueSize.getD 2048) (batchSize.getD 512)).check := by
  rw [h.batch]
  rfl

/-- The default time limit can be cut to seconds, and another one exactly if it is finite. -/
theorem exists_inSeconds_loaded_iff (h : Loads s timeout queueSize batchSize) :
    (∃ n, s.collector.timeout.inSeconds = .ok n) ↔
      ∀ x, timeout = some x → x.isNaN = false ∧ x.isInf = false := by
  rw [h.timeout]
  cases timeout with
  | none => exact ⟨fun _ x hx => (nomatch hx), fun _ => ⟨10, rfl⟩⟩
  | some x =>
    have hcut : (∃ n, (Seconds.fraction x).inSeconds = .ok n) ↔ ∃ n, Decimal.truncate x = .ok n := by
      simp only [Seconds.inSeconds]
      cases Decimal.truncate x <;> simp [Except.mapError]
    simp only [Option.map_some, Option.getD_some, Option.some.injEq, forall_eq']
    rw [hcut, Decimal.exists_truncate_iff]

/-- A source of loaded settings takes its time limit and its limits, and nothing else can be
refused. -/
theorem build_loaded (h : Loads s timeout queueSize batchSize) (hotlp : s.exporter = .otlp)
    {p : Packages} (hgrpc : p.grpc = true) (host : Host) :
    ∃ source : Int → Limits → Source, Source.build p host s none =
      s.collector.timeout.inSeconds >>= fun seconds =>
        Limits.ofBatch s.batch >>= fun limits => .ok (source seconds limits) := by
  obtain ⟨resource, hresource⟩ := Resource.exists_ofService h.service (some host)
  have hinstalled : Exporter.isInstalled p s.collector.protocol = true := by
    rw [h.protocol]
    exact hgrpc
  refine ⟨fun timeout limits => { Source.bare resource with
    processor := some (.create (some limits) (.ofTarget (.collector
      { protocol := s.collector.protocol, endpoint := s.collector.endpoint
        headers := s.collector.headers, timeout, insecure := s.collector.insecure
        compression := s.collector.compression }))) }, ?_⟩
  simp only [Source.build, hresource, Source.chooseExporter, Exporter.ofSettings, hotlp,
    Exporter.ofCollector, hinstalled, if_true, Source.processorOf]
  cases s.collector.timeout.inSeconds with
  | error f => rfl
  | ok seconds => cases Limits.ofBatch s.batch <;> rfl

/-- A plain fault is reported as the failure of the provider. -/
theorem failure_plain (kind : FaultKind) (message : String) :
    ∃ text, Source.failure (.plain kind message) =
      .provider ("Failed to initialize TracerProvider: " ++ text) "tracer" (.plain kind message) := by
  cases kind <;> exact ⟨_, rfl⟩

theorem plain_of_inSeconds {t : Seconds} {f : Fault} (h : t.inSeconds = .error f) :
    ∃ kind message, f = .plain kind message := by
  cases t with
  | whole n => cases h
  | fraction x =>
    simp only [Seconds.inSeconds] at h
    cases hcut : Decimal.truncate x with
    | ok n => rw [hcut] at h; cases h
    | error e =>
      rw [hcut] at h
      obtain rfl := Except.error.inj h
      cases e <;> exact ⟨_, _, rfl⟩

theorem plain_of_check {l : Limits} {f : Fault} (h : l.check = .error f) :
    ∃ message, f = .ofValue message := by
  simp only [Limits.check] at h
  repeat' split at h
  all_goals first | exact ⟨_, (Except.error.inj h).symm⟩ | cases h

namespace Setup

theorem create_of_build {p : Setup} (henabled : s.enabled = true) {source : Source}
    (h : Source.build p.packages p.host s none = .ok source) :
    ∃ i p', p.create s none = .ok (i, p') := by
  have hsource : Source.ofSettings p.packages p.host s none = .ok source := by
    rw [Source.ofSettings, h]
    rfl
  rw [create, if_pos henabled, hsource]
  exact ⟨_, _, rfl⟩

theorem create_of_build_error {p : Setup} (henabled : s.enabled = true) {kind : FaultKind}
    {message : String} (h : Source.build p.packages p.host s none = .error (.plain kind message)) :
    ∃ text, p.create s none = .error (.provider
      ("Failed to initialize TracerProvider: " ++ text) "tracer" (.plain kind message)) := by
  obtain ⟨text, htext⟩ := failure_plain kind message
  have hsource : Source.ofSettings p.packages p.host s none = .error (.provider
      ("Failed to initialize TracerProvider: " ++ text) "tracer" (.plain kind message)) := by
    rw [Source.ofSettings, h, ← htext]
    rfl
  refine ⟨text, ?_⟩
  rw [create, if_pos henabled, hsource]
  rfl

/-- What the environment must say for a time limit that can be cut and limits that pass. -/
theorem allowsBatching_iff {env : Environment} (hloads : Loads s timeout queueSize batchSize)
    (htimeout : env.float? "TIMEOUT" = .ok timeout)
    (hqueue : env.int? "BATCH_QUEUE_SIZE" = .ok queueSize)
    (hbatch : env.int? "BATCH_SIZE" = .ok batchSize) :
    env.AllowsBatching ↔ (∃ n, s.collector.timeout.inSeconds = .ok n) ∧
      ∃ l, Limits.ofBatch s.batch = .ok l := by
  rw [exists_inSeconds_loaded_iff hloads, ofBatch_loaded hloads]
  constructor
  · rintro ⟨hfinite, queueSize', batchSize', hqueue', hbatch', hpositive⟩
    obtain rfl := Except.ok.inj (hqueue.symm.trans hqueue')
    obtain rfl := Except.ok.inj (hbatch.symm.trans hbatch')
    refine ⟨fun x hx => hfinite x (hx ▸ htimeout), _, Limits.check_eq_ok_iff.2 ⟨rfl, ?_⟩⟩
    have hdelay : (0 : Int) < 5000 := by decide
    exact ⟨hpositive.1, hdelay, hpositive.2.1, hpositive.2.2⟩
  · rintro ⟨hfinite, l, hl⟩
    obtain ⟨-, hqueuePos, -, hbatchPos, hfits⟩ := Limits.check_eq_ok_iff.1 hl
    refine ⟨fun x hx => hfinite x ?_, queueSize, batchSize, hqueue, hbatch, ?_⟩
    · exact Except.ok.inj (htimeout.symm.trans hx)
    · exact ⟨hqueuePos, hbatchPos, hfits⟩

/-- Settings that are loaded from the environment, switched on and meant for a collector make a
provider exactly if the environment allows batching, and otherwise fail as a provider that
could not be initialized. -/
theorem create_loaded_iff {env : Environment} (hload : Tracing.load env = .ok s)
    (henabled : s.enabled = true) (hotlp : s.exporter = .otlp) {p : Setup}
    (hgrpc : p.packages.grpc = true) :
    ((∃ i p', p.create s none = .ok (i, p')) ↔ env.AllowsBatching) ∧
      (¬ env.AllowsBatching → ∃ text cause, p.create s none = .error
        (.provider ("Failed to initialize TracerProvider: " ++ text) "tracer" cause)) := by
  obtain ⟨timeout, queueSize, batchSize, htimeout, hqueue, hbatch, hloads⟩ := exists_of_load hload
  obtain ⟨source, hbuild⟩ := build_loaded hloads hotlp hgrpc p.host
  rw [allowsBatching_iff hloads htimeout hqueue hbatch]
  have hrefused : ∀ {kind message}, Source.build p.packages p.host s none =
      .error (.plain kind message) → (¬ ∃ i p', p.create s none = .ok (i, p')) ∧
        ∃ text cause, p.create s none = .error
          (.provider ("Failed to initialize TracerProvider: " ++ text) "tracer" cause) := by
    intro kind message h
    obtain ⟨text, hfailed⟩ := create_of_build_error henabled h
    refine ⟨?_, text, _, hfailed⟩
    rintro ⟨i, p', hcreated⟩
    cases hfailed.symm.trans hcreated
  cases hseconds : s.collector.timeout.inSeconds with
  | error f =>
    obtain ⟨kind, message, rfl⟩ := plain_of_inSeconds hseconds
    rw [hseconds] at hbuild
    obtain ⟨hnone, hfailed⟩ := hrefused hbuild
    exact ⟨⟨fun h => absurd h hnone, fun ⟨⟨_, h⟩, _⟩ => nomatch h⟩, fun _ => hfailed⟩
  | ok seconds =>
    cases hchecked : Limits.ofBatch s.batch with
    | error f =>
      obtain ⟨message, rfl⟩ := plain_of_check ((ofBatch_loaded hloads).symm.trans hchecked)
      rw [hseconds, hchecked] at hbuild
      obtain ⟨hnone, hfailed⟩ := hrefused hbuild
      exact ⟨⟨fun h => absurd h hnone, fun ⟨_, _, h⟩ => nomatch h⟩, fun _ => hfailed⟩
    | ok limits =>
      rw [hseconds, hchecked] at hbuild
      have hcreated := create_of_build henabled hbuild
      exact ⟨⟨fun _ => ⟨⟨_, rfl⟩, _, rfl⟩, fun _ => hcreated⟩,
        fun h => absurd ⟨⟨_, rfl⟩, _, rfl⟩ h⟩

/-- The environment in which the variables of the two sizes are set. -/
def sized (queueSize batchSize : Option String) : Environment :=
  { entries := (queueSize.map ("GQLEXT_OTEL_BATCH_QUEUE_SIZE", ·)).toList ++
      (batchSize.map ("GQLEXT_OTEL_BATCH_SIZE", ·)).toList
    lead := tracingLead }

/-- A small queue with small batches makes a provider. -/
theorem create_small_batches :
    ∃ s, Tracing.load (sized (some "100") (some "10")) = .ok s ∧
      ∀ host, ∃ i p', (Setup.initial ⟨true, true⟩ host).create s none = .ok (i, p') := by
  let s : Settings.Tracing :=
    { Tracing.standard with batch := { Batch.standard with queueSize := 100, batchSize := 10 } }
  have hload : Tracing.load (sized (some "100") (some "10")) = .ok s := rfl
  have hallows : (sized (some "100") (some "10")).AllowsBatching :=
    ⟨fun x hx => (nomatch hx), some 100, some 10, rfl, rfl, by decide⟩
  refine ⟨s, hload, fun host => ?_⟩
  exact (create_loaded_iff hload rfl rfl (p := .initial ⟨true, true⟩ host) rfl).1.2 hallows

/-- A small queue alone makes none: it is too small for the batches of settings that give none. -/
theorem not_create_small_queue :
    ∃ s, Tracing.load (sized (some "100") none) = .ok s ∧ s.enabled = true ∧
      s.exporter = .otlp ∧ ∀ host, (Setup.initial ⟨true, true⟩ host).create s none =
        .error (.provider ("Failed to initialize TracerProvider: " ++
          "max_export_batch_size must be less than or equal to max_queue_size.") "tracer"
            (.ofValue "max_export_batch_size must be less than or equal to max_queue_size.")) :=
  ⟨_, rfl, rfl, rfl, fun _ => rfl⟩

end Setup

end Export

end QueryTelemetry
