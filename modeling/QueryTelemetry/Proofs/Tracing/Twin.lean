import QueryTelemetry.Proofs.Tracing.Conservation
import QueryTelemetry.Proofs.Tracing.Mirror

/-!
# Sessions that are twins

Two sessions are twins when nothing but the ids of their spans tells them apart.
`Twin` says so for the spans of a pairing.  The observers have the same options
and the same mark of an outer trace.  The same slots are live, in the same
order, with contexts that are alike, and the paired spans are the same up to
their ids.  Each of the two journals may hold other spans besides.

The same call keeps two sessions twins (`Twin.next`), whatever is current around
it: the spans that it starts become a new pair.  A session stays the twin of
another while its journal is written to elsewhere (`Twin.frame`).  Both are
about one step, and `twin_run` is the run that follows from the first.
-/

namespace QueryTelemetry

/-! ## Maps whose entries correspond -/

namespace Assoc

variable {κ ν ν' : Type} [BEq κ] {R : κ × ν → κ × ν' → Prop}
  {m : List (κ × ν)} {n : List (κ × ν')}

theorem forall₂_put [LawfulBEq κ] (hkey : ∀ e e', R e e' → e'.1 = e.1)
    (h : List.Forall₂ R m n) {k : κ} {v : ν} {v' : ν'} (hv : R (k, v) (k, v')) : List.Forall₂ R (put m k v) (put n k v') := by
  induction h with
  | nil => exact .cons hv .nil
  | @cons e e' m n he hrest ih =>
    obtain ⟨k₁, v₁⟩ := e
    obtain ⟨k₁', v₁'⟩ := e'
    obtain rfl : k₁' = k₁ := hkey _ _ he
    by_cases hk : (k₁' == k) = true
    · rw [put, put, if_pos hk, if_pos hk]
      refine .cons ?_ hrest
      rw [eq_of_beq hk]
      exact hv
    · rw [put, put, if_neg hk, if_neg hk]
      exact .cons he ih

theorem forall₂_remove (hkey : ∀ e e', R e e' → e'.1 = e.1) (h : List.Forall₂ R m n) (k : κ) :
    List.Forall₂ R (remove m k) (remove n k) := by
  refine List.rel_filter ?_ h
  intro e e' he
  show (!e.1 == k) = true ↔ (!e'.1 == k) = true
  rw [hkey e e' he]

/-- A key has values in both maps, which correspond, or in neither. -/
theorem rel_get? [LawfulBEq κ] (hkey : ∀ e e', R e e' → e'.1 = e.1)
    (h : List.Forall₂ R m n) (k : κ) :
    Option.Rel (fun v v' => R (k, v) (k, v')) (get? m k) (get? n k) := by
  induction h with
  | nil => exact .none
  | @cons e e' m n he hrest ih =>
    obtain ⟨k₁, v₁⟩ := e
    obtain ⟨k₁', v₁'⟩ := e'
    obtain rfl : k₁' = k₁ := hkey _ _ he
    rw [get?_cons, get?_cons]
    split
    · next hk =>
      rw [eq_of_beq hk]
      exact .some he
    · exact ih

/-- Where one of two corresponding values is there, so is the other. -/
theorem exists_of_rel {R : ν → ν' → Prop} {a : Option ν} {b : Option ν'} {v : ν}
    (h : Option.Rel R a b) (ha : a = some v) : ∃ v', b = some v' ∧ R v v' := by
  cases h with
  | none => exact absurd ha (by simp)
  | some hv =>
    obtain rfl := Option.some.inj ha
    exact ⟨_, rfl, hv⟩

theorem eq_none_of_rel {R : ν → ν' → Prop} {a : Option ν} {b : Option ν'}
    (h : Option.Rel R a b) (ha : a = none) : b = none := by
  cases h with
  | none => rfl
  | some hv => exact absurd ha (by simp)

theorem rel_getD {R : ν → ν' → Prop} {a : Option ν} {b : Option ν'} {v : ν} {v' : ν'}
    (h : Option.Rel R a b) (hdefault : R v v') : R (a.getD v) (b.getD v') := by
  cases h with
  | none => exact hdefault
  | some hv => exact hv

theorem rel_flip {R : ν → ν' → Prop} {a : Option ν} {b : Option ν'} (h : Option.Rel R a b) :
    Option.Rel (flip R) b a := by
  cases h with
  | none => exact .none
  | some hv => exact .some hv

end Assoc

namespace Trace

/-! ## Journals that go on mirroring one another -/

/-- Contexts go on being alike while journals grow. -/
theorem Alike.grow {brought : Context → Prop} {m m' : Pairing} {j j' j₁ j₁' : Journal}
    {c c' : Context} (h : Alike brought m j j' c c') (hm : m ⊆ m') (hretains : j.Retains j₁)
    (hretains' : j'.Retains j₁') : Alike brought m' j₁ j₁' c c' := by
  cases h with
  | own hp hc hc' =>
    exact .own (hm hp) ⟨hc.1, hretains.identity? hc.2⟩ ⟨hc'.1, hretains'.identity? hc'.2⟩
  | given hc => exact .given hc

theorem Alike.mono {brought brought' : Context → Prop} {m : Pairing} {j j' : Journal}
    {c c' : Context} (h : Alike brought m j j' c c') (hbrought : ∀ c, brought c → brought' c) :
    Alike brought' m j j' c c' := by
  cases h with
  | own hp hc hc' => exact .own hp hc hc'
  | given hc => exact .given (hc.imp_left (hbrought _))

/-- The context of a span that is started carries its entry. -/
theorem Journal.carries_opened (j : Journal) (t : Tracer) (name : String) (parent : Context)
    (attributes : Fields) :
    (j.opened t name parent .server attributes).2.Carries
      (parent.withSpan (j.opened t name parent .server attributes).1) j.spans.length := by
  refine ⟨rfl, ?_⟩
  rw [identity?, getElem?_opened, if_pos rfl]
  rfl

namespace Mirrors

variable {brought : Context → Prop} {m : Pairing} {j j' : Journal} {p : Nat × Nat}
  {c c' : Context}

theorem mono (h : Mirrors brought m j j') {brought' : Context → Prop}
    (hbrought : ∀ c, brought c → brought' c) : Mirrors brought' m j j' := by
  refine ⟨h.rising, h.sound, h.sound', fun p hp => ?_, h.ends⟩
  obtain ⟨span, span', hspan, hspan', hsame, hparent⟩ := h.span p hp
  exact ⟨span, span', hspan, hspan', hsame,
    hparent.grow hbrought (List.Subset.refl m) (.refl j) (.refl j') rfl rfl rfl rfl⟩

/-- The spans of a pair are given the same last attributes and are ended. -/
theorem released (h : Mirrors brought m j j') (hp : p ∈ m) (hentry : c.current.entry = some p.1)
    (hentry' : c'.current.entry = some p.2) {v v' : Visit} (hcall : v'.call = v.call) :
    Mirrors brought m ((j.annotated v c).released c) ((j'.annotated v' c').released c') := by
  have hannotated : Mirrors brought m (j.annotated v c) (j'.annotated v' c') := by
    simp only [Journal.annotated, hcall]
    split
    · exact h.record hp hentry hentry' .setAttributes (.withAttributes _)
    · exact h
  exact hannotated.finish hp hentry hentry' ..

end Mirrors

/-! ## Twins -/

/-- Two slots are the same: their contexts are alike, and are the spans of a pair
where the observer owns the slot. -/
structure SameSlot (brought : Context → Prop) (m : Pairing) (j j' : Journal) (o : Observer)
    (e e' : Slot × Context) : Prop where
  key : e'.1 = e.1
  alike : Alike brought m j j' e.2 e'.2
  paired : o.owns e.1 = true → ∃ p ∈ m, j.Carries e.2 p.1 ∧ j'.Carries e'.2 p.2

/-- Two observers have the same options and the same mark of an outer trace. -/
structure SameOptions (o o' : Observer) : Prop where
  tracer : o'.tracer = o.tracer
  includeSource : o'.includeSource = o.includeSource
  includeVariables : o'.includeVariables = o.includeVariables
  strict : o'.tree.strict = o.tree.strict
  joined : o'.joined = o.joined

/-- Two sessions are the same up to the ids of the spans that are paired. -/
structure Twin (brought : Context → Prop) (m : Pairing) (s s' : Session) : Prop where
  mirrors : Mirrors brought m s.journal s'.journal
  options : SameOptions s.observer s'.observer
  slots : List.Forall₂ (SameSlot brought m s.journal s'.journal s.observer)
    s.tree.slots s'.tree.slots

namespace SameOptions

variable {o o' : Observer}

theorem refl (o : Observer) : SameOptions o o := ⟨rfl, rfl, rfl, rfl, rfl⟩

theorem owns (h : SameOptions o o') (k : Slot) : o'.owns k = o.owns k := by
  rw [Observer.owns, Observer.owns, h.joined]

/-- Only the mark of an outer trace is an option that a visit changes. -/
theorem update (h : SameOptions o o') (slots slots' : List (Slot × Context)) (joined : Bool) :
    SameOptions { o with tree := { o.tree with slots }, joined }
      { o' with tree := { o'.tree with slots := slots' }, joined } :=
  ⟨h.tracer, h.includeSource, h.includeVariables, h.strict, rfl⟩

end SameOptions

namespace SameSlot

variable {brought : Context → Prop} {m m' : Pairing} {j j' j₁ j₁' : Journal} {o o₁ : Observer}
  {e e' : Slot × Context}

theorem grow (h : SameSlot brought m j j' o e e') (hm : m ⊆ m') (hretains : j.Retains j₁)
    (hretains' : j'.Retains j₁') (howns : ∀ k, o₁.owns k = true → o.owns k = true) :
    SameSlot brought m' j₁ j₁' o₁ e e' := by
  refine ⟨h.key, h.alike.grow hm hretains hretains', fun hown => ?_⟩
  obtain ⟨p, hp, hc, hc'⟩ := h.paired (howns _ hown)
  exact ⟨p, hm hp, ⟨hc.1, hretains.identity? hc.2⟩, ⟨hc'.1, hretains'.identity? hc'.2⟩⟩

theorem mono (h : SameSlot brought m j j' o e e') {brought' : Context → Prop}
    (hbrought : ∀ c, brought c → brought' c) : SameSlot brought' m j j' o e e' :=
  ⟨h.key, h.alike.mono hbrought, h.paired⟩

end SameSlot

/-- Closing ends the spans of the same pairs in the same order. -/
theorem Mirrors.abandonAll {brought : Context → Prop} {m : Pairing} {j₀ j₀' j j' : Journal}
    {o o' : Observer} {left left' : List (Slot × Context)}
    (hleft : List.Forall₂ (SameSlot brought m j₀ j₀' o) left left')
    (hoptions : SameOptions o o') (h : Mirrors brought m j j') (current current' : Nat) :
    Mirrors brought m (o.abandonAll current j left) (o'.abandonAll current' j' left') := by
  induction hleft generalizing j j' with
  | nil => exact h
  | @cons e e' left left' he hrest ih =>
    rw [Observer.abandonAll, Observer.abandonAll, List.foldl_cons, List.foldl_cons, he.key,
      hoptions.owns]
    refine ih ?_
    by_cases hown : o.owns e.1 = true
    · obtain ⟨p, hp, hc, hc'⟩ := he.paired hown
      rw [if_pos hown, if_pos hown]
      exact h.failed hp hc.1 hc'.1 ..
    · rw [if_neg hown, if_neg hown]
      exact h

/-- The entries of the spans that one journal has more than another. -/
def Journal.since (j j₁ : Journal) : List Nat :=
  List.range' j.spans.length (j₁.spans.length - j.spans.length)

theorem Journal.append_since {j j₁ : Journal} {own : List Nat}
    (h : j₁.spans.length = j.spans.length) : own = own ++ j.since j₁ := by
  rw [since, h, Nat.sub_self, List.range'_zero, List.append_nil]

theorem Journal.since_self (j : Journal) : j.since j = [] := by
  rw [since, Nat.sub_self, List.range'_zero]

theorem Journal.since_of_succ {j j₁ : Journal} (h : j₁.spans.length = j.spans.length + 1) :
    j.since j₁ = [j.spans.length] := by
  rw [since, h, Nat.add_sub_cancel_left]
  rfl

theorem Journal.since_append {j j₁ j₂ : Journal} (h : j.spans.length ≤ j₁.spans.length)
    (h' : j₁.spans.length ≤ j₂.spans.length) : j.since j₁ ++ j₁.since j₂ = j.since j₂ := by
  have hstart : j.spans.length + (j₁.spans.length - j.spans.length) = j₁.spans.length := by
    omega
  have hlength : j₁.spans.length - j.spans.length + (j₂.spans.length - j₁.spans.length) =
      j₂.spans.length - j.spans.length := by
    omega
  have happend := List.range'_append_1 (s := j.spans.length)
    (m := j₁.spans.length - j.spans.length) (n := j₂.spans.length - j₁.spans.length)
  rw [hstart, hlength] at happend
  exact happend

theorem Journal.mem_since {j j₁ : Journal} {i : Nat} :
    i ∈ j.since j₁ ↔ j.spans.length ≤ i ∧ i < j₁.spans.length := by
  rw [since, List.mem_range'_1]
  omega

/-- A visit starts the same spans again in a session with the same options whose
slots correspond. -/
theorem Opens.transport {R : Context → Context → Prop} {s s' : Session} {v v' : Visit} {k : Slot}
    {name : String} {parent : Context} {attributes : Fields}
    (hsource : s'.observer.includeSource = s.observer.includeSource)
    (hvariables : s'.observer.includeVariables = s.observer.includeVariables)
    (hget : ∀ k, Option.Rel R (s.tree.get? k) (s'.tree.get? k)) (hempty : R .empty .empty)
    (hcall : v'.call = v.call) (houter : v'.outer = v.outer)
    (hopens : Opens s v k name parent attributes) :
    ∃ parent', Opens s' v' k name parent' attributes ∧ R parent parent' := by
  cases hopens with
  | request hcall₀ houter₀ =>
    exact ⟨.empty, .request (hcall.trans hcall₀) (houter.trans houter₀), hempty⟩
  | parse hcall₀ hparent hshown =>
    obtain ⟨parent', hparent', hR⟩ := Assoc.exists_of_rel (hget .request) hparent
    refine ⟨parent', ?_, hR⟩
    rw [← hsource]
    have hshown' := hshown
    rw [Observer.shownVariables, ← hvariables] at hshown'
    exact .parse (hcall.trans hcall₀) hparent' hshown'
  | validation hcall₀ hparent =>
    obtain ⟨parent', hparent', hR⟩ := Assoc.exists_of_rel (hget .request) hparent
    exact ⟨parent', .validation (hcall.trans hcall₀) hparent', hR⟩
  | execution hcall₀ =>
    exact ⟨_, .execution (hcall.trans hcall₀), Assoc.rel_getD (hget .request) hempty⟩
  | field hcall₀ hparent =>
    obtain ⟨parent', hparent', hR⟩ := Assoc.exists_of_rel (hget _) hparent
    exact ⟨parent', .field (hcall.trans hcall₀) hparent', hR⟩

/-! ## One step of two sessions -/

namespace Twin

variable {brought : Context → Prop} {m : Pairing} {s s' s₁ : Session} {v v' : Visit}

/-- A slot is live in both sessions, with contexts that are the same, or in
neither. -/
theorem slot (h : Twin brought m s s') (k : Slot) :
    Option.Rel (fun c c' => SameSlot brought m s.journal s'.journal s.observer (k, c) (k, c'))
      (s.tree.get? k) (s'.tree.get? k) :=
  Assoc.rel_get? (fun _ _ he => he.key) h.slots k

theorem alike (h : Twin brought m s s') (k : Slot) :
    Option.Rel (Alike brought m s.journal s'.journal) (s.tree.get? k) (s'.tree.get? k) := by
  have hslot := h.slot k
  generalize s.tree.get? k = a at hslot ⊢
  generalize s'.tree.get? k = b at hslot ⊢
  cases hslot with
  | none => exact .none
  | some he => exact .some he.alike

theorem isLive (h : Twin brought m s s') (k : Slot) : s'.tree.isLive k = s.tree.isLive k := by
  rw [SlotTree.isLive_eq_isSome_get?, SlotTree.isLive_eq_isSome_get?]
  have halike := h.alike k
  generalize s.tree.get? k = a at halike ⊢
  generalize s'.tree.get? k = b at halike ⊢
  cases halike with
  | none => rfl
  | some => rfl

/-- A new session is the twin of another with the same options: nothing is paired
yet. -/
theorem create (o : Observer) (hslots : o.tree.slots = []) {b b' : Backend}
    (hb : b.journal.Sound) (hb' : b'.journal.Sound) : Twin brought [] ⟨o, b⟩ ⟨o, b'⟩ := by
  have hends : ∀ j : Journal, j.endsAmong [] = [] := by
    intro j
    simp [Journal.endsAmong]
  refine ⟨⟨.nil, hb, hb', fun p hp => absurd hp List.not_mem_nil, ?_⟩, .refl o, ?_⟩
  · show List.Forall₂ _ (b.journal.endsAmong []) (b'.journal.endsAmong [])
    rw [hends, hends]
    exact .nil
  · show List.Forall₂ _ o.tree.slots o.tree.slots
    rw [hslots]
    exact .nil

/-- The slots go on being the same while the journals grow. -/
theorem slots_grow (h : Twin brought m s s') {m' : Pairing} {j₁ j₁' : Journal} {o₁ : Observer}
    (hm : m ⊆ m') (hretains : s.journal.Retains j₁) (hretains' : s'.journal.Retains j₁')
    (howns : ∀ k, o₁.owns k = true → s.observer.owns k = true) :
    List.Forall₂ (SameSlot brought m' j₁ j₁' o₁) s.tree.slots s'.tree.slots :=
  h.slots.imp fun _ _ he => he.grow hm hretains hretains' howns

/-- The owned slots hold paired spans, on either side. -/
theorem holdsOnly (h : Twin brought m s s') :
    (∀ e ∈ s.tree.slots, s.observer.HoldsOnly (· ∈ m.left) e) ∧
      ∀ e ∈ s'.tree.slots, s'.observer.HoldsOnly (· ∈ m.right) e := by
  have hboth : List.Forall₂ (fun e e' => s.observer.HoldsOnly (· ∈ m.left) e ∧
      s'.observer.HoldsOnly (· ∈ m.right) e') s.tree.slots s'.tree.slots := by
    refine h.slots.imp fun e e' he => ⟨fun hown => ?_, fun hown => ?_⟩
    · obtain ⟨p, hp, hc, -⟩ := he.paired hown
      exact ⟨p.1, hc.1, List.mem_map_of_mem hp⟩
    · rw [he.key, h.options.owns] at hown
      obtain ⟨p, hp, -, hc'⟩ := he.paired hown
      exact ⟨p.2, hc'.1, List.mem_map_of_mem hp⟩
  refine ⟨((List.forall₂_and_left _ _).1 hboth).1, ?_⟩
  have hflip : List.Forall₂ (fun e' e => s'.observer.HoldsOnly (· ∈ m.right) e' ∧
      s.observer.HoldsOnly (· ∈ m.left) e) s'.tree.slots s.tree.slots :=
    .flip (hboth.imp fun _ _ he => ⟨he.2, he.1⟩)
  exact ((List.forall₂_and_left _ _).1 hflip).1

/-- A visit writes to the paired spans and to the one that it starts. -/
theorem writes_next (h : Twin brought m s s') (v : Visit) :
    s.journal.Writes (fun i => i ∈ m.left ∨ i = s.journal.spans.length) (s.next v).journal := by
  refine Session.writes_next (fun e he hown => ?_) (.inr rfl) v
  obtain ⟨i, hentry, hi⟩ := h.holdsOnly.1 e he hown
  exact ⟨i, hentry, .inl hi⟩

theorem writes_next' (h : Twin brought m s s') (v : Visit) :
    s'.journal.Writes (fun i => i ∈ m.right ∨ i = s'.journal.spans.length)
      (s'.next v).journal := by
  refine Session.writes_next (fun e he hown => ?_) (.inr rfl) v
  obtain ⟨i, hentry, hi⟩ := h.holdsOnly.2 e he hown
  exact ⟨i, hentry, .inl hi⟩

/-- The contexts that were in the slots before a visit go on being the same. -/
theorem slots_next (h : Twin brought m s s') {m' : Pairing} (hm : m ⊆ m') (v v' : Visit) :
    List.Forall₂
      (SameSlot brought m' (s.next v).journal (s'.next v').journal (s.next v).observer)
      s.tree.slots s'.tree.slots := by
  refine h.slots_grow hm (h.writes_next v).retains (h.writes_next' v').retains fun k hown => ?_
  by_cases hk : k = .request
  · -- The mark of an outer trace is never taken back.
    subst hk
    simp only [Observer.owns, Session.joined_next] at hown ⊢
    simp only [beq_self_eq_true, Bool.true_and, Bool.not_eq_true', Bool.or_eq_false_iff] at hown ⊢
    exact hown.1
  · exact Observer.owns_of_ne hk

/-- Twins stay twins when more contexts count as brought from outside. -/
theorem mono (h : Twin brought m s s') {brought' : Context → Prop}
    (hbrought : ∀ c, brought c → brought' c) : Twin brought' m s s' :=
  ⟨h.mirrors.mono hbrought, h.options, h.slots.imp fun _ _ he => he.mono hbrought⟩

/-- A session stays the twin of another while its journal is written to
elsewhere. -/
theorem frame (h : Twin brought m s s') {P : Nat → Prop} (hobserver : s₁.observer = s.observer)
    (hwrites : s.journal.Writes P s₁.journal) (hP : ∀ i ∈ m.left, ¬ P i) :
    Twin brought m s₁ s' := by
  refine ⟨h.mirrors.writes hwrites hP, ?_, ?_⟩
  · rw [hobserver]
    exact h.options
  · show List.Forall₂ _ s₁.observer.tree.slots s'.tree.slots
    rw [hobserver]
    exact h.slots_grow (List.Subset.refl m) hwrites.retains (.refl _) fun _ hown => hown

/-- Two sessions are twins after a step, and the spans that were started in it are
paired. -/
def Continues (brought : Context → Prop) (m : Pairing) (s s' s₁ s₁' : Session) : Prop :=
  ∃ m', Twin brought m' s₁ s₁' ∧ m'.left = m.left ++ s.journal.since s₁.journal ∧
    m'.right = m.right ++ s'.journal.since s₁'.journal

/-- A step in which both sessions change their slots and their marks alike. -/
theorem continues (h : Twin brought m s s') (m' : Pairing) (slots slots' : List (Slot × Context))
    (joined : Bool)
    (hobserver : (s.next v).observer =
      { s.observer with tree := { s.tree with slots }, joined })
    (hobserver' : (s'.next v').observer =
      { s'.observer with tree := { s'.tree with slots := slots' }, joined })
    (hmirrors : Mirrors brought m' (s.next v).journal (s'.next v').journal)
    (hslots : List.Forall₂
      (SameSlot brought m' (s.next v).journal (s'.next v').journal (s.next v).observer)
      slots slots')
    (hleft : m'.left = m.left ++ s.journal.since (s.next v).journal)
    (hright : m'.right = m.right ++ s'.journal.since (s'.next v').journal) :
    Continues brought m s s' (s.next v) (s'.next v') := by
  refine ⟨m', ⟨hmirrors, ?_, ?_⟩, hleft, hright⟩
  · rw [hobserver, hobserver']
    exact h.options.update slots slots' joined
  · have hown : (s.next v).tree.slots = slots := by rw [Session.tree, hobserver]
    have hown' : (s'.next v').tree.slots = slots' := by rw [Session.tree, hobserver']
    rw [hown, hown']
    exact hslots

/-- A step in which neither session changes its slots and its mark. -/
theorem continues_of_kept (h : Twin brought m s s') (m' : Pairing) (hm : m ⊆ m')
    (hobserver : (s.next v).observer = s.observer)
    (hobserver' : (s'.next v').observer = s'.observer)
    (hmirrors : Mirrors brought m' (s.next v).journal (s'.next v').journal)
    (hleft : m'.left = m.left ++ s.journal.since (s.next v).journal)
    (hright : m'.right = m.right ++ s'.journal.since (s'.next v').journal) :
    Continues brought m s s' (s.next v) (s'.next v') := by
  refine h.continues m' s.tree.slots s'.tree.slots s.observer.joined hobserver ?_ hmirrors
    (h.slots_next hm v v') hleft hright
  rw [hobserver', ← h.options.joined]

/-- Neither of the two sessions changes. -/
theorem next_of_rest (h : Twin brought m s s')
    (hrest : (s.next v).observer = s.observer ∧ (s.next v).journal = s.journal)
    (hrest' : (s'.next v').observer = s'.observer ∧ (s'.next v').journal = s'.journal) :
    Continues brought m s s' (s.next v) (s'.next v') := by
  obtain ⟨hobserver, hjournal⟩ := hrest
  obtain ⟨hobserver', hjournal'⟩ := hrest'
  refine h.continues_of_kept m (List.Subset.refl m) hobserver hobserver' ?_ ?_ ?_
  · rw [hjournal, hjournal']
    exact h.mirrors
  · exact Journal.append_since (by rw [hjournal])
  · exact Journal.append_since (by rw [hjournal'])

theorem next_of_close (h : Twin brought m s s') (hcall : v'.call = v.call)
    (hclose : v.call = .close) : Continues brought m s s' (s.next v) (s'.next v') := by
  obtain ⟨hobserver, hjournal, -⟩ := answer_close s hclose
  obtain ⟨hobserver', hjournal', -⟩ := answer_close s' (hcall.trans hclose)
  have hjournal : (s.next v).journal = _ := hjournal
  have hjournal' : (s'.next v').journal = _ := hjournal'
  refine h.continues m [] [] s.observer.joined hobserver ?_ ?_ .nil ?_ ?_
  · rw [← h.options.joined]
    exact hobserver'
  · rw [hjournal, hjournal']
    exact .abandonAll (List.forall₂_reverse_iff.2 h.slots) h.options h.mirrors ..
  · exact Journal.append_since (by rw [hjournal, Observer.length_abandonAll])
  · exact Journal.append_since (by rw [hjournal', Observer.length_abandonAll])

theorem next_of_error (h : Twin brought m s s') (hcall : v'.call = v.call) {err : Value}
    (herror : v.call = .event (.error err)) :
    Continues brought m s s' (s.next v) (s'.next v') := by
  have hslot := h.slot .execution
  cases hget : s.tree.get? .execution with
  | none =>
    have hget' : s'.tree.get? .execution = none := Assoc.eq_none_of_rel hslot hget
    refine h.next_of_rest (Session.next_of_unrecorded herror ?_)
      (Session.next_of_unrecorded (hcall.trans herror) ?_)
    · simp [hget]
    · simp [hget']
  | some c =>
    obtain ⟨c', hget', hsame⟩ := Assoc.exists_of_rel hslot hget
    cases hevent : errorEvent err with
    | error f =>
      refine h.next_of_rest (Session.next_of_unrecorded herror ?_)
        (Session.next_of_unrecorded (hcall.trans herror) ?_)
      · simp [hevent]
      · simp [hevent]
    | ok attributes =>
      obtain ⟨hobserver, hjournal⟩ := Session.next_of_recorded herror hget hevent
      obtain ⟨hobserver', hjournal'⟩ :=
        Session.next_of_recorded (hcall.trans herror) hget' hevent
      have hne : Slot.execution ≠ .request := by decide
      obtain ⟨p, hp, hc, hc'⟩ := hsame.paired (Observer.owns_of_ne hne)
      refine h.continues_of_kept m (List.Subset.refl m) hobserver hobserver' ?_ ?_ ?_
      · rw [hjournal, hjournal']
        exact h.mirrors.record hp hc.1 hc'.1 .addEvent (.withEvent errorName attributes)
      · refine Journal.append_since ?_
        rw [hjournal]
        exact Journal.length_settled_record ..
      · refine Journal.append_since ?_
        rw [hjournal']
        exact Journal.length_settled_record ..

/-- The end of a piece of work leaves the same slot, and ends the spans of a pair
if the slot is owned. -/
theorem next_of_left (h : Twin brought m s s') (hcall : v'.call = v.call) {k : Slot}
    (hleft : v.call.left? = some k) : Continues brought m s s' (s.next v) (s'.next v') := by
  have hleft' : v'.call.left? = some k := by rw [hcall, hleft]
  have hslot := h.slot k
  cases hget : s.tree.get? k with
  | none =>
    have hget' : s'.tree.get? k = none := Assoc.eq_none_of_rel hslot hget
    exact h.next_of_rest (Session.next_of_dead hleft hget) (Session.next_of_dead hleft' hget')
  | some c =>
    obtain ⟨c', hget', hsame⟩ := Assoc.exists_of_rel hslot hget
    obtain ⟨hobserver, hjournal⟩ := Session.next_of_left hleft hget
    obtain ⟨hobserver', hjournal'⟩ := Session.next_of_left hleft' hget'
    refine h.continues m (Assoc.remove s.tree.slots k) (Assoc.remove s'.tree.slots k)
      s.observer.joined hobserver ?_ ?_ ?_ ?_ ?_
    · rw [hobserver', ← h.options.joined]
      rfl
    · rw [hjournal, hjournal', h.options.owns]
      by_cases hown : s.observer.owns k = true
      · obtain ⟨p, hp, hc, hc'⟩ := hsame.paired hown
        rw [if_pos hown, if_pos hown]
        exact h.mirrors.released hp hc.1 hc'.1 hcall
      · have hk : k ≠ .validation := by
          rintro rfl
          exact hown (Observer.owns_of_ne (by decide))
        rw [if_neg hown, if_neg hown, Journal.annotated_of_left hleft hk,
          Journal.annotated_of_left hleft' hk]
        exact h.mirrors
    · exact Assoc.forall₂_remove (fun _ _ he => he.key) (h.slots_next (List.Subset.refl m) v v') k
    · exact Journal.append_since (by rw [hjournal, Journal.length_left])
    · exact Journal.append_since (by rw [hjournal', Journal.length_left])

/-- A slot may be entered in both sessions or in neither. -/
theorem accepts (h : Twin brought m s s') (k : Slot) :
    (s'.tree.isLive k && s'.tree.strict) = (s.tree.isLive k && s.tree.strict) := by
  rw [h.isLive]
  show (s.tree.isLive k && s'.observer.tree.strict) = _
  rw [h.options.strict]

/-- The context that a request brings takes the same place in both sessions. -/
theorem next_of_joins (h : Twin brought m s s') (hcall : v'.call = v.call)
    (houter : v'.outer = v.outer) {c : Context} (hc : brought c) (hstart : v.call = .event .start)
    (hgiven : v.outer = some c) : Continues brought m s s' (s.next v) (s'.next v') := by
  have haccepts := h.accepts .request
  have hslots := h.slots_next (List.Subset.refl m) v v'
  rcases Session.next_of_joins hstart hgiven with
    ⟨haccepted, hobserver, hjournal, -⟩ | ⟨hbarred, hobserver, hjournal, -⟩
  · rcases Session.next_of_joins (hcall.trans hstart) (houter.trans hgiven) with
      ⟨-, hobserver', hjournal', -⟩ | ⟨hbarred', -⟩
    · have hunowned : (s.next v).observer.owns .request = false := by
        rw [hobserver]
        rfl
      refine h.continues m (Assoc.put s.tree.slots .request c) (Assoc.put s'.tree.slots .request c)
        true hobserver hobserver' ?_ (Assoc.forall₂_put (fun _ _ he => he.key) hslots ?_)
        (Journal.append_since (by rw [hjournal])) (Journal.append_since (by rw [hjournal']))
      · rw [hjournal, hjournal']
        exact h.mirrors
      · refine ⟨rfl, .given (.inl hc), fun hown => ?_⟩
        exact absurd (hown.symm.trans hunowned) (by decide)
    · rw [haccepts, haccepted] at hbarred'
      exact absurd hbarred' (by decide)
  · rcases Session.next_of_joins (hcall.trans hstart) (houter.trans hgiven) with
      ⟨haccepted', -⟩ | ⟨-, hobserver', hjournal', -⟩
    · rw [haccepts, hbarred] at haccepted'
      exact absurd haccepted' (by decide)
    · refine h.continues m s.tree.slots s'.tree.slots true hobserver hobserver' ?_ hslots
        (Journal.append_since (by rw [hjournal])) (Journal.append_since (by rw [hjournal']))
      rw [hjournal, hjournal']
      exact h.mirrors

/-- A span that is started for the same slot becomes a new pair. -/
theorem next_of_opens (h : Twin brought m s s') {k : Slot} {name : String}
    {parent parent' : Context} {attributes : Fields}
    (hopens : Opens s v k name parent attributes)
    (hopens' : Opens s' v' k name parent' attributes)
    (halike : Alike brought m s.journal s'.journal parent parent') :
    Continues brought m s s' (s.next v) (s'.next v') := by
  have haccepts := h.accepts k
  have hrefuses : s'.observer.tracer.refuses .start name =
      s.observer.tracer.refuses .start name := by
    rw [h.options.tracer]
  by_cases hstart : s.observer.tracer.refuses .start name = true
  · exact h.next_of_rest (Session.next_of_refused hopens hstart)
      (Session.next_of_refused hopens' (hrefuses.trans hstart))
  have hstart : s.observer.tracer.refuses .start name = false := by simpa using hstart
  have hpair : (s.journal.spans.length, s'.journal.spans.length) ∈
      m ++ [(s.journal.spans.length, s'.journal.spans.length)] := by simp
  have hgrow := List.subset_append_left m [(s.journal.spans.length, s'.journal.spans.length)]
  have hopened := h.mirrors.opened halike s.observer.tracer name attributes
  have hslots := h.slots_next hgrow v v'
  rcases Session.next_of_opens hopens hstart with
    ⟨haccepted, hobserver, hjournal, -⟩ | ⟨hrejected, hobserver, hjournal, -⟩
  · rcases Session.next_of_opens hopens' (hrefuses.trans hstart) with
      ⟨-, hobserver', hjournal', -⟩ | ⟨hrejected', -⟩
    · have hcarries := s.journal.carries_opened s.observer.tracer name parent attributes
      have hcarries' := s'.journal.carries_opened s'.observer.tracer name parent' attributes
      rw [← hjournal] at hcarries
      rw [← hjournal'] at hcarries'
      have hslot : SameSlot brought (m ++ [(s.journal.spans.length, s'.journal.spans.length)])
          (s.next v).journal (s'.next v').journal (s.next v).observer
          (k, parent.withSpan (s.started name parent attributes).1)
          (k, parent'.withSpan (s'.started name parent' attributes).1) :=
        ⟨rfl, .own hpair hcarries hcarries', fun _ => ⟨_, hpair, hcarries, hcarries'⟩⟩
      have hput := Assoc.forall₂_put (fun _ _ he => he.key) hslots hslot
      refine h.continues _ _ _ s.observer.joined hobserver ?_ ?_ hput ?_ ?_
      · rw [hobserver', ← h.options.joined]
        rfl
      · rw [hjournal, hjournal', Session.started, Session.started, h.options.tracer]
        exact hopened
      · rw [Pairing.left_concat, Journal.since_of_succ]
        rw [hjournal, Journal.length_opened]
      · rw [Pairing.right_concat, Journal.since_of_succ]
        rw [hjournal', Journal.length_opened]
    · rw [haccepts, haccepted] at hrejected'
      exact absurd hrejected' (by decide)
  · rcases Session.next_of_opens hopens' (hrefuses.trans hstart) with
      ⟨haccepted', -⟩ | ⟨-, hobserver', hjournal', -⟩
    · rw [haccepts, hrejected] at haccepted'
      exact absurd haccepted' (by decide)
    · refine h.continues_of_kept _ hgrow hobserver hobserver' ?_ ?_ ?_
      · rw [hjournal, hjournal', Session.started, Session.started, h.options.tracer]
        exact hopened.failed hpair rfl rfl ..
      · rw [Pairing.left_concat, Journal.since_of_succ]
        rw [hjournal, Journal.length_failed, Journal.length_opened]
      · rw [Pairing.right_concat, Journal.since_of_succ]
        rw [hjournal', Journal.length_failed, Journal.length_opened]

/-- Two sessions stay twins when they take the same call, with the same context
brought to it and whatever is current around it. -/
protected theorem next (h : Twin brought m s s') (hcall : v'.call = v.call)
    (houter : v'.outer = v.outer)
    (hbrought : ∀ c, v.outer = some c → brought c) :
    Continues brought m s s' (s.next v) (s'.next v') := by
  by_cases hclose : v.call = .close
  · exact h.next_of_close hcall hclose
  by_cases herror : ∃ err, v.call = .event (.error err)
  · obtain ⟨err, herror⟩ := herror
    exact h.next_of_error hcall herror
  cases hleft : v.call.left? with
  | some k => exact h.next_of_left hcall hleft
  | none =>
    by_cases hjoins : v.joins = true
    · obtain ⟨hstart, c, hgiven⟩ := Visit.exists_outer_of_joins hjoins
      exact h.next_of_joins hcall houter (hbrought c hgiven) hstart hgiven
    · have hjoins : v.joins = false := by simpa using hjoins
      by_cases hopens : ∃ k name parent attributes, Opens s v k name parent attributes
      · obtain ⟨k, name, parent, attributes, hopens⟩ := hopens
        obtain ⟨parent', hopens', halike⟩ := hopens.transport h.options.includeSource
          h.options.includeVariables h.alike (.given (.inr rfl)) hcall houter
        exact h.next_of_opens hopens hopens' halike
      · have hleaves : ∀ k, ¬ v.call.Leaves k := by
          rintro k (hleft' | hclose')
          · exact absurd (hleft.symm.trans hleft') (by simp)
          · exact hclose hclose'
        refine h.next_of_rest (Session.next_of_rest hjoins ?_ ?_ ?_ hclose)
          (Session.next_of_rest ?_ ?_ ?_ ?_ (hcall ▸ hclose))
        · exact fun k name parent attributes h' => hopens ⟨k, name, parent, attributes, h'⟩
        · exact fun k h' => absurd h' (hleaves k)
        · exact fun err h' => herror ⟨err, h'⟩
        · rw [← hjoins]
          simp only [Visit.joins, hcall, houter]
        · -- The first session would start the same span.
          intro k name parent' attributes hopens'
          obtain ⟨parent, hopens₀, -⟩ := hopens'.transport h.options.includeSource.symm
            h.options.includeVariables.symm (fun k => Assoc.rel_flip (h.alike k))
            (.given (.inr rfl)) hcall.symm houter.symm
          exact hopens ⟨k, name, parent, attributes, hopens₀⟩
        · rw [hcall]
          exact fun k h' => absurd h' (hleaves k)
        · rw [hcall]
          exact fun err h' => herror ⟨err, h'⟩

end Twin

/-! ## Runs of two sessions -/

/-- Two visits are the same but for what is current around them. -/
structure SameVisit (v v' : Visit) : Prop where
  call : v'.call = v.call
  outer : v'.outer = v.outer

/-- Twins stay twins in a run, and the spans that are started in it are paired. -/
theorem twin_run {brought : Context → Prop} {m : Pairing} {s s' : Session} {vs vs' : List Visit}
    (h : Twin brought m s s') (hvisits : List.Forall₂ SameVisit vs vs')
    (hbrought : ∀ v ∈ vs, ∀ c, v.outer = some c → brought c) :
    Twin.Continues brought m s s' (s.run vs) (s'.run vs') := by
  induction hvisits generalizing m s s' with
  | nil => exact ⟨m, h, Journal.append_since rfl, Journal.append_since rfl⟩
  | @cons v v' vs vs' hvisit hrest ih =>
    obtain ⟨m₁, h₁, hleft₁, hright₁⟩ := h.next hvisit.call hvisit.outer
      (hbrought v (List.mem_cons_self ..))
    obtain ⟨m₂, h₂, hleft₂, hright₂⟩ := ih h₁ fun w hw => hbrought w (List.mem_cons_of_mem _ hw)
    refine ⟨m₂, h₂, ?_, ?_⟩
    · rw [hleft₂, hleft₁, List.append_assoc]
      exact congrArg _
        (Journal.since_append (s.length_le_run [v]) (Session.length_le_run (s.next v) vs))
    · rw [hright₂, hright₁, List.append_assoc]
      exact congrArg _
        (Journal.since_append (s'.length_le_run [v']) (Session.length_le_run (s'.next v') vs'))

end Trace

end QueryTelemetry
