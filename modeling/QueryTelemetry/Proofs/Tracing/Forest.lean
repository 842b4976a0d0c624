import Mathlib.Data.List.Nodup
import QueryTelemetry.Proofs.Tracing.Move

/-!
# Forests of fields and their schedules

The fields of a request form a forest: every field names the field that encloses
it, if there is one.  Their events come in any order in which a field starts
before it ends and the events of a field lie between those of the field that
encloses it.  Such an order is a schedule.

`Work` is a piece of work that can have a span: a phase of the request or a
field.  `Forest.Above` says which piece of work stands directly above another,
and `Forest.Traced` which pieces get a span: all but the fields at and below a
root whose enclosing field never starts.  Both speak of the forest only.

`Request` puts a schedule between the events of the phases.  `Nested` says of
the whole sequence what a schedule says of the fields, and is all that the
proofs about runs need.
-/

namespace QueryTelemetry.Trace

open Request (Event Resolution)

/-! ## Forests -/

/-- A field encloses another: the other one names it as its parent. -/
def Encloses (p r : Resolution) : Prop := r.id.parent = some p.id.current

instance (p r : Resolution) : Decidable (Encloses p r) :=
  inferInstanceAs (Decidable (r.id.parent = some p.id.current))

/-- A finite forest of fields.  Its roots are the fields that no field of the
forest encloses.  That fields do not enclose one another in a circle need not be
said: such fields have no schedule (`Schedule.wellFounded`). -/
structure Forest where
  fields : List Resolution
  distinct : (fields.map (·.id.current)).Nodup
  nonzero : ∀ r ∈ fields, r.id.current ≠ 0

/-- A field that stands at or below a root whose parent never starts. -/
inductive Forest.Orphaned (f : Forest) : Resolution → Prop where
  | root {r : Resolution} {p : Int} (hr : r ∈ f.fields) (hparent : r.id.parent = some p)
      (hp : p ≠ 0) (hnever : ∀ q ∈ f.fields, q.id.current ≠ p) : Orphaned f r
  | inner {p r : Resolution} (hr : r ∈ f.fields) (hencloses : Encloses p r)
      (hp : Orphaned f p) : Orphaned f r

/-! ## Pieces of work -/

/-- A piece of work that can have a span. -/
inductive Work where
  | request
  | parse
  | validation
  | execution
  | field (r : Resolution)
deriving DecidableEq

/-- The slot of a piece of work. -/
def Work.slot : Work → Slot
  | .request => .request
  | .parse => .parse
  | .validation => .validation
  | .execution => .execution
  | .field r => .field r.id.current

/-- The name of the span of a piece of work. -/
def Work.name : Work → String
  | .request => requestName
  | .parse => parseName
  | .validation => validationName
  | .execution => executeName
  | .field r => r.path

namespace Forest

/-- A phase is a piece of work of every forest, a field of the forests that it
is in. -/
def Has (f : Forest) : Work → Prop
  | .field r => r ∈ f.fields
  | _ => True

/-- A piece of work gets a span, unless it is an orphaned field. -/
def Traced (f : Forest) : Work → Prop
  | .field r => r ∈ f.fields ∧ ¬ f.Orphaned r
  | _ => True

/-- A piece of work stands directly above another. -/
inductive Above (f : Forest) : Work → Work → Prop where
  | parse : Above f .request .parse
  | validation : Above f .request .validation
  | execution : Above f .request .execution
  /-- Execution stands above the fields that name no parent. -/
  | top {r : Resolution} (hparent : r.id.parent = none ∨ r.id.parent = some 0) :
      Above f .execution (.field r)
  | nested {p r : Resolution} (hp : p ∈ f.fields) (hencloses : Encloses p r) :
      Above f (.field p) (.field r)

variable {f : Forest} {a w w' : Work} {p q r : Resolution}

theorem Traced.has (h : f.Traced w) : f.Has w := by
  cases w with
  | field r => exact h.1
  | request | parse | validation | execution => trivial

/-- A field of the forest is known by its id. -/
theorem eq_of_id (hp : p ∈ f.fields) (hr : r ∈ f.fields) (h : p.id.current = r.id.current) :
    p = r :=
  List.inj_on_of_nodup_map f.distinct hp hr h

/-- A piece of work is known by its slot. -/
theorem eq_of_slot (hw : f.Has w) (hw' : f.Has w') (h : w.slot = w'.slot) : w = w' := by
  cases w with
  | field r =>
    cases w' with
    | field r' => rw [eq_of_id hw hw' (Slot.field.inj h)]
    | request | parse | validation | execution => cases h
  | request | parse | validation | execution =>
    cases w' <;> first | rfl | cases h

theorem Orphaned.mem (h : f.Orphaned r) : r ∈ f.fields := by
  cases h with
  | root hr | inner hr => exact hr

/-- What stands above a field decides its slot there. -/
theorem slot_of_above {r : Resolution} (h : f.Above a (.field r)) :
    a.slot = Observer.enclosingSlot r.id := by
  cases h with
  | top hparent =>
    rcases hparent with hparent | hparent <;>
      simp [Observer.enclosingSlot, Request.ResolveId.enclosing?, hparent, Work.slot]
  | nested hp hencloses =>
    have hid := f.nonzero _ hp
    simp [Observer.enclosingSlot, Request.ResolveId.enclosing?,
      show _ = _ from hencloses, hid, Work.slot]

/-- Only orphaned fields get no span. -/
theorem exists_orphaned (hw : f.Has w) (h : ¬ f.Traced w) :
    ∃ r, w = .field r ∧ f.Orphaned r := by
  cases w with
  | field r => exact ⟨r, rfl, Classical.byContradiction fun hr => h ⟨hw, hr⟩⟩
  | request | parse | validation | execution => exact absurd trivial h

/-- At most one piece of work stands directly above another. -/
theorem Above.unique {a' : Work} (h : f.Above a w) (h' : f.Above a' w) : a = a' := by
  cases h with
  | parse | validation | execution =>
    cases h'
    rfl
  | top hparent =>
    cases h' with
    | top => rfl
    | nested hp hencloses =>
      have hid := f.nonzero _ hp
      rcases hparent with hparent | hparent <;> simp_all [Encloses]
  | nested hp hencloses =>
    cases h' with
    | top hparent =>
      have hid := f.nonzero _ hp
      rcases hparent with hparent | hparent <;> simp_all [Encloses]
    | nested hp' hencloses' =>
      have hid := Option.some.inj (hencloses.symm.trans hencloses')
      rw [eq_of_id hp hp' hid]

/-- Above every traced piece of work but the request stands another one. -/
theorem exists_above (h : f.Traced w) (hw : w ≠ .request) : ∃ a, f.Above a w ∧ f.Traced a := by
  cases w with
  | request => exact absurd rfl hw
  | parse => exact ⟨.request, .parse, trivial⟩
  | validation => exact ⟨.request, .validation, trivial⟩
  | execution => exact ⟨.request, .execution, trivial⟩
  | field r =>
    obtain ⟨hr, horphaned⟩ := h
    cases hparent : r.id.parent with
    | none => exact ⟨.execution, .top (.inl hparent), trivial⟩
    | some p =>
      by_cases hp : p = 0
      · exact ⟨.execution, .top (.inr (hp ▸ hparent)), trivial⟩
      · by_cases hknown : ∃ q ∈ f.fields, q.id.current = p
        · obtain ⟨q, hq, rfl⟩ := hknown
          exact ⟨.field q, .nested hq hparent, hq, fun h => horphaned (.inner hr hparent h)⟩
        · refine absurd (.root hr hparent hp fun q hq hid => ?_) horphaned
          exact hknown ⟨q, hq, hid⟩

/-- What would stand above an orphaned field is orphaned, or is no field at
all. -/
theorem slot_ne_of_orphaned (h : f.Orphaned r) (ha : f.Traced a) :
    a.slot ≠ Observer.enclosingSlot r.id := by
  have henclosing : ∀ p : Int, r.id.parent = some p → p ≠ 0 →
      Observer.enclosingSlot r.id = .field p := by
    intro p hparent hp
    simp [Observer.enclosingSlot, Request.ResolveId.enclosing?, hparent, hp]
  intro hslot
  cases h with
  | root _ hparent hp hnever =>
    rw [henclosing _ hparent hp] at hslot
    cases a with
    | field q => exact hnever q ha.1 (Slot.field.inj hslot)
    | request | parse | validation | execution => cases hslot
  | inner _ hencloses hp =>
    rw [henclosing _ hencloses (f.nonzero _ hp.mem)] at hslot
    cases a with
    | field q => exact ha.2 (eq_of_id ha.1 hp.mem (Slot.field.inj hslot) ▸ hp)
    | request | parse | validation | execution => cases hslot

end Forest

/-! ## Schedules -/

/-- The start or the end of a piece of work. -/
inductive Half where
  | opens (w : Work)
  | closes (w : Work)
deriving DecidableEq

/-- What a request tells besides its fields. -/
structure Query where
  source : Option String
  bindings : Value
  document : Value
  complexity : Int
  depth : Int

/-- The event of the start or the end of a piece of work. -/
def Half.event (q : Query) : Half → Event
  | .opens .request => .start
  | .opens .parse => .parseStart q.source q.bindings
  | .opens .validation => .validationStart
  | .opens .execution => .executionStart
  | .opens (.field r) => .resolveStart r
  | .closes .request => .finish
  | .closes .parse => .parseEnd q.document
  | .closes .validation => .validationEnd q.complexity q.depth
  | .closes .execution => .executionEnd
  | .closes (.field r) => .resolveEnd r

/-- The start and the end of a field. -/
def halvesOf (r : Resolution) : List Half := [.opens (.field r), .closes (.field r)]

/-- What comes before the fields of a request. -/
def beforeFields : List Half :=
  [.opens .request, .opens .parse, .closes .parse, .opens .validation, .closes .validation,
    .opens .execution]

/-- What comes after the fields of a request. -/
def afterFields : List Half := [.closes .execution, .closes .request]

/-- A request with the events of its fields. -/
def requestOf (es : List Half) : List Half := beforeFields ++ (es ++ afterFields)

namespace Forest

/-- An interleaving of the events of the fields: each occurs once, a field starts
before it ends, and the events of a field lie between those of the field that
encloses it. -/
structure Schedule (f : Forest) (es : List Half) : Prop where
  once : es.Perm (f.fields.flatMap halvesOf)
  paired : ∀ r ∈ f.fields, (halvesOf r).Sublist es
  nested : ∀ p ∈ f.fields, ∀ r ∈ f.fields, Encloses p r →
    [.opens (.field p), .opens (.field r), .closes (.field r), .closes (.field p)].Sublist es

instance (f : Forest) (es : List Half) : Decidable (f.Schedule es) :=
  decidable_of_iff
    (es.Perm (f.fields.flatMap halvesOf) ∧ (∀ r ∈ f.fields, (halvesOf r).Sublist es) ∧
      ∀ p ∈ f.fields, ∀ r ∈ f.fields, Encloses p r →
        [.opens (.field p), .opens (.field r), .closes (.field r), .closes (.field p)].Sublist es)
    ⟨fun h => ⟨h.1, h.2.1, h.2.2⟩, fun h => ⟨h.once, h.paired, h.nested⟩⟩

/-- What a schedule says of the fields, said of all pieces of work. -/
structure Nested (f : Forest) (es : List Half) : Prop where
  nodup : es.Nodup
  has : ∀ w, .opens w ∈ es ∨ .closes w ∈ es → f.Has w
  paired : ∀ w, f.Has w → [.opens w, .closes w].Sublist es
  nested : ∀ a w, f.Has w → f.Above a w →
    [.opens a, .opens w, .closes w, .closes a].Sublist es

variable {f : Forest} {es : List Half} {w : Work}

theorem Schedule.mem_iff (h : f.Schedule es) (e : Half) :
    e ∈ es ↔ ∃ r ∈ f.fields, e = .opens (.field r) ∨ e = .closes (.field r) := by
  rw [h.once.mem_iff, List.mem_flatMap]
  simp [halvesOf]

theorem Schedule.nodup (h : f.Schedule es) : es.Nodup := by
  rw [h.once.nodup_iff, List.nodup_flatMap]
  refine ⟨fun r _ => by simp [halvesOf], ?_⟩
  refine (List.Nodup.of_map _ f.distinct).imp fun {r r'} hne => ?_
  simp [Function.onFun, halvesOf, Ne.symm hne]

theorem Schedule.nodup_request (h : f.Schedule es) : (requestOf es).Nodup := by
  have hphase : ∀ es' : List Half, (∀ r, .opens (.field r) ∉ es' ∧ .closes (.field r) ∉ es') →
      List.Disjoint es es' := by
    intro es' hes' e he he'
    obtain ⟨r, -, rfl | rfl⟩ := (h.mem_iff e).1 he
    · exact (hes' r).1 he'
    · exact (hes' r).2 he'
  have hbefore : List.Disjoint es beforeFields := hphase _ fun r => by simp [beforeFields]
  have hafter : List.Disjoint es afterFields := hphase _ fun r => by simp [afterFields]
  refine List.Nodup.append (by decide) (List.Nodup.append h.nodup (by decide) hafter) ?_
  exact List.disjoint_append_right.2 ⟨fun _ he he' => hbefore he' he, by simp [beforeFields, afterFields]⟩

theorem sublist_requestOf (xs ys zs : List Half) (hxs : xs.Sublist beforeFields)
    (hys : ys.Sublist es) (hzs : zs.Sublist afterFields) :
    (xs ++ (ys ++ zs)).Sublist (requestOf es) :=
  hxs.append (hys.append hzs)

/-- A request whose fields come in a schedule is nested as a whole. -/
theorem Schedule.request (h : f.Schedule es) : f.Nested (requestOf es) := by
  have hnone : List.Sublist [] es := List.nil_sublist es
  refine ⟨h.nodup_request, ?_, ?_, ?_⟩
  · intro w hw
    cases w with
    | request | parse | validation | execution => trivial
    | field r =>
      have hmem : .opens (.field r) ∈ es ∨ .closes (.field r) ∈ es := by
        simpa [requestOf, beforeFields, afterFields] using hw
      rcases hmem with hmem | hmem <;> obtain ⟨r', hr', he⟩ := (h.mem_iff _).1 hmem
      · obtain rfl : r = r' := by simpa using he
        exact hr'
      · obtain rfl : r = r' := by simpa using he
        exact hr'
  · intro w hw
    cases w with
    | request =>
      exact sublist_requestOf [.opens .request] [] [.closes .request] (by decide) hnone (by decide)
    | parse =>
      exact sublist_requestOf [.opens .parse, .closes .parse] [] [] (by decide) hnone (by decide)
    | validation =>
      exact sublist_requestOf [.opens .validation, .closes .validation] [] [] (by decide) hnone
        (by decide)
    | execution =>
      exact sublist_requestOf [.opens .execution] [] [.closes .execution] (by decide) hnone
        (by decide)
    | field r =>
      exact sublist_requestOf [] (halvesOf r) [] (by decide) (h.paired r hw) (by decide)
  · intro a w hw habove
    cases habove with
    | parse =>
      exact sublist_requestOf [.opens .request, .opens .parse, .closes .parse] []
        [.closes .request] (by decide) hnone (by decide)
    | validation =>
      exact sublist_requestOf [.opens .request, .opens .validation, .closes .validation] []
        [.closes .request] (by decide) hnone (by decide)
    | execution =>
      exact sublist_requestOf [.opens .request, .opens .execution] []
        [.closes .execution, .closes .request] (by decide) hnone (by decide)
    | @top r =>
      exact sublist_requestOf [.opens .execution] (halvesOf r) [.closes .execution] (by decide)
        (h.paired r hw) (by decide)
    | @nested p r hp hencloses =>
      exact sublist_requestOf [] _ [] (by decide) (h.nested p hp r hw hencloses) (by decide)

end Forest

/-! ## What comes before an event -/

section

variable {α : Type} {x y : α} {xs ys : List α}

/-- In a list without repetitions, what comes before an element is in the part
before it. -/
theorem mem_of_pair_sublist (h : [x, y].Sublist (xs ++ y :: ys))
    (hnodup : (xs ++ y :: ys).Nodup) : x ∈ xs := by
  obtain ⟨left, right, hsplit, hx, hy⟩ := List.cons_sublist_iff.1 h
  have hy : y ∈ right := List.singleton_sublist.1 hy
  rw [hsplit] at hnodup
  have hdisjoint := (List.nodup_append.1 hnodup).2.2
  rcases List.append_eq_append_iff.1 hsplit with ⟨more, rfl, hright⟩ | ⟨more, rfl, hright⟩
  · rcases List.mem_append.1 hx with hx | hx
    · exact hx
    · cases more with
      | nil => exact absurd hx List.not_mem_nil
      | cons z more =>
        obtain rfl := (List.cons.inj hright).1
        exact absurd rfl (hdisjoint y (by simp) y hy)
  · exact List.mem_append_left _ hx

/-- In a list without repetitions, what comes after an element is not in the
part before it. -/
theorem not_mem_of_pair_sublist (h : [x, y].Sublist (xs ++ x :: ys))
    (hnodup : (xs ++ x :: ys).Nodup) : y ∉ xs := by
  intro hxs
  obtain ⟨left, right, hsplit, hx, hy⟩ := List.cons_sublist_iff.1 h
  have hy : y ∈ right := List.singleton_sublist.1 hy
  have hxs' : x ∉ xs := fun hmem => (List.nodup_append.1 hnodup).2.2 x hmem x (by simp) rfl
  rw [hsplit] at hnodup
  have hdisjoint := (List.nodup_append.1 hnodup).2.2
  rcases List.append_eq_append_iff.1 hsplit with ⟨more, rfl, -⟩ | ⟨more, rfl, -⟩
  · exact hdisjoint y (List.mem_append_left _ hxs) y hy rfl
  · exact hxs' (List.mem_append_left _ hx)

/-- In a list without repetitions, what comes before an element has the smaller
index. -/
theorem idxOf_lt_of_pair_sublist [DecidableEq α] (h : [x, y].Sublist xs) (hnodup : xs.Nodup) :
    xs.idxOf x < xs.idxOf y := by
  obtain ⟨left, right, rfl, hx, hy⟩ := List.cons_sublist_iff.1 h
  have hy : y ∈ right := List.singleton_sublist.1 hy
  have hy' : y ∉ left := fun hmem => (List.nodup_append.1 hnodup).2.2 y hmem y hy rfl
  rw [List.idxOf_append_of_mem hx, List.idxOf_append_of_notMem hy']
  exact Nat.lt_of_lt_of_le (List.idxOf_lt_length_of_mem hx) (Nat.le_add_right ..)

end

/-- Fields that have a schedule do not enclose one another in a circle. -/
theorem Forest.Schedule.wellFounded {f : Forest} {es : List Half} (h : f.Schedule es) :
    WellFounded fun p r => p ∈ f.fields ∧ r ∈ f.fields ∧ Encloses p r := by
  refine Subrelation.wf ?_ (measure fun r => es.idxOf (.opens (.field r))).wf
  rintro p r ⟨hp, hr, hencloses⟩
  exact idxOf_lt_of_pair_sublist (.trans (by simp) (h.nested p hp r hr hencloses)) h.nodup

namespace Forest.Nested

variable {f : Forest} {done rest : List Half} {a w : Work}

/-- When a piece of work starts, what stands above it has started and not
ended. -/
theorem at_opens (h : f.Nested (done ++ .opens w :: rest)) :
    f.Has w ∧ .opens w ∉ done ∧ .closes w ∉ done ∧
      ∀ a, f.Above a w → .opens a ∈ done ∧ .closes a ∉ done := by
  have hw : f.Has w := h.has w (.inl (by simp))
  refine ⟨hw, ?_, not_mem_of_pair_sublist (h.paired w hw) h.nodup, ?_⟩
  · exact fun hmem => (List.nodup_append.1 h.nodup).2.2 _ hmem _ (by simp) rfl
  · intro a habove
    have hsublist := h.nested a w hw habove
    exact ⟨mem_of_pair_sublist (.trans (by simp) hsublist) h.nodup,
      not_mem_of_pair_sublist (.trans (by simp) hsublist) h.nodup⟩

/-- When a piece of work ends, it has started and not ended. -/
theorem at_closes (h : f.Nested (done ++ .closes w :: rest)) :
    f.Has w ∧ .opens w ∈ done ∧ .closes w ∉ done := by
  have hw : f.Has w := h.has w (.inr (by simp))
  refine ⟨hw, mem_of_pair_sublist (h.paired w hw) h.nodup, ?_⟩
  exact fun hmem => (List.nodup_append.1 h.nodup).2.2 _ hmem _ (by simp) rfl

/-- In the end every piece of work has started and ended. -/
theorem at_end {es : List Half} (h : f.Nested es) (hw : f.Has w) :
    .opens w ∈ es ∧ .closes w ∈ es := by
  have hmem := (h.paired w hw).subset
  exact ⟨hmem (by simp), hmem (by simp)⟩

end Forest.Nested

end QueryTelemetry.Trace
