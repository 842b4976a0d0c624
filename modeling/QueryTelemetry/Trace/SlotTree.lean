import QueryTelemetry.Fault
import QueryTelemetry.Log.Host
import QueryTelemetry.Trace.Context
import QueryTelemetry.Value.Mapping

/-!
# Live slots

The events of a request come as pairs of a beginning and an end, with other events in between. The
slot tree keeps the context of each piece of work between its two events, under its slot. It keeps
the order in which slots became live; a slot that is entered while it is live keeps its place and
takes the new context, unless the tree is strict, which rejects such an entry.

Entering decides the context of one slot and of no other (`get?_enter`), so does leaving
(`get?_exit`), and no slot is ever listed twice (`nodup_keys_enter`, `nodup_keys_exit`).
-/

namespace QueryTelemetry.Trace

/-- What came of entering a slot. -/
inductive Entered where
  | fresh
  | replaced
  | rejected
deriving DecidableEq, Repr

/-- The contexts of the live slots. -/
structure SlotTree where
  strict : Bool
  slots : List (Slot × Context)

namespace SlotTree

/-- A tree without live slots. -/
def empty (strict : Bool) : SlotTree := { strict, slots := [] }

/-- The context of a slot. -/
def get? (t : SlotTree) (k : Slot) : Option Context := Assoc.get? t.slots k

/-- Whether a slot is live. -/
def isLive (t : SlotTree) (k : Slot) : Bool := Assoc.has t.slots k

/-- Whether a value is a live slot. It must be usable as a key. -/
def holds (t : SlotTree) (v : Value) : Except Fault Bool :=
  match v.unusableKey?, v with
  | some kind, _ => .error (Value.unusableKey kind)
  | none, .slot k => .ok (t.isLive k)
  | none, _ => .ok false

/-- The live slots. -/
def keys (t : SlotTree) : List Slot := Assoc.keys t.slots

/-- The tree with the context of a slot. -/
def put (t : SlotTree) (k : Slot) (c : Context) : SlotTree :=
  { t with slots := Assoc.put t.slots k c }

/-- Enter a slot with a context. -/
def enter (t : SlotTree) (k : Slot) (c : Context) : Entered × SlotTree :=
  if t.isLive k then
    if t.strict then (.rejected, t) else (.replaced, t.put k c)
  else (.fresh, t.put k c)

/-- Leave a slot: its context if it was live, and the tree without it. -/
def exit (t : SlotTree) (k : Slot) : Option Context × SlotTree :=
  (t.get? k, { t with slots := Assoc.remove t.slots k })

/-- The context that is current while the end of the work of a slot is handled: the context that
was in the slot, or the one outside when the slot was not live. -/
def inside (left : Option Context) (outside : Context) : Context := left.getD outside

/-- Leave every slot: the slots and their contexts, the last one first. -/
def drain (t : SlotTree) : List (Slot × Context) × SlotTree :=
  (t.slots.reverse, { t with slots := [] })

/-- The full description of a tree. -/
def describe (t : SlotTree) : String :=
  "ContextTree(slots=" ++ enclose "[" "]" (t.keys.map Slot.describe) ++ ", strict=" ++
    (if t.strict then "True" else "False") ++ ")"

/-- The error of entering a live slot of a strict tree. -/
def alreadyLive (k : Slot) : Fault :=
  .contextSlot ("Context slot " ++ k.label ++ " entered while still live") k

/-- The warning about a context that was dropped by entering its slot again. -/
def droppedNote (k : Slot) : Log.HostRecord :=
  .plain "gqlext.opentelemetry.context_tree" .warning
    ("Context slot " ++ k.label ++ " entered while still live, previous context dropped")

/-- The notes that entering a slot leaves. -/
def notesOf (k : Slot) : Entered → List Log.HostRecord
  | .replaced => [droppedNote k]
  | _ => []

theorem isLive_eq_isSome_get? (t : SlotTree) (k : Slot) : t.isLive k = (t.get? k).isSome :=
  (Assoc.isSome_get? t.slots k).symm

theorem isLive_iff_mem_keys {t : SlotTree} {k : Slot} : t.isLive k = true ↔ k ∈ t.keys :=
  Assoc.has_eq_true_iff

/-- A rejected entry leaves the tree as it was. -/
theorem enter_rejected {t t' : SlotTree} {k : Slot} {c : Context}
    (h : t.enter k c = (.rejected, t')) : t' = t ∧ t.strict = true ∧ t.isLive k = true := by
  simp only [enter] at h
  split at h
  · next live =>
    split at h
    · next strict => exact ⟨(Prod.mk.inj h).2.symm, strict, live⟩
    · simp at h
  · simp at h

/-- An entry that is not rejected puts the context in its slot. -/
theorem enter_of_accepted {t : SlotTree} {k : Slot} {c : Context}
    (h : (t.isLive k && t.strict) = false) : (t.enter k c).2 = t.put k c := by
  simp only [enter]
  cases hl : t.isLive k <;> cases hs : t.strict <;> simp_all

theorem get?_enter {t : SlotTree} {k : Slot} {c : Context}
    (h : (t.isLive k && t.strict) = false) (k' : Slot) :
    (t.enter k c).2.get? k' = if k' = k then some c else t.get? k' := by
  rw [enter_of_accepted h]
  simp [get?, put, Assoc.get?_put]

theorem get?_exit (t : SlotTree) (k k' : Slot) :
    (t.exit k).2.get? k' = if k' = k then none else t.get? k' := by
  simp [get?, exit, Assoc.get?_remove]

theorem nodup_keys_enter {t : SlotTree} (h : t.keys.Nodup) (k : Slot) (c : Context) :
    (t.enter k c).2.keys.Nodup := by
  simp only [enter]
  split
  · split
    · exact h
    · exact Assoc.nodup_keys_put h k c
  · exact Assoc.nodup_keys_put h k c

theorem nodup_keys_exit {t : SlotTree} (h : t.keys.Nodup) (k : Slot) : (t.exit k).2.keys.Nodup := by
  have kept : ((Assoc.keys t.slots).filter (!· == k)).Nodup := List.Pairwise.filter _ h
  rw [← Assoc.keys_remove] at kept
  exact kept

end SlotTree

end QueryTelemetry.Trace
