import Mathlib.Data.List.Basic
import Mathlib.Logic.Function.Iterate
import QueryTelemetry.Proofs.Log.Offers

/-!
# A record that is offered to handlers in turn

A handler that is offered a record is changed by it, or stays as it is when it fails
(`Handler.after`), and what leaves through it does not depend on what it was offered before
(`Handler.emitted_after`).  So offering a record to the handlers of some places changes each
handler as often as its place is mentioned, whatever becomes of the others
(`Registry.getElem?_offerAll`), and lets out what each mention lets out, in their order
(`Registry.emitted_offerAll`).
-/

namespace QueryTelemetry.Log

variable {k : Handler} {r r' : Record}

namespace Handler

/-- A handler after it was offered a record.  One that fails stays as it is. -/
def after (r : Record) (k : Handler) : Handler :=
  match k.handle r with
  | .ok (k', _) => k'
  | .error _ => k

/-- What leaves when a handler is offered a record.  Nothing does when it fails. -/
def emitted (r : Record) (k : Handler) : List Emission :=
  match k.handle r with
  | .ok (_, out) => out
  | .error _ => []

theorem after_of_handle {k' : Handler} {out : List Emission} (h : k.handle r = .ok (k', out)) :
    k.after r = k' ∧ k.emitted r = out := by
  simp only [after, emitted, h, and_self]

theorem after_of_fails {f : Fault} (h : k.handle r = .error f) :
    k.after r = k ∧ k.emitted r = [] := by
  simp only [after, emitted, h, and_self]

theorem after_buffer (r : Record) (capacity : Nat) (records : List Record) :
    (buffer capacity records).after r = buffer capacity (latest capacity (records ++ [r])) := rfl

/-- What a stream lets out does not depend on what it has written so far. -/
theorem emitted_stream_write (sink : Sink) (line : String) (format : Format) (least : Level)
    (closed : Bool) (r : Record) :
    (stream (sink.write line).1 format least closed).emitted r =
      (stream sink format least closed).emitted r := by
  unfold emitted
  by_cases hskip : (closed || !least.passes r.level) = true
  · simp only [handle, hskip, if_true]
  · cases hline : format.render r with
    | error f =>
      simp only [handle, hskip, hline]
      rfl
    | ok line' => cases sink <;> simp only [handle, hskip, hline] <;> rfl

/-- What leaves through a handler does not depend on what it was offered before. -/
theorem emitted_after (r r' : Record) (k : Handler) : (k.after r).emitted r' = k.emitted r' := by
  cases hhandle : k.handle r with
  | error f => rw [(after_of_fails hhandle).1]
  | ok result =>
    obtain ⟨k', out⟩ := result
    rw [(after_of_handle hhandle).1]
    cases handled_of_handle hhandle with
    | buffered | passedOver | forwarded | relayed => rfl
    | written sink => exact emitted_stream_write ..

end Handler

namespace Registry

variable {handlers : List Handler}

/-- What leaves when a record is offered to the handler of a place, if there is one. -/
def emittedAt (handlers : List Handler) (r : Record) (i : Nat) : List Emission :=
  (handlers[i]?.map (Handler.emitted r)).getD []

/-- Offering a record changes the handler that it is offered to, and no other. -/
theorem offer_eq (handlers : List Handler) (r : Record) (i : Nat) :
    offer handlers r i = (handlers.modify i (Handler.after r), emittedAt handlers r i) := by
  rw [List.modify_eq_set_getElem?, offer, emittedAt]
  cases hi : handlers[i]? with
  | none => rfl
  | some k =>
    cases hhandle : k.handle r with
    | ok result =>
      obtain ⟨hafter, hemitted⟩ := Handler.after_of_handle hhandle
      simp only [hafter, hemitted, hhandle, Option.map_eq_map, Option.map_some, Option.getD_some]
    | error f =>
      obtain ⟨hafter, hemitted⟩ := Handler.after_of_fails hhandle
      have hset : handlers.set i k = handlers := by
        obtain ⟨hlt, rfl⟩ := List.getElem?_eq_some_iff.1 hi
        exact List.set_getElem_self hlt
      simp only [hafter, hemitted, hhandle, hset, Option.map_eq_map, Option.map_some,
        Option.getD_some]

theorem getElem?_offer (handlers : List Handler) (r : Record) (i h : Nat) :
    (offer handlers r i).1[h]? = handlers[h]?.map fun k => if i = h then k.after r else k := by
  rw [offer_eq, List.getElem?_modify, Option.map_eq_map]

theorem emittedAt_offer (handlers : List Handler) (r : Record) (i : Nat) :
    emittedAt (offer handlers r i).1 r = emittedAt handlers r := by
  funext h
  rw [emittedAt, emittedAt, getElem?_offer]
  cases handlers[h]? with
  | none => rfl
  | some k =>
    simp only [Option.map_some, Option.getD_some]
    split
    · exact Handler.emitted_after r r k
    · rfl

/-- Each handler is changed as often as its place is mentioned. -/
theorem getElem?_offerAll (handlers : List Handler) (r : Record) (places : List Nat) (h : Nat) :
    (offerAll handlers r places).1[h]? =
      handlers[h]?.map (Handler.after r)^[places.count h] := by
  induction places generalizing handlers with
  | nil => simp [offerAll]
  | cons i rest ih =>
    rw [offerAll, ih, getElem?_offer, Option.map_map, List.count_cons]
    refine Option.map_congr fun k _ => ?_
    by_cases hih : i = h
    · simp [hih]
    · simp [hih]

/-- Every mention of a handler lets out the same. -/
theorem emitted_offerAll (handlers : List Handler) (r : Record) (places : List Nat) :
    (offerAll handlers r places).2 = places.flatMap (emittedAt handlers r) := by
  induction places generalizing handlers with
  | nil => rfl
  | cons i rest ih =>
    have hrest := ih (offer handlers r i).1
    rw [emittedAt_offer] at hrest
    rw [List.flatMap_cons, ← hrest]
    exact congrArg (· ++ _) (congrArg Prod.snd (offer_eq handlers r i))

end Registry

end QueryTelemetry.Log
