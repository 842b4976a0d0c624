import Mathlib.Data.List.DropRight
import QueryTelemetry.Proofs.Log.Buffers

/-!
# Loggers that are asked for and configured in any order

Loggers are asked for by their names, configured together, and given handlers one by one, in
any order.  What a logger ends up with can be read off that history (`lastLevel`, `inForce`,
`changesSince`), whether it was there when a configuration was made or came later.
`Registry.logger_after_adjustments` says so for every history.
-/

namespace QueryTelemetry.Log

/-- What can be done to the loggers and their handlers. -/
inductive Adjustment where
  | handler (h : Handler)
  | logger (l : Logger)
  | request (name : String) (level : Option Level)
  | configure (level : Level) (handlers : Option (List Nat)) (format : Format)
  | attach (i h : Nat)
  | detach (i h : Nat)

namespace Registry

/-- The registry after an adjustment. -/
def adjust (g : Registry) : Adjustment → Registry
  | .handler h => (g.addHandler h).2
  | .logger l => (g.addLogger l).2
  | .request name level => (g.getLogger name level).2
  | .configure level handlers format => g.configure level handlers format
  | .attach i h => g.updateLogger i (·.addHandler h)
  | .detach i h => g.updateLogger i (·.removeHandler h)

/-- The registry after a history of adjustments. -/
def adjusted (history : List Adjustment) : Registry := history.foldl adjust initial

end Registry

/-! ## What a history says -/

namespace Adjustment

/-- The level that a configuration gives to all loggers. -/
def level? : Adjustment → Option Level
  | configure level _ _ => some level
  | _ => none

/-- Whether a handler is made: by itself, or for a configuration without handlers. -/
def makes : Adjustment → Bool
  | handler _ | configure _ none _ => true
  | _ => false

/-- What an adjustment makes of the handlers of the logger of a place, unless it is a
configuration. -/
def change (i : Nat) (handlers : List Nat) : Adjustment → List Nat
  | attach j h => if j = i ∧ h ∉ handlers then handlers ++ [h] else handlers
  | detach j h => if j = i then handlers.erase h else handlers
  | _ => handlers

end Adjustment

/-- How many handlers there are after a history. -/
def handlerCount (history : List Adjustment) : Nat := 1 + history.countP (·.makes)

/-- The level of the last configuration. -/
def lastLevel (history : List Adjustment) : Option Level :=
  history.reverse.findSome? (·.level?)

/-- The handlers of the last configuration, of a history that is given from its end; the first
handler before there is any. -/
def inForceBefore : List Adjustment → List Nat
  | [] => [0]
  | .configure _ handlers _ :: earlier => handlers.getD [handlerCount earlier]
  | _ :: earlier => inForceBefore earlier

/-- The handlers of the last configuration. -/
def inForce (history : List Adjustment) : List Nat := inForceBefore history.reverse

/-- What was done since the last configuration. -/
def changesSince (history : List Adjustment) : List Adjustment :=
  history.rtakeWhile (·.level?.isNone)

section

variable (history : List Adjustment) (a : Adjustment)

theorem handlerCount_concat :
    handlerCount (history ++ [a]) = handlerCount history + if a.makes then 1 else 0 := by
  rw [handlerCount, List.countP_append, List.countP_singleton, handlerCount, Nat.add_assoc]

theorem handlerCount_reverse : handlerCount history.reverse = handlerCount history := by
  rw [handlerCount, List.countP_reverse, handlerCount]

theorem lastLevel_append (before after : List Adjustment) :
    lastLevel (before ++ after) = (lastLevel after).or (lastLevel before) := by
  rw [lastLevel, List.reverse_append, List.findSome?_append]
  rfl

theorem lastLevel_concat : lastLevel (history ++ [a]) = a.level?.or (lastLevel history) := by
  rw [lastLevel_append, lastLevel, List.reverse_singleton, List.findSome?_singleton]

theorem inForce_concat (quiet : a.level? = none) : inForce (history ++ [a]) = inForce history := by
  rw [inForce, List.reverse_append]
  cases a with
  | configure => cases quiet
  | _ => rfl

theorem inForce_configure (level : Level) (handlers : Option (List Nat)) (format : Format) :
    inForce (history ++ [.configure level handlers format]) =
      handlers.getD [handlerCount history] := by
  rw [inForce, List.reverse_append, ← handlerCount_reverse history]
  rfl

theorem changesSince_concat (quiet : a.level? = none) :
    changesSince (history ++ [a]) = changesSince history ++ [a] := by
  rw [changesSince, List.rtakeWhile_concat_pos]
  · rfl
  · rw [quiet]
    rfl

theorem changesSince_configure (level : Level) (handlers : Option (List Nat)) (format : Format) :
    changesSince (history ++ [.configure level handlers format]) = [] := by
  rw [changesSince, List.rtakeWhile_concat_neg]
  exact Bool.false_ne_true

end

/-! ## One adjustment -/

/-- What an adjustment makes of the named logger of a place, with so many handlers before. -/
def Logger.adjust (l : Logger) (i count : Nat) : Adjustment → Logger
  | .configure level handlers _ => { l with level, handlers := handlers.getD [count] }
  | a => { l with handlers := a.change i l.handlers }

theorem Logger.addHandler_eq_change (l : Logger) (i h : Nat) :
    l.addHandler h = { l with handlers := Adjustment.change i l.handlers (.attach i h) } := by
  rw [addHandler, Adjustment.change]
  by_cases hmem : h ∈ l.handlers
  · rw [if_pos (List.contains_iff_mem.2 hmem), if_neg fun hnew => hnew.2 hmem]
  · rw [if_neg (mt List.contains_iff_mem.1 hmem), if_pos ⟨rfl, hmem⟩]

namespace Registry

variable {g : Registry} {history : List Adjustment}

theorem getElem?_foldl_modify {α : Type} {f : α → α} (again : ∀ x, f (f x) = f x)
    (places : List Nat) (xs : List α) (i : Nat) :
    (places.foldl (fun xs j => xs.modify j f) xs)[i]? =
      if i ∈ places then xs[i]?.map f else xs[i]? := by
  induction places generalizing xs with
  | nil => rfl
  | cons j places ih =>
    rw [List.foldl_cons, ih, List.getElem?_modify]
    by_cases hj : j = i
    · subst hj
      cases xs[j]? <;> simp [again]
    · simp [hj, Ne.symm hj]

theorem length_foldl_modify {α : Type} (f : α → α) (places : List Nat) (xs : List α) :
    (places.foldl (fun xs j => xs.modify j f) xs).length = xs.length := by
  induction places generalizing xs with
  | nil => rfl
  | cons j places ih => rw [List.foldl_cons, ih, List.length_modify]

/-- A new element at the end is changed last. -/
theorem foldl_modify_concat {α : Type} (f : α → α) {places : List Nat} {xs : List α}
    (hplaces : ∀ j ∈ places, j < xs.length) (x : α) :
    (places ++ [xs.length]).foldl (fun xs j => xs.modify j f) (xs ++ [x]) =
      places.foldl (fun xs j => xs.modify j f) xs ++ [f x] := by
  induction places generalizing xs with
  | nil =>
    show (xs ++ [x]).modify xs.length f = xs ++ [f x]
    rw [List.modify_eq_take_cons_drop (by simp)]
    simp
  | cons j places ih =>
    have hj : j < xs.length := hplaces j List.mem_cons_self
    have hfirst : (xs ++ [x]).modify j f = xs.modify j f ++ [x] := by
      rw [List.modify_eq_take_cons_drop hj, List.modify_eq_take_cons_drop (by simp; omega),
        List.take_append_of_le_length hj.le, List.drop_append_of_le_length hj,
        List.getElem_append_left hj, List.append_assoc, List.cons_append]
    have hlater : ∀ k ∈ places, k < (xs.modify j f).length := by
      intro k hk
      rw [List.length_modify]
      exact hplaces k (List.mem_cons_of_mem _ hk)
    have hrest := ih hlater
    rw [List.length_modify] at hrest
    rw [List.cons_append, List.foldl_cons, hfirst, hrest, List.foldl_cons]

theorem length_install (level : Level) (handlers : List Nat) :
    (g.install level handlers).loggers.length = g.loggers.length :=
  length_foldl_modify _ _ _

theorem getElem?_install {i : Nat} (hi : i ∈ g.named.map (·.2)) (level : Level)
    (handlers : List Nat) : (g.install level handlers).loggers[i]? =
      g.loggers[i]?.map fun l => { l with level, handlers } := by
  refine (getElem?_foldl_modify (f := fun l => { l with level, handlers }) (fun _ => rfl)
    (g.named.map (·.2)) g.loggers i).trans ?_
  rw [if_pos hi]

theorem loggers_configure (level : Level) (handlers : Option (List Nat)) (format : Format) :
    (g.configure level handlers format).loggers =
      (g.install level (handlers.getD [g.handlers.length])).loggers := by
  cases handlers <;> rfl

theorem named_configure (level : Level) (handlers : Option (List Nat)) (format : Format) :
    (g.configure level handlers format).named = g.named := by
  cases handlers <;> rfl

/-- Asking for a new name adds a logger at the end. -/
theorem getLogger_of_unnamed {name : String} (hname : Assoc.get? g.named name = none)
    (level : Option Level) : g.getLogger name level = (g.loggers.length,
      { g with
        loggers := g.loggers ++
          [{ name, level := level.getD g.level, handlers := g.defaults, masker := .standard }]
        named := Assoc.put g.named name g.loggers.length }) := by
  have fresh : Assoc.has g.named name = false := by rw [← Assoc.isSome_get?, hname]; rfl
  rw [getLogger, hname, Assoc.put_of_has_eq_false _ fresh]
  rfl

/-! ## Names -/

/-- Every name has a logger, and no two names have the same. -/
structure WellNamed (g : Registry) : Prop where
  present : ∀ e ∈ g.named, e.2 < g.loggers.length
  distinct : ∀ {name other i}, Assoc.get? g.named name = some i →
    Assoc.get? g.named other = some i → name = other

theorem WellNamed.lt_of_get? (h : g.WellNamed) {name : String} {i : Nat}
    (hi : Assoc.get? g.named name = some i) : i < g.loggers.length :=
  h.present _ (Assoc.mem_of_get? hi)

theorem WellNamed.of_length_le (h : g.WellNamed) {g' : Registry} (hnamed : g'.named = g.named)
    (hlength : g.loggers.length ≤ g'.loggers.length) : g'.WellNamed where
  present e he := Nat.lt_of_lt_of_le (h.present e (hnamed ▸ he)) hlength
  distinct hi hother := h.distinct (hnamed ▸ hi) (hnamed ▸ hother)

theorem WellNamed.getLogger (h : g.WellNamed) (name : String) (level : Option Level) :
    (g.getLogger name level).2.WellNamed := by
  cases hname : Assoc.get? g.named name with
  | some i =>
    rw [getLogger_of_named hname]
    exact h
  | none =>
    rw [getLogger_of_unnamed hname]
    refine ⟨fun e he => ?_, fun {other third i} hi hj => ?_⟩
    · rw [List.length_append]
      rcases Assoc.eq_or_mem_of_mem_put he with rfl | he
      · exact Nat.lt_succ_self _
      · exact Nat.lt_succ_of_lt (h.present e he)
    · -- the place of the new logger is beyond those of all others
      rw [Assoc.get?_put] at hi hj
      split at hi <;> split at hj
      · next hother hthird => rw [eq_of_beq hother, eq_of_beq hthird]
      · cases hi
        exact absurd (h.lt_of_get? hj) (Nat.lt_irrefl _)
      · cases hj
        exact absurd (h.lt_of_get? hi) (Nat.lt_irrefl _)
      · exact h.distinct hi hj

theorem WellNamed.adjust (h : g.WellNamed) (a : Adjustment) : (g.adjust a).WellNamed := by
  cases a with
  | handler => exact h.of_length_le rfl (Nat.le_refl _)
  | logger => exact h.of_length_le rfl (by simp [Registry.adjust, addLogger])
  | request name level => exact h.getLogger name level
  | configure level handlers format =>
    refine h.of_length_le (named_configure ..) ?_
    rw [Registry.adjust, loggers_configure, length_install]
  | attach | detach => exact h.of_length_le rfl (by simp [Registry.adjust, updateLogger])

/-- A name keeps its logger. -/
theorem get?_named_adjust {name : String} {i : Nat} (hi : Assoc.get? g.named name = some i)
    (a : Adjustment) : Assoc.get? (g.adjust a).named name = some i := by
  cases a with
  | request other level =>
    rw [adjust]
    cases hother : Assoc.get? g.named other with
    | some j =>
      rw [getLogger_of_named hother]
      exact hi
    | none =>
      have hne : (name == other) = false := by
        refine beq_eq_false_iff_ne.2 ?_
        rintro rfl
        cases hi.symm.trans hother
      rw [getLogger_of_unnamed hother, Assoc.get?_put, hne]
      exact hi
  | configure level handlers format =>
    rw [adjust, named_configure]
    exact hi
  | handler | logger | attach | detach => exact hi

/-! ## A logger after one adjustment -/

theorem getElem?_adjust (h : g.WellNamed) {name : String} {i : Nat} {l : Logger}
    (hi : Assoc.get? g.named name = some i) (hl : g.loggers[i]? = some l) (a : Adjustment) :
    (g.adjust a).loggers[i]? = some (l.adjust i g.handlers.length a) := by
  cases a with
  | handler => exact hl
  | logger => exact (List.getElem?_append_left (h.lt_of_get? hi)).trans hl
  | request other level =>
    rw [adjust]
    cases hother : Assoc.get? g.named other with
    | some j =>
      rw [getLogger_of_named hother]
      exact hl
    | none =>
      rw [getLogger_of_unnamed hother]
      exact (List.getElem?_append_left (h.lt_of_get? hi)).trans hl
  | configure level handlers format =>
    have hmem : i ∈ g.named.map (·.2) := List.mem_map_of_mem (Assoc.mem_of_get? hi)
    rw [adjust, loggers_configure, getElem?_install hmem, hl]
    rfl
  | attach j k =>
    rw [adjust, updateLogger, List.getElem?_modify, hl]
    by_cases hj : j = i
    · subst hj
      simp [Logger.addHandler_eq_change l j k, Logger.adjust]
    · simp [hj, Logger.adjust, Adjustment.change]
  | detach j k =>
    rw [adjust, updateLogger, List.getElem?_modify, hl]
    by_cases hj : j = i
    · simp [hj, Logger.adjust, Adjustment.change, Logger.removeHandler]
    · simp [hj, Logger.adjust, Adjustment.change]

/-! ## Any history -/

/-- What a history leaves, the loggers apart: handlers, names, and what later loggers start
with. -/
structure Follows (g : Registry) (history : List Adjustment) : Prop where
  wellNamed : g.WellNamed
  count : g.handlers.length = handlerCount history
  level : g.level = (lastLevel history).getD .debug
  defaults : g.defaults = inForce history
  requested : ∀ {name}, (∀ level, .request name level ∉ history) → Assoc.get? g.named name = none

theorem adjusted_concat (history : List Adjustment) (a : Adjustment) :
    adjusted (history ++ [a]) = (adjusted history).adjust a := by
  rw [adjusted, List.foldl_append]
  rfl

/-- An adjustment that is not a configuration. -/
theorem Follows.of_quiet (h : g.Follows history) {a : Adjustment} (quiet : a.level? = none)
    (hcount : (g.adjust a).handlers.length = g.handlers.length + if a.makes then 1 else 0)
    (hlevel : (g.adjust a).level = g.level) (hdefaults : (g.adjust a).defaults = g.defaults)
    (hrequested : ∀ {name}, (∀ level, a ≠ .request name level) →
      Assoc.get? (g.adjust a).named name = Assoc.get? g.named name) :
    (g.adjust a).Follows (history ++ [a]) where
  wellNamed := h.wellNamed.adjust a
  count := by rw [hcount, h.count, handlerCount_concat]
  level := by rw [hlevel, h.level, lastLevel_concat, quiet, Option.none_or]
  defaults := by rw [hdefaults, h.defaults, inForce_concat history a quiet]
  requested hnot := by
    rw [hrequested fun level heq => hnot level (heq ▸ List.mem_concat_self)]
    exact h.requested fun level hmem => hnot level (List.mem_append_left _ hmem)

theorem Follows.adjust (h : g.Follows history) (a : Adjustment) :
    (g.adjust a).Follows (history ++ [a]) := by
  cases a with
  | configure level handlers format =>
    refine ⟨h.wellNamed.adjust _, ?_, ?_, ?_, fun hnot => ?_⟩
    · rw [handlerCount_concat, ← h.count]
      cases handlers with
      | none => simp [Registry.adjust, configure, install, addHandler, Adjustment.makes]
      | some => rfl
    · rw [lastLevel_concat]
      cases handlers <;> rfl
    · rw [inForce_configure, ← h.count]
      cases handlers <;> rfl
    · rw [Registry.adjust, named_configure]
      exact h.requested fun level hmem => hnot level (List.mem_append_left _ hmem)
  | request name level =>
    cases hname : Assoc.get? g.named name with
    | some i =>
      have hsame : g.adjust (.request name level) = g := by
        rw [Registry.adjust, getLogger_of_named hname]
      refine h.of_quiet rfl ?_ ?_ ?_ ?_ <;> simp [hsame, Adjustment.makes]
    | none =>
      have hadded := congrArg Prod.snd (getLogger_of_unnamed hname level)
      refine h.of_quiet rfl ?_ ?_ ?_ fun {other} hother => ?_
      · rw [Registry.adjust, hadded]
        rfl
      · rw [Registry.adjust, hadded]
      · rw [Registry.adjust, hadded]
      · have hne : other ≠ name := fun heq => hother level (heq ▸ rfl)
        rw [Registry.adjust, hadded, Assoc.get?_put, if_neg (by simpa using hne)]
  | handler k =>
    have hcount : (g.addHandler k).2.handlers.length = g.handlers.length + 1 :=
      List.length_append
    exact h.of_quiet rfl hcount rfl rfl fun _ => rfl
  | logger | attach | detach => exact h.of_quiet rfl rfl rfl rfl fun _ => rfl

theorem follows_adjusted (history : List Adjustment) : (adjusted history).Follows history := by
  induction history using List.reverseRecOn with
  | nil =>
    exact ⟨⟨nofun, nofun⟩, rfl, rfl, rfl, fun _ => rfl⟩
  | append_singleton history a ih =>
    rw [adjusted_concat]
    exact ih.adjust a

/-- What is left of a logger, with the level it was made with, after the history that made it
and one more adjustment. -/
theorem adjust_of_history (name : String) (i : Nat) (level : Option Level)
    (history after : List Adjustment) (a : Adjustment) :
    Logger.adjust
        { name
          level := ((lastLevel after).or level).getD .debug
          handlers := (changesSince after).foldl (Adjustment.change i) (inForce history)
          masker := .standard } i (handlerCount history) a =
      { name
        level := ((lastLevel (after ++ [a])).or level).getD .debug
        handlers := (changesSince (after ++ [a])).foldl (Adjustment.change i)
          (inForce (history ++ [a]))
        masker := .standard } := by
  cases ha : a.level? with
  | none =>
    rw [lastLevel_concat, ha, changesSince_concat after a ha, inForce_concat history a ha,
      List.foldl_append]
    cases a with
    | configure => cases ha
    | _ => rfl
  | some =>
    cases a with
    | configure level' handlers format =>
      rw [lastLevel_concat, changesSince_configure, inForce_configure]
      rfl
    | _ => cases ha

/-- The logger that a name gets when it is first asked for, and what has become of it after
anything else. -/
theorem logger_after_request {before : List Adjustment} {name : String}
    (first : ∀ level, .request name level ∉ before) (level : Option Level)
    (after : List Adjustment) :
    Assoc.get? (adjusted (before ++ .request name level :: after)).named name =
        some (adjusted before).loggers.length ∧
      (adjusted (before ++ .request name level :: after)).loggers[
          (adjusted before).loggers.length]? =
        some
          { name
            level := ((lastLevel after).or (level.or (lastLevel before))).getD .debug
            handlers := (changesSince after).foldl
              (Adjustment.change (adjusted before).loggers.length)
              (inForce (before ++ .request name level :: after))
            masker := .standard } := by
  induction after using List.reverseRecOn with
  | nil =>
    have h := follows_adjusted before
    rw [adjusted_concat, adjust, getLogger_of_unnamed (h.requested first)]
    refine ⟨by rw [Assoc.get?_put, if_pos (beq_self_eq_true name)], ?_⟩
    rw [List.getElem?_concat_length, inForce_concat _ _ rfl, ← h.defaults, h.level]
    cases level <;> rfl
  | append_singleton after a ih =>
    obtain ⟨hnamed, hlogger⟩ := ih
    have h := follows_adjusted (before ++ .request name level :: after)
    rw [← List.cons_append, ← List.append_assoc, adjusted_concat, ← adjust_of_history, ← h.count]
    exact ⟨get?_named_adjust hnamed a, getElem?_adjust h.wellNamed hnamed hlogger a⟩

/-- A logger that was named last gets the settings of a configuration like all others. -/
theorem install_concat (h : g.WellNamed) {name : String}
    (hname : Assoc.get? g.named name = none) (l : Logger) (level : Level) (handlers : List Nat) :
    { g with
      loggers := g.loggers ++ [l]
      named := Assoc.put g.named name g.loggers.length }.install level handlers =
      { g.install level handlers with
        loggers := (g.install level handlers).loggers ++ [{ l with level, handlers }]
        named := Assoc.put g.named name g.loggers.length } := by
  have fresh : Assoc.has g.named name = false := by rw [← Assoc.isSome_get?, hname]; rfl
  have hplaces : ∀ j ∈ g.named.map (·.2), j < g.loggers.length := by
    intro j hj
    obtain ⟨e, he, rfl⟩ := List.mem_map.1 hj
    exact h.present e he
  simp only [install, Assoc.put_of_has_eq_false _ fresh, List.map_append, List.map_singleton,
    foldl_modify_concat _ hplaces]

/-- A name that has no level of its own can be asked for before or after a configuration. -/
theorem configure_getLogger (h : g.WellNamed) (name : String) (level : Level)
    (handlers : Option (List Nat)) (format : Format) :
    (g.getLogger name none).2.configure level handlers format =
      ((g.configure level handlers format).getLogger name none).2 := by
  cases hname : Assoc.get? g.named name with
  | some i =>
    have hlater : Assoc.get? (g.configure level handlers format).named name = some i := by
      rw [named_configure, hname]
    rw [getLogger_of_named hname, getLogger_of_named hlater]
  | none =>
    have hlater : Assoc.get? (g.configure level handlers format).named name = none := by
      rw [named_configure, hname]
    rw [getLogger_of_unnamed hname, getLogger_of_unnamed hlater, loggers_configure,
      length_install]
    cases handlers with
    | some places => exact install_concat h hname _ level places
    | none =>
      have hmade : (g.addHandler (.stream .errorStream format level false)).2.WellNamed :=
        h.of_length_le rfl (Nat.le_refl _)
      exact install_concat hmade hname _ level [g.handlers.length]

/-- Whatever has been done to the loggers and handlers, there is one logger for each name: asking
for it gives that logger from the first time on, and asking for another name never does.  Its
level is that of the last configuration since it was first asked for, else the one given then,
else that of the last configuration before.  Its handlers are those in force, changed by what was
done with this logger since the last configuration.  So a name without a level of its own can be
asked for before or after a configuration. -/
theorem logger_after_adjustments {before : List Adjustment} {name : String}
    (first : ∀ level, .request name level ∉ before) (level : Option Level)
    (after : List Adjustment) :
    (∃ i l, (adjusted (before ++ .request name level :: after)).loggers[i]? = some l ∧
      ((adjusted before).getLogger name level).1 = i ∧
      (∀ since other level',
        ((adjusted (before ++ .request name level :: since)).getLogger other level').1 = i ↔
          other = name) ∧
      l.name = name ∧ l.masker = .standard ∧
      l.level = ((lastLevel after).or (level.or (lastLevel before))).getD .debug ∧
      l.handlers = (changesSince after).foldl (Adjustment.change i)
        (inForce (before ++ .request name level :: after))) ∧
    ∀ level' handlers format,
      adjusted (before ++ .request name none :: .configure level' handlers format :: after) =
        adjusted (before ++ .configure level' handlers format :: .request name none :: after) := by
  refine ⟨?_, fun level' handlers format => ?_⟩
  · obtain ⟨-, hlogger⟩ := logger_after_request first level after
    refine ⟨_, _, hlogger, ?_, fun since other level' => ?_, rfl, rfl, rfl, rfl⟩
    · rw [getLogger_of_unnamed ((follows_adjusted before).requested first)]
    · obtain ⟨hnamed, -⟩ := logger_after_request first level since
      have h := (follows_adjusted (before ++ .request name level :: since)).wellNamed
      refine ⟨fun hi => ?_, ?_⟩
      · generalize adjusted (before ++ .request name level :: since) = g at *
        cases hother : Assoc.get? g.named other with
        | some j =>
          rw [getLogger_of_named hother] at hi
          exact h.distinct (hi ▸ hother) hnamed
        | none =>
          rw [getLogger_of_unnamed hother] at hi
          exact absurd (h.lt_of_get? hnamed) (hi ▸ Nat.lt_irrefl _)
      · rintro rfl
        rw [getLogger_of_named hnamed]
  · have h := (follows_adjusted before).wellNamed
    rw [adjusted, adjusted, List.foldl_append, List.foldl_append]
    show List.foldl _ (((adjusted before).getLogger name none).2.configure ..) after = _
    rw [configure_getLogger h]
    rfl

/-- A handler is made, and the loggers to come are configured with it. -/
def prepared : List Adjustment :=
  [.handler .failing, .configure .warning (some [1]) (.text false)]

/-- Handlers are attached to the first logger before and after a configuration that makes a
handler of its own, which is then taken from it; a second logger is asked for meanwhile. -/
def reconfigured : List Adjustment :=
  [.attach 0 0, .configure .error none (.text true), .attach 0 1, .request "b" none,
    .attach 1 0, .detach 0 2]

/-- What was attached before the last configuration does not count, nor does the level with which
the logger was first asked for. -/
theorem logger_after_reconfiguration :
    (∀ level, .request "a" level ∉ prepared) ∧
    ∃ l, (adjusted (prepared ++ .request "a" (some .info) :: reconfigured)).loggers[0]? = some l ∧
      l.level = .error ∧ l.handlers = [1] := by
  have first : ∀ level, .request "a" level ∉ prepared := by simp [prepared]
  obtain ⟨⟨i, l, hl, rfl, -, -, -, hlevel, hhandlers⟩, -⟩ :=
    logger_after_adjustments first (some .info) reconfigured
  exact ⟨first, l, hl, hlevel, hhandlers⟩

end Registry

end QueryTelemetry.Log
