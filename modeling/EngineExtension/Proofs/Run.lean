import EngineExtension.Proofs.Course
import Mathlib.Data.List.Induction

/-!
# Runs of a load

A host calls a load back any number of times, with any numbers for levels, until the load is over.
This module says what one call and a row of calls do, so that whatever holds along every run can be
shown one call at a time.

* `Call.heard?` — what a load makes of a call: a call it does not hear leaves it alone
  (`apply_of_heard?_eq_none`), any other starts or stops a level (`apply_of_start`,
  `apply_of_stop`);
* `Library.run` — a row of calls, with `after` for the state it leaves and `sent` for what it sends;
* `Library.Reaches` — the states along a run, up to the one that the last call gives up;
* `Library.run_keeps` — what holds of a new load and is kept by every call holds of all of them.
-/

namespace EngineExtension

/-! ## Bringing a level up and tearing it down -/

/-- The notice that a callback panicked, if it did. -/
def Program.Outcome.panicNotice {α : Type} (o : Program.Outcome α) (role : Role) (level : Level) :
    List Signal :=
  match o.result with
  | some _ => []
  | none => [.notice (.panicked role level)]

namespace Library

/-- What a load does when a level is torn down. Without a terminator this is nothing. -/
def termination (lib : Library) : Callback := lib.terminator.getD fun _ => pure ()

/-- How the callback ends when a level is brought up. -/
def starting (lib : Library) (level : Level) : Program.Outcome Unit :=
  (lib.initializer level).run (lib.registry.enter level)

/-- How the callback ends when a level is torn down, before the level's classes go. -/
def stopping (lib : Library) (level : Level) : Program.Outcome Unit :=
  (lib.termination level).run (lib.registry.enter level)

/-- What a callback sends, with the notice of a panic at its end. -/
theorem runCallback_sent (lib : Library) (role : Role) (callback : Callback) (level : Level) :
    (lib.runCallback role callback level).2 =
      ((callback level).run lib.registry).signals ++
        ((callback level).run lib.registry).panicNotice role level := by
  simp only [runCallback, Program.Outcome.panicNotice]
  rcases ((callback level).run lib.registry).result with _ | _ <;> rfl

/-- Calling the terminator runs a callback, also where there is none to call. -/
theorem terminate_eq (lib : Library) (level : Level) :
    lib.terminate level = lib.runCallback .terminator lib.termination level := by
  rw [terminate, termination]
  rcases lib.terminator with _ | callback <;> rfl

/-- Bringing a level up notes it, if it is lower than the lowest so far. -/
@[simp] theorem start_lowest (lib : Library) (level : Level) :
    (lib.start level).1.lowest = some (lib.lowest.elim level (min · level)) := by
  rw [start]
  rcases lib.lowest with _ | l <;> rfl

@[simp] theorem start_registry (lib : Library) (level : Level) :
    (lib.start level).1.registry = (lib.starting level).registry := rfl

/-- It sends what the initializer sends, and word of a panic. -/
theorem start_sent (lib : Library) (level : Level) :
    (lib.start level).2 =
      (lib.starting level).signals ++ (lib.starting level).panicNotice .initializer level :=
  runCallback_sent ..

/-- Tearing a level down does not forget the lowest level. -/
@[simp] theorem stop_lowest (lib : Library) (level : Level) :
    (lib.stop level).1.lowest = lib.lowest := by
  rw [stop, terminate_eq]
  rfl

/-- After the terminator, the classes of the level go. -/
@[simp] theorem stop_registry (lib : Library) (level : Level) :
    (lib.stop level).1.registry = ((lib.stopping level).registry.unregister level).2 := by
  rw [stop, terminate_eq]
  rfl

/-- It sends what the terminator sends, word of a panic, and a notice of each class that goes. -/
theorem stop_sent (lib : Library) (level : Level) :
    (lib.stop level).2 =
      (lib.stopping level).signals ++ (lib.stopping level).panicNotice .terminator level ++
        ((lib.stopping level).registry.unregister level).1.map
          fun e => .notice (.unregistered e) := by
  rw [stop, terminate_eq]
  exact congrArg (· ++ _) (runCallback_sent ..)

/-- A load is over at a level that no level started so far lies below. -/
theorem isOverAt_iff {lib : Library} {level : Level} :
    lib.isOverAt level ↔ ∀ lowest, lib.lowest = some lowest → level ≤ lowest := by
  rw [isOverAt]
  rcases lib.lowest with _ | lowest <;> simp

end Library

/-! ## One call -/

namespace Call

/-- What a load makes of a call. A call without a state, or with a number that names no level, is
not heard. -/
def heard? (c : Call) : Option (Phase × Level) :=
  if c.isNull then none else (Level.ofRaw? c.raw).map fun level => (c.phase, level)

/-- The call that brings a level up. -/
def up (level : Level) : Call := ⟨.start, level.raw, false⟩

/-- The call that tears a level down. -/
def down (level : Level) : Call := ⟨.stop, level.raw, false⟩

@[simp] theorem heard?_up (level : Level) : (up level).heard? = some (.start, level) := by
  simp [heard?, up]

@[simp] theorem heard?_down (level : Level) : (down level).heard? = some (.stop, level) := by
  simp [heard?, down]

/-- Inversion for a call that is heard. -/
theorem heard?_eq_some {c : Call} {phase : Phase} {level : Level}
    (h : c.heard? = some (phase, level)) :
    c.isNull = false ∧ Level.decode c.raw = .ok level ∧ c.phase = phase := by
  rw [heard?] at h
  split at h
  · cases h
  · next hnull =>
    obtain ⟨l, hraw, hl⟩ := Option.map_eq_some_iff.mp h
    obtain ⟨rfl, rfl⟩ := Prod.mk.inj hl
    refine ⟨eq_false_of_ne_true hnull, ?_, rfl⟩
    rw [Level.decode, hraw]

/-- A call that is not heard leaves the load as it is. Only one with a state and an unknown level is
noticed. -/
theorem apply_of_heard?_eq_none {c : Call} (h : c.heard? = none) (lib : Library) :
    c.apply lib = (some lib, if c.isNull then [] else [.notice (.ignored ⟨c.raw⟩)]) := by
  rw [heard?] at h
  rw [apply]
  split at h
  · next hnull => rw [if_pos hnull, if_pos hnull]
  · next hnull =>
    have hraw : Level.ofRaw? c.raw = none := Option.map_eq_none_iff.mp h
    have hdecode : Level.decode c.raw = .error ⟨c.raw⟩ := by rw [Level.decode, hraw]
    rw [if_neg hnull, if_neg hnull, hdecode]

/-- A call that brings a level up. -/
theorem apply_of_start {c : Call} {level : Level} (h : c.heard? = some (.start, level))
    (lib : Library) :
    c.apply lib = (some (lib.start level).1, .notice (.starting level) :: (lib.start level).2) := by
  obtain ⟨hnull, hraw, hphase⟩ := heard?_eq_some h
  simp only [apply, hnull, hraw, hphase, Bool.false_eq_true, if_false]

/-- A call that tears a level down. It is the last one of a load that is over at that level. -/
theorem apply_of_stop {c : Call} {level : Level} (h : c.heard? = some (.stop, level))
    (lib : Library) :
    c.apply lib =
      if (lib.stop level).1.isOverAt level then
        (none, .notice (.stopping level) :: (lib.stop level).2 ++ [.notice (.releasing level)])
      else (some (lib.stop level).1, .notice (.stopping level) :: (lib.stop level).2) := by
  obtain ⟨hnull, hraw, hphase⟩ := heard?_eq_some h
  simp only [apply, hnull, hraw, hphase, Bool.false_eq_true, if_false]

/-- The state that a call leaves, before a load that is over gives it up. -/
def leaves (c : Call) (lib : Library) : Library :=
  match c.heard? with
  | none => lib
  | some (.start, level) => (lib.start level).1
  | some (.stop, level) => (lib.stop level).1

/-- A call that is not heard leaves a load as it is. -/
theorem leaves_of_heard?_eq_none {c : Call} (h : c.heard? = none) (lib : Library) :
    c.leaves lib = lib := by
  rw [leaves, h]

theorem leaves_of_start {c : Call} {level : Level} (h : c.heard? = some (.start, level))
    (lib : Library) : c.leaves lib = (lib.start level).1 := by
  rw [leaves, h]

theorem leaves_of_stop {c : Call} {level : Level} (h : c.heard? = some (.stop, level))
    (lib : Library) : c.leaves lib = (lib.stop level).1 := by
  rw [leaves, h]

/-- A load that a call does not end goes on with what the call leaves. -/
theorem apply_eq_some {c : Call} {lib next : Library} (h : (c.apply lib).1 = some next) :
    next = c.leaves lib := by
  rcases hc : c.heard? with _ | ⟨_ | _, level⟩
  · rw [apply_of_heard?_eq_none hc] at h
    rw [leaves_of_heard?_eq_none hc]
    exact (Option.some.inj h).symm
  · rw [apply_of_start hc] at h
    rw [leaves_of_start hc]
    exact (Option.some.inj h).symm
  · rw [apply_of_stop hc] at h
    rw [leaves_of_stop hc]
    split at h
    · cases h
    · exact (Option.some.inj h).symm

end Call

/-! ## A row of calls -/

namespace Library

/-- What a row of calls does to a load: the state after it, gone when the load is over, and all that
was sent on the way. Nothing is called on a load that is over. -/
def run : Library → List Call → Option Library × List Signal
  | lib, [] => (some lib, [])
  | lib, c :: calls =>
    match c.apply lib with
    | (some next, sent) => ((next.run calls).1, sent ++ (next.run calls).2)
    | (none, sent) => (none, sent)

/-- The state after a row of calls, unless the load is over by then. -/
def after (lib : Library) (calls : List Call) : Option Library := (lib.run calls).1

/-- What a row of calls sends. -/
def sent (lib : Library) (calls : List Call) : List Signal := (lib.run calls).2

/-- The load lives through a row of calls, and the next call ends it. -/
def Releases (lib : Library) (past : List Call) (c : Call) : Prop :=
  (lib.after past).isSome ∧ lib.after (past ++ [c]) = none

@[simp] theorem after_nil (lib : Library) : lib.after [] = some lib := rfl

@[simp] theorem sent_nil (lib : Library) : lib.sent [] = [] := rfl

/-- A row of calls made in two parts. -/
theorem run_append (lib : Library) (xs ys : List Call) :
    lib.run (xs ++ ys) =
      match lib.after xs with
      | some now => (now.after ys, lib.sent xs ++ now.sent ys)
      | none => (none, lib.sent xs) := by
  simp only [after, sent]
  induction xs generalizing lib with
  | nil => rfl
  | cons c xs ih =>
    rw [List.cons_append, run, run]
    rcases c.apply lib with ⟨_ | next, sent⟩
    · rfl
    · simp only [ih]
      rcases next.run xs with ⟨_ | now, more⟩
      · rfl
      · simp only [List.append_assoc]

/-- One call is a row of its own. -/
theorem run_singleton (lib : Library) (c : Call) : lib.run [c] = c.apply lib := by
  simp only [run]
  rcases c.apply lib with ⟨_ | next, sent⟩
  · rfl
  · simp only [List.append_nil]

/-- One more call. -/
theorem after_concat (lib : Library) (past : List Call) (c : Call) :
    lib.after (past ++ [c]) = (lib.after past).bind fun now => (c.apply now).1 := by
  rw [after, run_append]
  rcases lib.after past with _ | now
  · rfl
  · change (now.run [c]).1 = (c.apply now).1
    rw [run_singleton]

/-- Inversion for one more call on a load that stays alive. -/
theorem after_concat_eq_some {lib now : Library} {past : List Call} {c : Call}
    (h : lib.after (past ++ [c]) = some now) :
    ∃ before, lib.after past = some before ∧ now = c.leaves before := by
  rw [after_concat] at h
  obtain ⟨before, hbefore, hnow⟩ := Option.bind_eq_some_iff.mp h
  exact ⟨before, hbefore, Call.apply_eq_some hnow⟩

/-- What one more call sends. -/
theorem sent_concat {lib now : Library} {past : List Call} (h : lib.after past = some now)
    (c : Call) : lib.sent (past ++ [c]) = lib.sent past ++ (c.apply now).2 := by
  rw [sent, run_append, h]
  change lib.sent past ++ (now.run [c]).2 = lib.sent past ++ (c.apply now).2
  rw [run_singleton]

/-- Nothing is called, so nothing is sent, once a load is over. -/
theorem sent_concat_of_over {lib : Library} {past : List Call} (h : lib.after past = none)
    (c : Call) : lib.sent (past ++ [c]) = lib.sent past := by
  rw [sent, run_append, h]

/-- The states of a load along a run: the first one, and what each call leaves, the call that ends
the load included. -/
inductive Reaches (lib : Library) : List Call → Library → Prop where
  /-- before any call -/
  | new : Reaches lib [] lib
  /-- after a call on a load that is alive -/
  | call {past : List Call} {now : Library} (h : lib.after past = some now) (c : Call) :
    Reaches lib (past ++ [c]) (c.leaves now)

/-- The state that a load has after its calls is one that it reaches. -/
theorem reaches_of_after {lib now : Library} {calls : List Call} (h : lib.after calls = some now) :
    lib.Reaches calls now := by
  rcases List.eq_nil_or_concat calls with rfl | ⟨past, c, rfl⟩
  · obtain rfl := Option.some.inj h
    exact .new
  · rw [List.concat_eq_append] at h ⊢
    obtain ⟨before, hbefore, rfl⟩ := after_concat_eq_some h
    exact .call hbefore c

/-- **Run invariants.** What holds of a load and is kept by every call holds of all states along a
run. The invariant may speak of the calls so far and of all they sent. -/
theorem run_keeps {P : List Call → Library → List Signal → Prop} {lib : Library}
    (hnew : P [] lib [])
    (hcall : ∀ past now sent c, P past now sent →
      P (past ++ [c]) (c.leaves now) (sent ++ (c.apply now).2))
    {calls : List Call} {now : Library} (h : lib.Reaches calls now) :
    P calls now (lib.sent calls) := by
  have halive : ∀ {calls now}, lib.after calls = some now → P calls now (lib.sent calls) := by
    intro calls
    -- the last call is split off, so that the invariant sees the calls before it as a whole
    induction calls using List.reverseRecOn with
    | nil =>
      intro now h
      obtain rfl := Option.some.inj h
      exact hnew
    | append_singleton past c ih =>
      intro now h
      obtain ⟨before, hbefore, rfl⟩ := after_concat_eq_some h
      rw [sent_concat hbefore]
      exact hcall past before _ c (ih hbefore)
  cases h with
  | new => exact hnew
  | call hpast c =>
    rw [sent_concat hpast]
    exact hcall _ _ _ c (halive hpast)

/-- All that a row of calls sends has been sent when some state along the run is reached: the last
one of a load that is over, and else the present one. -/
theorem exists_reaches (lib : Library) (calls : List Call) :
    ∃ past rest now, calls = past ++ rest ∧ lib.Reaches past now ∧
      lib.sent calls = lib.sent past := by
  induction calls using List.reverseRecOn with
  | nil => exact ⟨[], [], lib, rfl, .new, rfl⟩
  | append_singleton past c ih =>
    rcases hpast : lib.after past with _ | now
    · obtain ⟨p, q, now, hp, hnow, hsent⟩ := ih
      refine ⟨p, q ++ [c], now, ?_, hnow, ?_⟩
      · rw [hp, List.append_assoc]
      · rw [sent_concat_of_over hpast, hsent]
    · exact ⟨past ++ [c], [], c.leaves now, by simp, .call hpast c, rfl⟩

end Library

/-! ## Loads to run -/

namespace Request

/-- A request with given callbacks that its host grants. -/
def plain (initializer : Callback) (terminator : Option Callback) : Request where
  host := some { printsErrors := true, version := some { major := 4, minor := 1 } }
  token := 0
  record := some {}
  initializer := some initializer
  terminator

/-- A request whose callbacks register a class at every level, and then panic. -/
def panicking : Request :=
  plain (fun _ => Program.perform (.register ⟨"Actor", "Node", .abstract⟩) fun _ => .panic)
    (some fun _ => Program.perform (.register ⟨"Ghost", "Node", .runtime⟩) fun _ => .panic)

end Request

end EngineExtension
