import EngineExtension.Proofs.Registry
import EngineExtension.Proofs.Run
import EngineExtension.Script

/-!
# A panic is a cut

A callback that panics is unwound by force, and one could fear for what it was working on. But a
callback reaches its load through commands only, and a command that was performed stays performed.
So a panic is worth no more than an early return: it ends the callback at that place, and a record
says so.

* `Program.take` — a program that returns after some of its commands. A program that panics does
  what it does when cut there (`Program.run_take`);
* `Task.PanicsAt` — the place in a list of tasks where a panic happens. Every scripted callback that
  panics has one (`Script.exists_panicsAt`), and the task there has done nothing
  (`Task.perform_of_panic`);
* `Library.PanicIsCut` — two loads that differ by a panic, at one call: same state, same end, and
  one record more.
-/

namespace EngineExtension

/-! ## Programs cut short -/

namespace Program

variable {α : Type}

/-- The program that performs the first commands only, and then returns. -/
def take : Program α → Nat → Program Unit
  | done _, _ => done ()
  | panic, _ => done ()
  | perform _ _, 0 => done ()
  | perform c next, n + 1 => perform c fun answer => (next answer).take n

/-- How many commands a program performs until it ends, when it starts from a registry. -/
def performed : Program α → Registry → Nat
  | done _, _ => 0
  | panic, _ => 0
  | perform c next, r => (next (c.exec r).answer).performed (c.exec r).registry + 1

/-- A program cut at its end has done all that it does, and returns. -/
theorem run_take (p : Program α) (r : Registry) :
    (p.take (p.performed r)).run r = ⟨some (), (p.run r).registry, (p.run r).signals⟩ := by
  induction p generalizing r with
  | done a => rfl
  | panic => rfl
  | perform c next ih =>
    rw [performed, take, run, ih]
    rfl

/-- Goes on after an outcome that is no panic. -/
theorem Outcome.andThen_of_some {β : Type} {o : Outcome α} {a : α} (h : o.result = some a)
    (f : α → Program β) :
    o.andThen f =
      { (f a).run o.registry with signals := o.signals ++ ((f a).run o.registry).signals } := by
  rw [andThen, h]

/-- A panic is the end. -/
theorem Outcome.andThen_of_none {β : Type} {o : Outcome α} (h : o.result = none)
    (f : α → Program β) : o.andThen f = ⟨none, o.registry, o.signals⟩ := by
  rw [andThen, h]

theorem note_bind_run (n : Note) (p : Program α) (r : Registry) :
    ((note n).bind fun _ => p).run r = { p.run r with signals := .noted n :: (p.run r).signals } :=
  rfl

end Program

/-! ## Tasks -/

namespace Task

/-- A task that panics has done nothing: it is a panic, or a registration that is refused. -/
theorem perform_of_panic {t : Task} {r : Registry} (h : (t.perform.run r).result = none) :
    t.perform.run r = ⟨none, r, []⟩ := by
  cases t with
  | mustRegister c =>
    rcases hc : r.place c with e | e
    · simp [perform, Program.command, Program.bind, Program.run, Command.exec, Registry.register,
        hc]
    · simp [perform, Program.command, Program.bind, Program.run, Command.exec, Registry.register,
        hc] at h
  | panic => rfl
  | register c =>
    rcases hc : r.place c with e | e <;>
      simp [perform, Program.command, Program.bind, Program.run, Command.exec, Registry.register,
        hc] at h
  | bareStart level =>
    rw [perform, Bare.start] at h
    split at h <;> cases h
  | _ => cases h

/-- Carried out on a registry, the first `k` tasks of a list go through, and the one after them
panics. -/
def PanicsAt (r : Registry) (tasks : List Task) (k : Nat) : Prop :=
  ∃ t, tasks[k]? = some t ∧ ((performAll (tasks.take k)).run r).result = some () ∧
    (t.perform.run ((performAll (tasks.take k)).run r).registry).result = none

theorem performAll_cons (t : Task) (tasks : List Task) :
    performAll (t :: tasks) =
      t.perform.bind fun reply => (Program.note (.did t reply)).bind fun _ => performAll tasks :=
  rfl

/-- Two rows of tasks may be performed one after the other. -/
theorem performAll_append (first rest : List Task) :
    performAll (first ++ rest) = (performAll first).bind fun _ => performAll rest := by
  induction first with
  | nil => rfl
  | cons t first ih =>
    rw [List.cons_append, performAll_cons, performAll_cons, Program.bind_assoc]
    simp only [Program.bind_assoc, ih]

/-- After a task that returns, the others go on from where it left. -/
theorem performAll_cons_run {t : Task} {tasks : List Task} {r : Registry} {reply : Reply}
    (h : (t.perform.run r).result = some reply) :
    (performAll (t :: tasks)).run r =
      { (performAll tasks).run (t.perform.run r).registry with
        signals := (t.perform.run r).signals ++ .noted (.did t reply) ::
          ((performAll tasks).run (t.perform.run r).registry).signals } := by
  rw [performAll_cons, Program.run_bind, Program.Outcome.andThen_of_some h, Program.note_bind_run]

/-- Tasks that panic do what those before the panic do. -/
theorem performAll_of_panicsAt {r : Registry} {tasks : List Task} {k : Nat}
    (h : PanicsAt r tasks k) :
    (performAll tasks).run r =
      ⟨none, ((performAll (tasks.take k)).run r).registry,
        ((performAll (tasks.take k)).run r).signals⟩ := by
  obtain ⟨t, ht, hreturn, hpanic⟩ := h
  obtain ⟨hk, rfl⟩ := List.getElem?_eq_some_iff.mp ht
  have hsplit : performAll tasks =
      (performAll (tasks.take k)).bind fun _ => performAll (tasks[k] :: tasks.drop (k + 1)) := by
    rw [← performAll_append, ← List.drop_eq_getElem_cons hk, List.take_append_drop]
  rw [hsplit, Program.run_bind, Program.Outcome.andThen_of_some hreturn, performAll_cons,
    Program.run_bind, Program.Outcome.andThen_of_none hpanic, perform_of_panic hpanic]
  simp

/-- Tasks that do not go through panic at some place. -/
theorem exists_panicsAt {tasks : List Task} {r : Registry}
    (h : ((performAll tasks).run r).result = none) : ∃ k, PanicsAt r tasks k := by
  induction tasks generalizing r with
  | nil => cases h
  | cons t tasks ih =>
    rcases ht : (t.perform.run r).result with _ | reply
    · exact ⟨0, t, rfl, rfl, ht⟩
    · rw [performAll_cons_run ht] at h
      obtain ⟨k, u, hu, hreturn, hpanic⟩ := ih h
      refine ⟨k + 1, u, hu, ?_, ?_⟩
      · rw [List.take_succ_cons, performAll_cons_run ht]
        exact hreturn
      · rw [List.take_succ_cons, performAll_cons_run ht]
        exact hpanic

end Task

namespace Script

/-- The script with the first tasks of each level only. -/
def take (script : Script) (k : Nat) : Script := fun level => (script level).take k

theorem callback_eq (script : Script) (role : Role) (level : Level) :
    script.callback role level =
      (Program.note (.entered role level)).bind fun _ =>
        (Task.performAll (script level)).bind fun _ => Program.note (.left role) := rfl

/-- A scripted callback whose tasks go through says that it leaves. -/
theorem callback_run_of_some {script : Script} {level : Level} {r : Registry}
    (h : ((Task.performAll (script level)).run r).result = some ()) (role : Role) :
    (script.callback role level).run r =
      ⟨some (), ((Task.performAll (script level)).run r).registry,
        .noted (.entered role level) ::
          (((Task.performAll (script level)).run r).signals ++ [.noted (.left role)])⟩ := by
  rw [callback_eq, Program.note_bind_run, Program.run_bind, Program.Outcome.andThen_of_some h]
  rfl

/-- A scripted callback with a task that panics ends there. -/
theorem callback_run_of_none {script : Script} {level : Level} {r : Registry}
    (h : ((Task.performAll (script level)).run r).result = none) (role : Role) :
    (script.callback role level).run r =
      ⟨none, ((Task.performAll (script level)).run r).registry,
        .noted (.entered role level) :: ((Task.performAll (script level)).run r).signals⟩ := by
  rw [callback_eq, Program.note_bind_run, Program.run_bind, Program.Outcome.andThen_of_none h]

/-- A scripted callback panics in one of its tasks. -/
theorem exists_panicsAt {script : Script} {role : Role} {level : Level} {r : Registry}
    (h : ((script.callback role level).run r).result = none) :
    ∃ k, Task.PanicsAt r (script level) k := by
  rcases htasks : ((Task.performAll (script level)).run r).result with _ | _
  · exact Task.exists_panicsAt htasks
  · rw [callback_run_of_some htasks] at h
    cases h

end Script

/-! ## Callbacks cut short -/

/-- The records that signals send to the log. -/
def recordsOf (signals : List Signal) : List Log.Record := signals.filterMap Signal.record?

@[simp] theorem recordsOf_nil : recordsOf [] = [] := rfl

theorem recordsOf_append (xs ys : List Signal) :
    recordsOf (xs ++ ys) = recordsOf xs ++ recordsOf ys := List.filterMap_append

theorem recordsOf_notice (n : Notice) (rest : List Signal) :
    recordsOf (.notice n :: rest) = n.record :: recordsOf rest := rfl

/-- A note of a callback is no record. -/
theorem recordsOf_noted (n : Note) (rest : List Signal) :
    recordsOf (.noted n :: rest) = recordsOf rest := rfl

/-- From a registry, one program panics and the other returns; up to there they did the same. -/
structure Program.CutsShort (whole short : Program Unit) (r : Registry) : Prop where
  panics : (whole.run r).result = none
  returns : (short.run r).result = some ()
  registry : (short.run r).registry = (whole.run r).registry
  records : recordsOf (short.run r).signals = recordsOf (whole.run r).signals

/-- A program that panics, and the commands before the panic. -/
theorem Program.cutsShort_take {p : Program Unit} {r : Registry} (h : (p.run r).result = none) :
    p.CutsShort (p.take (p.performed r)) r := by
  refine ⟨h, ?_, ?_, ?_⟩ <;> rw [run_take]

/-- A scripted callback that panics, and the tasks before the panic. -/
theorem Script.cutsShort_take {script : Script} {level : Level} {r : Registry} {k : Nat}
    (h : Task.PanicsAt r (script level) k) (role : Role) :
    (script.callback role level).CutsShort ((script.take k).callback role level) r := by
  have hpanic : ((Task.performAll (script level)).run r).result = none := by
    rw [Task.performAll_of_panicsAt h]
  have hreturn : ((Task.performAll (script.take k level)).run r).result = some () := by
    obtain ⟨t, -, hreturn, -⟩ := h
    exact hreturn
  refine ⟨?_, ?_, ?_, ?_⟩
  · rw [callback_run_of_none hpanic]
  · rw [callback_run_of_some hreturn]
  · rw [callback_run_of_none hpanic, callback_run_of_some hreturn, Task.performAll_of_panicsAt h]
    rfl
  · -- the short callback also says that it leaves, but in no log
    rw [callback_run_of_none hpanic, callback_run_of_some hreturn, Task.performAll_of_panicsAt h,
      recordsOf_noted, recordsOf_noted, recordsOf_append]
    exact List.append_nil _

/-! ## Loads cut short -/

/-- Gives a load another callback. -/
def Library.withCallback (lib : Library) : Role → Callback → Library
  | .initializer, callback => { lib with initializer := callback }
  | .terminator, callback => { lib with terminator := some callback }

/-- The call that runs a callback at a level. -/
def Role.call : Role → Level → Call
  | .initializer => .up
  | .terminator => .down

/-- A load with the callback `whole` and one with `short`, at the call that runs it: they go on with
the same state, or end both, and the first sends one record more, an error that names the callback
and the level. -/
structure Library.PanicIsCut (lib : Library) (role : Role) (level : Level)
    (whole short : Callback) : Prop where
  state : ((role.call level).apply (lib.withCallback role whole)).1 =
    ((role.call level).apply (lib.withCallback role short)).1.map (·.withCallback role whole)
  records : ∃ before after extra,
    recordsOf ((role.call level).apply (lib.withCallback role short)).2 = before ++ after ∧
    recordsOf ((role.call level).apply (lib.withCallback role whole)).2 =
      before ++ extra :: after ∧
    extra.severity = .error ∧
    extra.message = "module " ++ role.name ++ " panicked at level " ++ level.name

namespace Library

variable {lib : Library} {level : Level} {whole short : Callback}

theorem starting_withCallback (lib : Library) (level : Level) (callback : Callback) :
    (lib.withCallback .initializer callback).starting level =
      (callback level).run (lib.registry.enter level) := rfl

theorem stopping_withCallback (lib : Library) (level : Level) (callback : Callback) :
    (lib.withCallback .terminator callback).stopping level =
      (callback level).run (lib.registry.enter level) := rfl

/-- Bringing a level up with a callback that panics, and with one cut short. -/
theorem start_of_cutsShort (h : (whole level).CutsShort (short level) (lib.registry.enter level)) :
    ((lib.withCallback .initializer whole).start level).1 =
      ((lib.withCallback .initializer short).start level).1.withCallback .initializer whole := by
  have hregistry := h.registry
  simp only [start, runCallback, enter, withCallback] at hregistry ⊢
  rw [hregistry]

/-- Tearing a level down with a callback that panics, and with one cut short. -/
theorem stop_of_cutsShort (h : (whole level).CutsShort (short level) (lib.registry.enter level)) :
    ((lib.withCallback .terminator whole).stop level).1 =
      ((lib.withCallback .terminator short).stop level).1.withCallback .terminator whole := by
  have hregistry := h.registry
  simp only [stop, terminate, clear, runCallback, enter, withCallback] at hregistry ⊢
  rw [hregistry]

/-- The records of a teardown after the callback, which left the registry `r`: of the classes that
go, and of the end of the load. -/
def aftermath (lib : Library) (level : Level) (r : Registry) : List Log.Record :=
  recordsOf ((r.unregister level).1.map fun e => .notice (.unregistered e)) ++
    if lib.isOverAt level then [(Notice.releasing level).record] else []

/-- Whether a call ends the load has nothing to do with the callback. -/
theorem isOverAt_withCallback (lib : Library) (role : Role) (callback : Callback) (level : Level) :
    (lib.withCallback role callback).isOverAt level = lib.isOverAt level := by
  cases role <;> rfl

/-- What follows a callback has nothing to do with the callback but the registry it leaves. -/
theorem aftermath_withCallback (lib : Library) (role : Role) (callback : Callback) (level : Level)
    (r : Registry) :
    (lib.withCallback role callback).aftermath level r = lib.aftermath level r := by
  rw [aftermath, aftermath, isOverAt_withCallback]

/-- The records of a call that tears a level down. -/
theorem down_records (lib : Library) (level : Level) :
    recordsOf ((Call.down level).apply lib).2 =
      (Notice.stopping level).record :: recordsOf (lib.stopping level).signals ++
        recordsOf ((lib.stopping level).panicNotice .terminator level) ++
          lib.aftermath level (lib.stopping level).registry := by
  have hover : (lib.stop level).1.isOverAt level = lib.isOverAt level := by
    rw [isOverAt, stop_lowest]
    rfl
  rw [Call.apply_of_stop (Call.heard?_down level), hover, stop_sent]
  rw [aftermath]
  split <;> simp [recordsOf_append, recordsOf_notice, List.append_assoc]

/-- **A panic is a cut**, for any two callbacks of which one is the other cut short. -/
theorem panicIsCut (h : (whole level).CutsShort (short level) (lib.registry.enter level))
    (role : Role) : lib.PanicIsCut role level whole short := by
  have hpanics : ∀ role, recordsOf (((whole level).run (lib.registry.enter level)).panicNotice
      role level) = [(Notice.panicked role level).record] := by
    intro role
    rw [Program.Outcome.panicNotice, h.panics]
    rfl
  have hreturns : ∀ role, recordsOf (((short level).run (lib.registry.enter level)).panicNotice
      role level) = [] := by
    intro role
    rw [Program.Outcome.panicNotice, h.returns]
    rfl
  cases role with
  | initializer =>
    refine ⟨?_, (Notice.starting level).record ::
      recordsOf ((whole level).run (lib.registry.enter level)).signals, [],
      (Notice.panicked .initializer level).record, ?_, ?_, rfl, rfl⟩
    · rw [Role.call, Call.apply_of_start (Call.heard?_up level),
        Call.apply_of_start (Call.heard?_up level), start_of_cutsShort h]
      rfl
    · rw [Role.call, Call.apply_of_start (Call.heard?_up level), recordsOf_notice, start_sent,
        starting_withCallback, recordsOf_append, hreturns, h.records]
      rfl
    · rw [Role.call, Call.apply_of_start (Call.heard?_up level), recordsOf_notice, start_sent,
        starting_withCallback, recordsOf_append, hpanics]
      rfl
  | terminator =>
    -- the level's classes go, and the load may end, after the record of the panic
    refine ⟨?_, (Notice.stopping level).record ::
      recordsOf ((whole level).run (lib.registry.enter level)).signals,
      lib.aftermath level ((whole level).run (lib.registry.enter level)).registry,
      (Notice.panicked .terminator level).record, ?_, ?_, rfl, rfl⟩
    · rw [Role.call, Call.apply_of_stop (Call.heard?_down level),
        Call.apply_of_stop (Call.heard?_down level), stop_of_cutsShort h, isOverAt_withCallback]
      split <;> rfl
    · rw [Role.call, down_records, stopping_withCallback, aftermath_withCallback, hreturns,
        h.records, h.registry, List.append_nil]
    · rw [Role.call, down_records, stopping_withCallback, aftermath_withCallback, hpanics,
        List.append_assoc]
      rfl

end Library

/-- **A panic is a cut.** Take a load in any state, a level, and either of its callbacks.

A scripted callback that panics does so at one of its tasks, some `k` tasks having gone through.
Cut to these, the callback returns, and the call that runs it leaves the same state behind, or ends
the load just the same; all that the panic adds is one record, an error that names the callback and
the level. So it is for every other callback, which may decide what to do by what it is answered:
cut to the commands performed before the panic it makes the same call of it.

And when a level has been torn down, with a panic or without, no class of the level remains, and of
all others exactly those that the terminator left, in their order. This holds of the state that a
load goes on with, and also of the one that it gives up when the call ends it. -/
theorem panic_is_truncation (lib : Library) (level : Level) :
    (∀ (role : Role) (script : Script),
      (((script.callback role level).run (lib.registry.enter level)).result = none →
        ∃ k, Task.PanicsAt (lib.registry.enter level) (script level) k) ∧
      ∀ k, Task.PanicsAt (lib.registry.enter level) (script level) k →
        lib.PanicIsCut role level (script.callback role) ((script.take k).callback role)) ∧
    (∀ (role : Role) (callback : Callback),
      ((callback level).run (lib.registry.enter level)).result = none →
        lib.PanicIsCut role level callback fun l =>
          (callback l).take ((callback level).performed (lib.registry.enter level))) ∧
    ((Call.down level).leaves lib).registry.entries =
      (lib.stopping level).registry.entries.filter (·.level ≠ level) ∧
    ∀ next, ((Call.down level).apply lib).1 = some next →
      next.registry.entries = (lib.stopping level).registry.entries.filter (·.level ≠ level) := by
  have hleft : ((Call.down level).leaves lib).registry.entries =
      (lib.stopping level).registry.entries.filter (·.level ≠ level) := by
    rw [Call.leaves_of_stop (Call.heard?_down level), Library.stop_registry,
      Registry.unregister_entries]
  refine ⟨fun role script => ⟨Script.exists_panicsAt, fun k hk => ?_⟩,
    fun role callback h => ?_, hleft, fun next hnext => ?_⟩
  · exact Library.panicIsCut (Script.cutsShort_take hk role) role
  · exact Library.panicIsCut (Program.cutsShort_take h) role
  · rw [Call.apply_eq_some hnext, hleft]

/-- A load that has started the servers level and registered a class there. -/
def Library.underway : Library where
  printer := ⟨0, true⟩
  version := ⟨4, 1, 0, "4.1"⟩
  token := 0
  initializer := fun _ => pure ()
  terminator := none
  minimum := .core
  lowest := some .servers
  registry := { level := some .servers, entries := [⟨⟨"Actor", "Node", .abstract⟩, .servers⟩] }

/-- At every level: register a class, insist on a name that is taken, and go on to a third class. -/
def Script.stumbling : Script := fun _ =>
  [.register ⟨"Player", "Actor", .concrete⟩, .mustRegister ⟨"Actor", "Node", .concrete⟩,
    .register ⟨"Enemy", "Actor", .concrete⟩]

/-- A script that stumbles over its second task, as an initializer at the scene level and as a
terminator at the servers level, where the load ends; and a callback that panics at once. -/
theorem panic_is_truncation_stumbling :
    Task.PanicsAt (Library.underway.registry.enter .scene) (Script.stumbling .scene) 1 ∧
    Library.underway.PanicIsCut .initializer .scene (Script.stumbling.callback .initializer)
      ((Script.stumbling.take 1).callback .initializer) ∧
    Task.PanicsAt (Library.underway.registry.enter .servers) (Script.stumbling .servers) 1 ∧
    Library.underway.PanicIsCut .terminator .servers (Script.stumbling.callback .terminator)
      ((Script.stumbling.take 1).callback .terminator) ∧
    ((Program.panic : Program Unit).run (Library.underway.registry.enter .scene)).result = none ∧
    Library.underway.PanicIsCut .terminator .scene (fun _ => .panic) (fun _ => .done ()) := by
  have hscene : Task.PanicsAt (Library.underway.registry.enter .scene)
      (Script.stumbling .scene) 1 := ⟨_, rfl, rfl, rfl⟩
  have hservers : Task.PanicsAt (Library.underway.registry.enter .servers)
      (Script.stumbling .servers) 1 := ⟨_, rfl, rfl, rfl⟩
  exact ⟨hscene, ((panic_is_truncation .underway .scene).1 .initializer .stumbling).2 1 hscene,
    hservers, ((panic_is_truncation .underway .servers).1 .terminator .stumbling).2 1 hservers,
    rfl, (panic_is_truncation .underway .scene).2.1 .terminator (fun _ => .panic) rfl⟩

end EngineExtension
