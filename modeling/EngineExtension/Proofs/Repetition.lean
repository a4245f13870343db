import EngineExtension.Proofs.Truncation

/-!
# Starting a level again

A host may bring a level up twice in a row. An initializer that only registers classes then asks for
the same names again, and it must not get them. It need not come as far as the first time, because a
registration that insists on its name panics when it is refused; and the first time it may itself
have been cut short so.

* `Program.attempts` — the registrations that a program attempts, with their answers;
* `Registry.Spent` — a registry from which tasks get no class: it holds the name of each, up to the
  first that insists. Tasks leave a registry behind that is spent for them
  (`Task.spent_performAll`), and find nothing to do in one that is (`Registry.Spent.run`,
  `Registry.Spent.attempts`);
* `repeated_start_registers_nothing` — what comes of bringing a level up again and again.
-/

namespace EngineExtension

/-! ## Registrations -/

/-- A registration that was attempted: the class, and what was answered. -/
abbrev Registration := ClassDecl × Except RegistrationError Unit

/-- The registration that a command attempts, if it is one. -/
def Command.attempts : (c : Command) → Registry → List Registration
  | register d, r => [(d, ((register d).exec r).answer)]
  | _, _ => []

/-- The registrations that a program attempts, in order, up to its end or its panic. -/
def Program.attempts {α : Type} : Program α → Registry → List Registration
  | done _, _ => []
  | panic, _ => []
  | perform c next, r => c.attempts r ++ (next (c.exec r).answer).attempts (c.exec r).registry

namespace Program

variable {α β : Type}

/-- What a program attempts, and what goes on after it if it returns. -/
theorem attempts_bind (p : Program α) (f : α → Program β) (r : Registry) :
    (p.bind f).attempts r =
      p.attempts r ++ (p.run r).result.elim [] fun a => (f a).attempts (p.run r).registry := by
  induction p generalizing r with
  | done a => rfl
  | panic => rfl
  | perform c next ih =>
    rw [Program.bind, attempts, ih, attempts, List.append_assoc]
    rfl

/-- A callback does not change the level of the registry. -/
theorem run_level (p : Program α) (r : Registry) : (p.run r).registry.level = r.level := by
  refine @run_keeps α (fun _ now => now.level = r.level) (fun c sent now hnow => ?_) p [] r rfl
  rcases c.exec_cases now with ⟨hc, -⟩ | ⟨d, e, -, hc, -⟩ | ⟨l, hc, -⟩ <;> rw [hc]
  · exact hnow
  · exact hnow
  · exact hnow

end Program

/-! ## Tasks that register -/

/-- A task that registers a class: it takes a refusal, or insists. -/
def Task.Registers (c : ClassDecl) (t : Task) : Prop := t = .register c ∨ t = .mustRegister c

namespace Registry

variable {r : Registry} {c : ClassDecl} {level : Level}

theorem has_iff_find? {name : String} : r.has name = true ↔ ∃ e, r.find? name = some e := by
  rw [has, find?, ← Option.isSome_iff_exists, List.find?_isSome]
  simp

/-- A class whose name is taken is refused. -/
theorem register_of_taken {e : ClassEntry} (hlevel : r.level = some level)
    (h : r.find? c.name = some e) : r.register c = (.error (.taken c.name e.level), r) := by
  simp [register, place, hlevel, h]

/-- A class whose name is free is taken in. -/
theorem register_of_free (hlevel : r.level = some level) (h : r.find? c.name = none) :
    r.register c =
      (.ok { c with level }, { r with entries := r.entries ++ [{ c with level }] }) := by
  simp [register, place, hlevel, h]

end Registry

namespace Task.Registers

variable {t : Task} {c : ClassDecl} {r : Registry} {level : Level}

/-- A task that registers a class whose name is taken is refused, and changes nothing. -/
theorem run_of_taken {e : ClassEntry} (ht : t.Registers c) (hlevel : r.level = some level)
    (h : r.find? c.name = some e) : (t.perform.run r).registry = r := by
  have hregister := Registry.register_of_taken hlevel h
  rcases ht with rfl | rfl <;>
    simp [perform, Program.command, Program.bind, Program.run, Command.exec, hregister]

/-- A task that registers a name which is held is refused, and told who holds it. -/
theorem attempts_of_taken {e : ClassEntry} (ht : t.Registers c) (hlevel : r.level = some level)
    (h : r.find? c.name = some e) :
    t.perform.attempts r = [(c, .error (.taken c.name e.level))] := by
  have hregister := Registry.register_of_taken hlevel h
  rcases ht with rfl | rfl <;>
    simp [perform, Program.command, Program.bind, Program.attempts, Command.attempts, Command.exec,
      hregister]

/-- A task that registers a class whose name is free adds it at the end. -/
theorem run_of_free (ht : t.Registers c) (hlevel : r.level = some level)
    (h : r.find? c.name = none) :
    (t.perform.run r).result = some .registered ∧
      (t.perform.run r).registry = { r with entries := r.entries ++ [{ c with level }] } := by
  have hregister := Registry.register_of_free hlevel h
  rcases ht with rfl | rfl <;>
    simp [perform, Program.command, Program.bind, Program.run, Command.exec, hregister]

/-- After a registration, refused or not, the name is taken. -/
theorem has_name (ht : t.Registers c) (hlevel : r.level = some level) :
    (t.perform.run r).registry.has c.name = true := by
  rcases h : r.find? c.name with _ | e
  · simp [(ht.run_of_free hlevel h).2, Registry.has]
  · rw [ht.run_of_taken hlevel h]
    exact Registry.has_iff_find?.mpr ⟨e, h⟩

/-- A task that registers lets no name go. -/
theorem has_of_has (ht : t.Registers c) (hlevel : r.level = some level) {name : String}
    (hname : r.has name = true) : (t.perform.run r).registry.has name = true := by
  rcases h : r.find? c.name with _ | e
  · rw [(ht.run_of_free hlevel h).2]
    simp only [Registry.has, List.any_append] at hname ⊢
    rw [hname, Bool.true_or]
  · rwa [ht.run_of_taken hlevel h]

end Task.Registers

/-! ## Tasks carried out again -/

/-- A registry that has nothing left for tasks to register: it holds the name of each, up to the
first that insists. -/
inductive Registry.Spent (r : Registry) : List Task → Prop where
  | nil : Spent r []
  | checked {c : ClassDecl} {tasks : List Task} (hc : r.has c.name = true) (h : Spent r tasks) :
    Spent r (.register c :: tasks)
  | insisting {c : ClassDecl} {tasks : List Task} (hc : r.has c.name = true) :
    Spent r (.mustRegister c :: tasks)

namespace Task

variable {r : Registry} {level : Level} {tasks : List Task}

/-- The classes that tasks ask for if all are refused: those up to the first that insists. -/
def asked : List Task → List ClassDecl
  | [] => []
  | .register c :: tasks => c :: asked tasks
  | .mustRegister c :: _ => [c]
  | _ :: tasks => asked tasks

/-- A registration that takes a refusal returns. -/
theorem register_returns (c : ClassDecl) (r : Registry) :
    ∃ reply, ((Task.register c).perform.run r).result = some reply := by
  rcases hc : r.place c with e | e <;>
    simp [perform, Program.command, Program.bind, Program.run, Command.exec, Registry.register, hc]

theorem performAll_registry_of_some {t : Task} {reply : Reply}
    (h : (t.perform.run r).result = some reply) :
    ((performAll (t :: tasks)).run r).registry =
      ((performAll tasks).run (t.perform.run r).registry).registry := by
  rw [performAll_cons_run h]

/-- Where the first task panics, nothing is done to the registry. -/
theorem performAll_registry_of_none {t : Task} (h : (t.perform.run r).result = none) :
    ((performAll (t :: tasks)).run r).registry = r := by
  rw [performAll_cons, Program.run_bind, Program.Outcome.andThen_of_none h, perform_of_panic h]

/-- Tasks that register free no name. -/
theorem has_performAll (htasks : ∀ t ∈ tasks, ∃ c, t.Registers c) (hlevel : r.level = some level)
    {name : String} (hname : r.has name = true) :
    ((performAll tasks).run r).registry.has name = true := by
  induction tasks generalizing r with
  | nil => exact hname
  | cons t tasks ih =>
    obtain ⟨⟨c, ht⟩, htasks⟩ := List.forall_mem_cons.mp htasks
    rcases h : (t.perform.run r).result with _ | reply
    · rwa [performAll_registry_of_none h]
    · rw [performAll_registry_of_some h]
      exact ih htasks ((t.perform.run_level r).trans hlevel) (ht.has_of_has hlevel hname)

/-- **Tasks that register leave a registry that is spent for them**, whether they go through or
not. -/
theorem spent_performAll (htasks : ∀ t ∈ tasks, ∃ c, t.Registers c)
    (hlevel : r.level = some level) : ((performAll tasks).run r).registry.Spent tasks := by
  induction tasks generalizing r with
  | nil => exact .nil
  | cons t tasks ih =>
    obtain ⟨⟨c, ht⟩, hrest⟩ := List.forall_mem_cons.mp htasks
    -- the first task's name is taken when it is through, and the tasks after it do not free it
    have hname : ((performAll (t :: tasks)).run r).registry.has c.name = true := by
      have hnow := ht.has_name hlevel
      rcases h : (t.perform.run r).result with _ | reply
      · rw [perform_of_panic h] at hnow
        rwa [performAll_registry_of_none h]
      · rw [performAll_registry_of_some h]
        exact has_performAll hrest ((t.perform.run_level r).trans hlevel) hnow
    rcases ht with rfl | rfl
    · obtain ⟨reply, h⟩ := register_returns c r
      rw [performAll_registry_of_some h] at hname ⊢
      exact .checked hname (ih hrest ((Program.run_level _ r).trans hlevel))
    · exact .insisting hname

theorem performAll_attempts_of_some {t : Task} {reply : Reply}
    (h : (t.perform.run r).result = some reply) :
    (performAll (t :: tasks)).attempts r =
      t.perform.attempts r ++ (performAll tasks).attempts (t.perform.run r).registry := by
  rw [performAll_cons, Program.attempts_bind, h]
  rfl

/-- Where the first task panics, its attempts are all there are. -/
theorem performAll_attempts_of_none {t : Task} (h : (t.perform.run r).result = none) :
    (performAll (t :: tasks)).attempts r = t.perform.attempts r := by
  rw [performAll_cons, Program.attempts_bind, h]
  exact List.append_nil _

/-- A registration that insists on a name that is taken panics. -/
theorem mustRegister_panics {c : ClassDecl} {e : ClassEntry} (hlevel : r.level = some level)
    (h : r.find? c.name = some e) : ((Task.mustRegister c).perform.run r).result = none := by
  simp [perform, Program.command, Program.bind, Program.run, Command.exec,
    Registry.register_of_taken hlevel h]

end Task

/-- A registration that is refused because its name is taken, by the class that a registry holds. -/
def Registry.Refuses (r : Registry) (attempt : Registration) : Prop :=
  ∃ e, r.find? attempt.1.name = some e ∧ attempt.2 = .error (.taken attempt.1.name e.level)

namespace Registry.Spent

variable {r : Registry} {level : Level} {tasks : List Task}

/-- Tasks change nothing in a registry that is spent for them. -/
theorem run (h : r.Spent tasks) (hlevel : r.level = some level) :
    ((Task.performAll tasks).run r).registry = r := by
  induction h with
  | nil => rfl
  | @checked c tasks hc h ih =>
    obtain ⟨e, he⟩ := has_iff_find?.mp hc
    obtain ⟨reply, hreply⟩ := Task.register_returns c r
    rw [Task.performAll_registry_of_some hreply, Task.Registers.run_of_taken (.inl rfl) hlevel he,
      ih]
  | insisting hc =>
    obtain ⟨e, he⟩ := has_iff_find?.mp hc
    exact Task.performAll_registry_of_none (Task.mustRegister_panics hlevel he)

/-- Tasks are refused all that they ask for in a registry that is spent for them. -/
theorem attempts (h : r.Spent tasks) (hlevel : r.level = some level) :
    ((Task.performAll tasks).attempts r).map Prod.fst = Task.asked tasks ∧
      ∀ attempt ∈ (Task.performAll tasks).attempts r, r.Refuses attempt := by
  induction h with
  | nil => exact ⟨rfl, by simp [Task.performAll, Program.attempts]⟩
  | @checked c tasks hc h ih =>
    obtain ⟨e, he⟩ := has_iff_find?.mp hc
    obtain ⟨reply, hreply⟩ := Task.register_returns c r
    have hregisters : (Task.register c).Registers c := .inl rfl
    rw [Task.performAll_attempts_of_some hreply, hregisters.attempts_of_taken hlevel he,
      hregisters.run_of_taken hlevel he]
    obtain ⟨hasked, hrefused⟩ := ih
    refine ⟨?_, List.forall_mem_cons.mpr ⟨⟨e, he, rfl⟩, hrefused⟩⟩
    simpa [Task.asked] using hasked
  | @insisting c tasks hc =>
    obtain ⟨e, he⟩ := has_iff_find?.mp hc
    have hregisters : (Task.mustRegister c).Registers c := .inr rfl
    rw [Task.performAll_attempts_of_none (Task.mustRegister_panics hlevel he),
      hregisters.attempts_of_taken hlevel he]
    exact ⟨rfl, by simpa using ⟨e, he, rfl⟩⟩

end Registry.Spent

/-! ## Levels started again -/

/-- A scripted callback leaves the registry that its tasks leave. -/
theorem Script.callback_registry (script : Script) (role : Role) (level : Level) (r : Registry) :
    ((script.callback role level).run r).registry =
      ((Task.performAll (script level)).run r).registry := by
  rcases h : ((Task.performAll (script level)).run r).result with _ | _
  · rw [callback_run_of_none h]
  · rw [callback_run_of_some h]

/-- The attempts of a scripted callback are those of its tasks. -/
theorem Script.callback_attempts (script : Script) (role : Role) (level : Level) (r : Registry) :
    (script.callback role level).attempts r = (Task.performAll (script level)).attempts r := by
  rw [callback_eq]
  change ((Task.performAll (script level)).bind fun _ => Program.note (.left role)).attempts r = _
  rw [Program.attempts_bind]
  rcases ((Task.performAll (script level)).run r).result with _ | _ <;> exact List.append_nil _

namespace Library

variable {lib : Library} {level : Level}

theorem start_state (lib : Library) (level : Level) :
    (lib.start level).1 =
      { lib with
        lowest := some (lib.lowest.elim level (min · level))
        registry := (lib.starting level).registry } := by
  rw [start]
  rcases lib.lowest with _ | l <;> rfl

/-- The initializer works at the level that is brought up, to its end. -/
theorem starting_level (lib : Library) (level : Level) :
    (lib.starting level).registry.level = some level :=
  Program.run_level _ _

/-- Bringing a level up never ends a load. -/
theorem up_after (lib : Library) (level : Level) :
    lib.after [.up level] = some (lib.start level).1 := by
  rw [after, run_singleton, Call.apply_of_start (Call.heard?_up level)]

/-- A level that was started is not below the lowest one. -/
theorem lowest_again (lib : Library) (level : Level) :
    min (lib.lowest.elim level (min · level)) level = lib.lowest.elim level (min · level) := by
  rcases lib.lowest with _ | l
  · cases level <;> rfl
  · cases l <;> cases level <;> rfl

/-- Bringing a level up again changes nothing if the initializer leaves the registry as it finds
it. -/
theorem start_again
    (h : ((lib.start level).1.starting level).registry = (lib.start level).1.registry) :
    ((lib.start level).1.start level).1 = (lib.start level).1 := by
  rw [start_state (lib.start level).1, h, start_lowest, Option.elim_some, lowest_again,
    ← start_lowest]

/-- A load that a call leaves as it is stays so however often the call is made. -/
theorem after_replicate {c : Call} (h : (c.apply lib).1 = some lib) (n : Nat) :
    lib.after (List.replicate n c) = some lib := by
  induction n with
  | zero => rfl
  | succ n ih =>
    rw [List.replicate_succ', after_concat, ih]
    exact h

end Library

/-- **A level started again gets no class.** Take a load in any state, and a level at which its
initializer only registers classes, taking a refusal or insisting, under names that may occur twice
or be taken by then.

Bringing the level up leaves a state that bringing it up again does not change, however often: the
same classes in the same order, the same current level, the same lowest one. When it is brought up
again, the initializer asks for its classes in order, up to the first that it insists on, and each
of them is refused because a class of that name is there. -/
theorem repeated_start_registers_nothing (lib : Library) (level : Level) (script : Script)
    (hscript : lib.initializer level = script.callback .initializer level)
    (htasks : ∀ t ∈ script level, ∃ c, t = .register c ∨ t = .mustRegister c) :
    ∃ now, (∀ n, lib.after (List.replicate (n + 1) (.up level)) = some now) ∧
      ((now.initializer level).attempts (now.registry.enter level)).map Prod.fst =
        Task.asked (script level) ∧
      ∀ attempt ∈ (now.initializer level).attempts (now.registry.enter level),
        now.registry.Refuses attempt := by
  have hentered : (lib.start level).1.registry.enter level = (lib.start level).1.registry := by
    rw [Registry.enter, ← lib.starting_level level]
    rfl
  have hlevel : (lib.start level).1.registry.level = some level := lib.starting_level level
  have hinitializer : (lib.start level).1.initializer level = script.callback .initializer level :=
    hscript
  -- wherever the first run stopped, it is spent by then
  have hspent : (lib.start level).1.registry.Spent (script level) := by
    rw [Library.start_registry, Library.starting, hscript, Script.callback_registry]
    exact Task.spent_performAll htasks rfl
  have hagain : ((lib.start level).1.start level).1 = (lib.start level).1 := by
    refine Library.start_again ?_
    rw [Library.starting, hentered, hinitializer, Script.callback_registry, hspent.run hlevel]
  refine ⟨(lib.start level).1, fun n => ?_, ?_⟩
  · have hcall : ((Call.up level).apply (lib.start level).1).1 = some (lib.start level).1 := by
      rw [Call.apply_of_start (Call.heard?_up level), hagain]
    rw [List.replicate_succ, ← List.singleton_append, Library.after, Library.run_append,
      Library.up_after]
    exact Library.after_replicate hcall n
  · rw [hentered, hinitializer, Script.callback_attempts]
    exact hspent.attempts hlevel

/-- Register a class, and again; a class whose name may be taken; insist on one; insist on one whose
name may be taken; and go on. -/
def Script.insistent : Script := fun _ =>
  [.register ⟨"Player", "Actor", .concrete⟩, .register ⟨"Player", "Node", .virtual⟩,
    .register ⟨"Actor", "Node", .concrete⟩, .mustRegister ⟨"Enemy", "Actor", .runtime⟩,
    .mustRegister ⟨"Actor", "Node", .concrete⟩, .register ⟨"Ghost", "Node", .concrete⟩]

/-- A script that panics at its fifth task when the scene level is brought up, panics at the fourth
from then on, for the class that it got the first time. -/
theorem repeated_start_registers_nothing_insistent :
    ∃ now, (∀ n, { Library.underway with
        initializer := Script.insistent.callback .initializer }.after
          (List.replicate (n + 1) (.up .scene)) = some now) ∧
      now.registry.entries.map (fun e => (e.name, e.level)) =
        [("Actor", .servers), ("Player", .scene), ("Enemy", .scene)] ∧
      ((now.initializer .scene).attempts (now.registry.enter .scene)).map
          (fun attempt => (attempt.1.name, attempt.2)) =
        [("Player", .error (.taken "Player" .scene)), ("Player", .error (.taken "Player" .scene)),
          ("Actor", .error (.taken "Actor" .servers)), ("Enemy", .error (.taken "Enemy" .scene))] ∧
      ∀ attempt ∈ (now.initializer .scene).attempts (now.registry.enter .scene),
        now.registry.Refuses attempt := by
  obtain ⟨now, hnow, -, hrefused⟩ := repeated_start_registers_nothing
    { Library.underway with initializer := Script.insistent.callback .initializer } .scene
    .insistent rfl (by simp [Script.insistent])
  obtain rfl := Option.some.inj (hnow 0)
  exact ⟨_, hnow, rfl, rfl, hrefused⟩

end EngineExtension
