import EngineExtension.Signal

/-!
# Programs of callbacks

A callback of an extension works on the registry of its load. What it does at one level is a
`Program`: it returns, it panics, or it performs a command and goes on with the answer. A command
can register and unregister classes, look at the registry, log, and leave a note; nothing else of
the process can be reached, so a program's effect on a load depends on that load alone.

* `Command.exec` — one command on a registry, with the signals it sends;
* `Program.run` — a whole program; a panic keeps what was done before it.
-/

namespace EngineExtension

/-- One step of a callback. -/
inductive Command where
  | register (c : ClassDecl)
  | unregister (level : Level)
  | inspect
  | log (record : Log.Record)
  | note (n : Note)
  deriving DecidableEq, Repr

/-- What a command answers. -/
abbrev Command.Answer : Command → Type
  | register _ => Except RegistrationError Unit
  | unregister _ => List String
  | inspect => Registry
  | log _ => Unit
  | note _ => Unit

/-- A command carried out. -/
structure Execution (α : Type) where
  answer : α
  /-- the registry after it -/
  registry : Registry
  /-- what it sends -/
  signals : List Signal

/-- Carries out a command. -/
def Command.exec : (c : Command) → Registry → Execution c.Answer
  | .register c, r =>
    match r.register c with
    | (.ok e, r') => ⟨.ok (), r', [.notice (.registered e)]⟩
    | (.error e, r') => ⟨.error e, r', []⟩
  | .unregister level, r =>
    let (gone, r') := r.unregister level
    ⟨gone.map (·.name), r', gone.map fun e => .notice (.unregistered e)⟩
  | .inspect, r => ⟨r, r, []⟩
  | .log record, r => ⟨(), r, [.log record]⟩
  | .note n, r => ⟨(), r, [.noted n]⟩

/-- What a callback does. -/
inductive Program (α : Type) where
  | done (a : α)
  | panic
  | perform (c : Command) (next : c.Answer → Program α)

namespace Program

variable {α β : Type}

/-- Goes on after a program that returns. -/
protected def bind : Program α → (α → Program β) → Program β
  | done a, f => f a
  | panic, _ => panic
  | perform c next, f => perform c fun answer => (next answer).bind f

instance : Monad Program where
  pure := done
  bind := Program.bind

@[simp]
theorem pure_eq (a : α) : (pure a : Program α) = done a := rfl

@[simp]
theorem bind_eq (p : Program α) (f : α → Program β) : p >>= f = p.bind f := rfl

@[simp]
theorem bind_done (p : Program α) : p.bind done = p := by
  induction p with
  | done a => rfl
  | panic => rfl
  | perform c next ih => rw [Program.bind, funext ih]

theorem bind_assoc {γ : Type} (p : Program α) (f : α → Program β) (g : β → Program γ) :
    (p.bind f).bind g = p.bind fun a => (f a).bind g := by
  induction p with
  | done a => rfl
  | panic => rfl
  | perform c next ih =>
    rw [Program.bind, Program.bind, Program.bind]
    exact congrArg (perform c) (funext ih)

instance : LawfulMonad Program :=
  LawfulMonad.mk' Program bind_done (fun _ _ => rfl) bind_assoc

/-- The program of one command. -/
def command (c : Command) : Program c.Answer := perform c done

/-- Leaves a note. -/
def note (n : Note) : Program Unit := command (.note n)

/-- How a program ended: what it returned, the registry after it, and what it sent. -/
structure Outcome (α : Type) where
  /-- nothing after a panic -/
  result : Option α
  registry : Registry
  signals : List Signal

/-- Runs a program on a registry. -/
def run : Program α → Registry → Outcome α
  | done a, r => ⟨some a, r, []⟩
  | panic, r => ⟨none, r, []⟩
  | perform c next, r =>
    let now := c.exec r
    let rest := (next now.answer).run now.registry
    { rest with signals := now.signals ++ rest.signals }

@[simp]
theorem run_done (a : α) (r : Registry) : (done a).run r = ⟨some a, r, []⟩ := rfl

@[simp]
theorem run_panic (r : Registry) : (panic : Program α).run r = ⟨none, r, []⟩ := rfl

/-- Goes on from an outcome, unless it is that of a panic. -/
def Outcome.andThen (o : Outcome α) (f : α → Program β) : Outcome β :=
  match o.result with
  | some a =>
    let rest := (f a).run o.registry
    { rest with signals := o.signals ++ rest.signals }
  | none => ⟨none, o.registry, o.signals⟩

/-- A program and its continuation run one after the other. -/
theorem run_bind (p : Program α) (f : α → Program β) (r : Registry) :
    (p.bind f).run r = (p.run r).andThen f := by
  induction p generalizing r with
  | done a => rfl
  | panic => rfl
  | perform c next ih =>
    rw [Program.bind, run, ih]
    simp only [run, Outcome.andThen]
    split
    · rw [List.append_assoc]
    · rfl

end Program

/-- A callback of an extension: what it does at each level. -/
abbrev Callback := Level → Program Unit

end EngineExtension
