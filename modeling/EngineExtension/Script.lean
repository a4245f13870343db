import EngineExtension.Bare.Basic

/-!
# Scripted callbacks

A scripted callback says that it was entered, carries out the tasks of its level in order, with a
note after each, and says that it is leaving. A task that panics ends it there.
-/

namespace EngineExtension

/-- Carries out a task. -/
def Task.perform : Task → Program Reply
  | .register c => do
    match ← Program.command (.register c) with
    | .ok _ => return .registered
    | .error e => return .refused e
  | .mustRegister c => do
    match ← Program.command (.register c) with
    | .ok _ => return .registered
    | .error _ => Program.panic
  | .unregister level => return .names (← Program.command (.unregister level))
  | .has name => return .flag ((← Program.command .inspect).has name)
  | .snapshot => return .registry (← Program.command .inspect)
  | .liveLoads => return .liveLoads
  | .log record => do
    Program.command (.log record)
    return .none
  | .panic => Program.panic
  | .registerClasses => return .flag (← Bare.registerClasses).isOk
  | .bareStart level => do
    Bare.start level
    return .none
  | .bareStop level => do
    Bare.stop level
    return .none

/-- Carries out tasks in order, with a note after each. -/
def Task.performAll : List Task → Program Unit
  | [] => pure ()
  | t :: ts => do
    let reply ← t.perform
    Program.note (.did t reply)
    performAll ts

/-- The tasks of a callback at each level. -/
abbrev Script := Level → List Task

/-- The callback that follows a script. -/
def Script.callback (script : Script) (role : Role) : Callback := fun level => do
  Program.note (.entered role level)
  Task.performAll (script level)
  Program.note (.left role)

end EngineExtension
