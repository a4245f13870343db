import EngineExtension.LoadError
import EngineExtension.Script.Task

/-!
# Notices

The records that the library itself logs. Each notice names what happened; severity, target,
wording and the place that logs it follow from it.
-/

namespace EngineExtension

/-- Something the library logs about. -/
inductive Notice where
  /-- a host lacks a function -/
  | missingFunction (function : HostFunction)
  /-- a load failed -/
  | loadFailed (e : LoadError)
  /-- a load is going ahead -/
  | loading (name : String) (version : Version) (minimum : Level)
  /-- a lifecycle call had an unknown level -/
  | ignored (e : UnknownLevel)
  /-- a level is being brought up -/
  | starting (level : Level)
  /-- a level is being torn down -/
  | stopping (level : Level)
  /-- a load is released after a level was torn down -/
  | releasing (level : Level)
  /-- a callback panicked -/
  | panicked (role : Role) (level : Level)
  /-- a class was registered -/
  | registered (e : ClassEntry)
  /-- a class was unregistered -/
  | unregistered (e : ClassEntry)
  deriving DecidableEq, Repr

/-- A place in the source of the library: a file and a line in it. The file is named by its path
from the root of the workspace, which is where a build names files from. -/
structure Place where
  file : String
  line : Nat
  deriving DecidableEq, Repr

namespace Notice

/-- How grave a notice is. -/
def severity : Notice → Log.Severity
  | loading .. => .info
  | ignored _ => .warn
  | panicked .. => .error
  | _ => .debug

/-- The part of the library that a notice is filed under. -/
def target : Notice → String
  | missingFunction _ => "gdscaffold_core::interface"
  | registered _ | unregistered _ => "gdscaffold_core::class_db"
  | _ => "gdscaffold_core::binding"

/-- The wording of a notice. -/
def message : Notice → String
  | missingFunction f => "host does not provide \"" ++ f.name ++ "\""
  | loadFailed e => e.report
  | loading name version minimum =>
    name ++ " loading into " ++ version.text ++ " (minimum level " ++ minimum.name ++ ")"
  | ignored e => "ignoring lifecycle call: " ++ e.message
  | starting level => "initialize level " ++ level.name
  | stopping level => "deinitialize level " ++ level.name
  | releasing level => "releasing library state after level " ++ level.name
  | panicked role level => "module " ++ role.name ++ " panicked at level " ++ level.name
  | registered e =>
    "register " ++ e.kind.name ++ " class " ++ e.name ++ " : " ++ e.parent ++ " at level " ++
      e.level.name
  | unregistered e => "unregister class " ++ e.name ++ " at level " ++ e.level.name

/-- The place that logs a notice. -/
def place : Notice → Place
  | missingFunction _ => ⟨"gdscaffold-core/src/interface.rs", 171⟩
  | loadFailed _ => ⟨"gdscaffold-core/src/binding.rs", 103⟩
  | loading .. => ⟨"gdscaffold-core/src/binding.rs", 122⟩
  | panicked .. => ⟨"gdscaffold-core/src/binding.rs", 218⟩
  | ignored _ => ⟨"gdscaffold-core/src/binding.rs", 226⟩
  | starting _ => ⟨"gdscaffold-core/src/binding.rs", 243⟩
  | stopping _ => ⟨"gdscaffold-core/src/binding.rs", 258⟩
  | releasing _ => ⟨"gdscaffold-core/src/binding.rs", 261⟩
  | registered _ => ⟨"gdscaffold-core/src/class_db.rs", 78⟩
  | unregistered _ => ⟨"gdscaffold-core/src/class_db.rs", 95⟩

/-- The record of a notice. The module it comes from is the one it is filed under. -/
def record (n : Notice) : Log.Record where
  severity := n.severity
  target := n.target
  message := n.message
  modulePath := some n.target
  file := some n.place.file
  line := some n.place.line

end Notice

end EngineExtension
