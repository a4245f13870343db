import EngineExtension.Level

/-!
# The class registry of one load

Classes are registered while a level is being brought up or torn down, and remember that level.
When a level is torn down, its classes are unregistered, newest first.

* `Registry` — the level being worked on, and the classes in registration order;
* `Registry.register` — refuses a class outside of any level and a name that is taken;
* `Registry.unregister` — takes the newest class of a level away until none is left.
-/

namespace EngineExtension

/-- How a class is exposed to the engine. -/
inductive ClassKind where
  /-- instantiable from scripts and the editor -/
  | concrete
  /-- instantiable, with methods that scripts may override -/
  | virtual
  /-- a base for other classes only -/
  | abstract
  /-- instantiable, but at work in a game only, never in the editor -/
  | runtime
  deriving DecidableEq, Repr

/-- The name a kind has in messages. -/
def ClassKind.name : ClassKind → String
  | concrete => "Concrete"
  | virtual => "Virtual"
  | abstract => "Abstract"
  | runtime => "Runtime"

/-- A class that an extension offers. -/
structure ClassDecl where
  name : String
  parent : String
  kind : ClassKind
  deriving DecidableEq, Repr

/-- A registered class. -/
structure ClassEntry extends ClassDecl where
  /-- the level it was registered at -/
  level : Level
  deriving DecidableEq, Repr

/-- Why a class was not registered. -/
inductive RegistrationError where
  /-- no level is being worked on -/
  | noLevel (name : String)
  /-- the name is taken by a class registered at the given level -/
  | taken (name : String) (level : Level)
  deriving DecidableEq, Repr

/-- The wording of a refusal. -/
def RegistrationError.message : RegistrationError → String
  | noLevel name =>
    "class '" ++ name ++ "' registered outside of a module initialization callback"
  | taken name level =>
    "class '" ++ name ++ "' is already registered (at level " ++ level.name ++ ")"

/-- The classes of one load. -/
structure Registry where
  /-- the level worked on last, if there was one -/
  level : Option Level := none
  /-- the classes, in registration order -/
  entries : List ClassEntry := []
  deriving DecidableEq, Repr

namespace Registry

/-- Turns to a level. -/
def enter (r : Registry) (level : Level) : Registry := { r with level := some level }

/-- The class with a given name. -/
def find? (r : Registry) (name : String) : Option ClassEntry :=
  r.entries.find? (·.name = name)

/-- Whether a name is taken. -/
def has (r : Registry) (name : String) : Bool := r.entries.any (·.name = name)

/-- Number of classes. -/
def size (r : Registry) : Nat := r.entries.length

/-- Whether there are no classes. -/
def isEmpty (r : Registry) : Bool := r.entries.isEmpty

/-- The entry that a class would get now, or the reason why it gets none. -/
def place (r : Registry) (c : ClassDecl) : Except RegistrationError ClassEntry :=
  match r.level with
  | none => .error (.noLevel c.name)
  | some level =>
    match r.find? c.name with
    | some e => .error (.taken c.name e.level)
    | none => .ok { c with level }

/-- Registers a class at the current level. A refusal changes nothing. -/
def register (r : Registry) (c : ClassDecl) : Except RegistrationError ClassEntry × Registry :=
  match r.place c with
  | .ok e => (.ok e, { r with entries := r.entries ++ [e] })
  | .error e => (.error e, r)

/-! ## Unregistering a level -/

/-- Takes the newest class of a level out of a list of classes. -/
def removeNewest? (level : Level) : List ClassEntry → Option (ClassEntry × List ClassEntry)
  | [] => none
  | e :: es =>
    match removeNewest? level es with
    | some (newest, rest) => some (newest, e :: rest)
    | none => if e.level = level then some (e, es) else none

theorem length_of_removeNewest? {level : Level} {es rest : List ClassEntry} {e : ClassEntry}
    (h : removeNewest? level es = some (e, rest)) : rest.length + 1 = es.length := by
  induction es generalizing e rest with
  | nil => cases h
  | cons a es ih =>
    rw [removeNewest?] at h
    split at h
    · next newest rest' hr =>
      cases h
      rw [List.length_cons, ih hr, List.length_cons]
    · split at h
      · cases h
        rfl
      · cases h

/-- Takes classes of a level away, newest first, until none is left: those taken in the order in
which they went, and those that remain. -/
def clear (level : Level) (es : List ClassEntry) : List ClassEntry × List ClassEntry :=
  match _h : removeNewest? level es with
  | none => ([], es)
  | some (e, rest) =>
    let (gone, left) := clear level rest
    (e :: gone, left)
termination_by es.length
decreasing_by
  have := length_of_removeNewest? _h
  omega

/-- Unregisters the classes of a level, newest first. -/
def unregister (r : Registry) (level : Level) : List ClassEntry × Registry :=
  let (gone, left) := clear level r.entries
  (gone, { r with entries := left })

end Registry

end EngineExtension
