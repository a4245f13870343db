/-!
# Start-up levels

An engine brings an extension up in four levels, lowest first, and tears it down in the opposite
order. On the wire a level is a number; the engine may send any number, and only four of them
name a level.

* `Level` — the four levels with their order (`rank`);
* `Level.raw`, `Level.ofRaw?` — a level and its number, inverse to each other
  (`ofRaw?_eq_some_iff`);
* `UnknownLevel` — the complaint about a number that names no level.
-/

namespace EngineExtension

/-- Stage of an engine's start-up. -/
inductive Level where
  | core
  | servers
  | scene
  | editor
  deriving DecidableEq, Repr

namespace Level

/-- All levels, in the order in which an engine brings them up. -/
def all : List Level := [core, servers, scene, editor]

/-- Position in the start-up order. -/
def rank : Level → Nat
  | core => 0
  | servers => 1
  | scene => 2
  | editor => 3

instance : LE Level := ⟨fun a b => a.rank ≤ b.rank⟩

instance : LT Level := ⟨fun a b => a.rank < b.rank⟩

instance (a b : Level) : Decidable (a ≤ b) := inferInstanceAs (Decidable (a.rank ≤ b.rank))

instance (a b : Level) : Decidable (a < b) := inferInstanceAs (Decidable (a.rank < b.rank))

instance : Min Level := minOfLe

instance : Max Level := maxOfLe

instance : Ord Level := ⟨fun a b => compare a.rank b.rank⟩

theorem le_def {a b : Level} : a ≤ b ↔ a.rank ≤ b.rank := Iff.rfl

/-- No two levels have one rank. -/
theorem rank_injective {a b : Level} (h : a.rank = b.rank) : a = b := by
  cases a <;> cases b <;> simp_all [rank]

theorem mem_all (a : Level) : a ∈ all := by cases a <;> decide

/-- The number an engine sends for a level. -/
def raw (a : Level) : Int := a.rank

/-- The level a number stands for. -/
def ofRaw? : Int → Option Level
  | 0 => some core
  | 1 => some servers
  | 2 => some scene
  | 3 => some editor
  | _ => none

/-- The number just above the last level. -/
def bound : Int := 4

/-- The name a level has in messages. -/
def name : Level → String
  | core => "core"
  | servers => "servers"
  | scene => "scene"
  | editor => "editor"

/-- The number of a level is read as that level. -/
@[simp]
theorem ofRaw?_raw (a : Level) : ofRaw? a.raw = some a := by cases a <;> rfl

/-- A number is read as a level only if it is the number of that level. -/
theorem ofRaw?_eq_some_iff {n : Int} {a : Level} : ofRaw? n = some a ↔ n = a.raw := by
  constructor
  · intro h
    unfold ofRaw? at h
    split at h <;> cases h <;> rfl
  · rintro rfl
    exact ofRaw?_raw a

end Level

/-- A number that names no level. -/
structure UnknownLevel where
  raw : Int
  deriving DecidableEq, Repr

/-- The wording of the complaint. -/
def UnknownLevel.message (e : UnknownLevel) : String :=
  "unknown initialization level: " ++ toString e.raw

/-- Reads a level number, keeping the number when it names no level. -/
def Level.decode (n : Int) : Except UnknownLevel Level :=
  match ofRaw? n with
  | some a => .ok a
  | none => .error ⟨n⟩

end EngineExtension
