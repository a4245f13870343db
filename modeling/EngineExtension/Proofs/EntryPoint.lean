import EngineExtension.Bare.Entry
import EngineExtension.Proofs.Decision
import EngineExtension.Proofs.Isolation
import EngineExtension.Proofs.Registry

/-!
# The entry point is a request like any other

A host loads the bare extension through one function, which makes a request of its own with a name
and a logger that nobody asked for. This module shows that the function hides nothing: the same
request made by hand, with any configuration whatever, meets the same fate, and the two loads can
never be told apart by the calls that are made on them.

* `Request.load_result_withConfig` — a configuration plays no part in what a load makes;
* `Library.IsBare` — a load of the bare extension, whose registry is empty; every call keeps it so;
* `entry_point_mirrors_request` — the entry point against a request by hand, in any two sessions.
-/

namespace EngineExtension

/-! ## Configurations -/

namespace Request

/-- Whatever a request says about names and loggers, its load makes the same state, or fails for the
same reason. -/
theorem load_result_withConfig (r : Request) (config : Config) :
    ({ r with config } : Request).load.result = r.load.result := by
  have halike : r.Alike { r with config } := ⟨rfl, Iff.rfl, Iff.rfl⟩
  rcases hload : r.load.result with e | lib
  · exact halike.load_eq_error hload
  · obtain ⟨lib', hload'⟩ := halike.load_isOk hload
    obtain ⟨h, report, initializer, _, hhost, hversion, hinit, -, rfl⟩ := load_eq_ok hload
    obtain ⟨h', report', initializer', _, hhost', hversion', hinit', -, rfl⟩ := load_eq_ok hload'
    obtain rfl : h = h' := Option.some.inj (hhost.symm.trans hhost')
    obtain rfl : report = report' := Option.some.inj (hversion.symm.trans hversion')
    obtain rfl : initializer = initializer' := Option.some.inj (hinit.symm.trans hinit')
    exact hload'

/-- Nor does what it says about them change the record that the host is left with. -/
theorem load_record_withConfig (r : Request) (config : Config) :
    ({ r with config } : Request).load.record = r.load.record := by
  have hsame := r.load_result_withConfig config
  rcases hload : r.load.result with e | lib
  · rw [load_record_of_error hload, load_record_of_error (hsame.trans hload)]
  · rw [load_record_of_ok hload, load_record_of_ok (hsame.trans hload)]

end Request

/-- So it leaves a slot in the same state. -/
theorem Slot.tried_withConfig (r : Request) (config : Config) :
    tried { r with config } = tried r := by
  rw [tried, tried, Request.load_record_withConfig, Request.load_result_withConfig]

/-- What a call answers is decided by the slot it is made on. -/
theorem Session.call_answer_congr {p q : Session} {i j : Nat} (h : p.slots i = q.slots j)
    (c : Call) : (p.call i c).1 = (q.call j c).1 := by
  rw [call, call, h]
  rcases (q.slots j).record with _ | record
  · rfl
  dsimp only
  rcases record.canStart with _ | _
  · rfl
  simp only [Bool.not_true, Bool.false_eq_true, if_false]
  rcases (q.slots j).library with _ | lib
  · dsimp only
    split <;> rfl
  · dsimp only
    rcases (c.apply lib).1 with _ | next <;> rfl

/-- A session after a load into a slot and the given calls on it. -/
def Session.afterLoad (p : Session) (i : Nat) (r : Request) (calls : List Call) : Session :=
  p.after (.load i r :: calls.map (.call i))

/-- The slot of a load is decided by the request and the calls on it, whatever the session. -/
theorem Session.afterLoad_slots {p : Session} {i : Nat} (hfree : (p.slots i).library = none)
    (r : Request) (calls : List Call) :
    (p.afterLoad i r calls).slots i = calls.foldl Slot.call (.tried r) := by
  rw [afterLoad, after_slots_since (tries_of_free hfree r) (never_tries_calls _ i i calls),
    callsOn_calls]

/-! ## Loads of the bare extension -/

namespace Bare

/-- The request of the entry point made by hand, with any configuration. -/
def byHand (host : Option Host) (token : Int) (record : Option InitRecord) (config : Config) :
    Request where
  host
  token
  record
  initializer := some start
  terminator := some stop
  minimum := .scene
  config

/-- At no level does the initializer do anything. -/
theorem start_eq (level : Level) : start level = .done () := by
  rw [start]
  split <;> rfl

theorem status_of_ok (lib : Library) : status (.ok lib) = 1 := rfl

theorem status_of_error (e : LoadError) : status (.error e) = 0 := rfl

end Bare

/-- A load of the bare extension, with no class in its registry. -/
structure Library.IsBare (lib : Library) : Prop where
  initializer : lib.initializer = Bare.start
  terminator : lib.terminator = some Bare.stop
  empty : lib.registry.entries = []

/-- Every call leaves a load of the bare extension as one, with no class in its registry. -/
theorem Library.IsBare.leaves {lib : Library} (h : lib.IsBare) (c : Call) :
    (c.leaves lib).IsBare := by
  rcases hc : c.heard? with _ | ⟨_ | _, level⟩
  · rw [Call.leaves_of_heard?_eq_none hc]
    exact h
  · rw [Call.leaves_of_start hc]
    refine ⟨h.initializer, h.terminator, ?_⟩
    rw [Library.start_registry, Library.starting, h.initializer, Bare.start_eq]
    exact h.empty
  · rw [Call.leaves_of_stop hc]
    have hstop : lib.stopping level = ⟨some (), lib.registry.enter level, []⟩ := by
      rw [Library.stopping, Library.termination, h.terminator]
      rfl
    refine ⟨?_, ?_, ?_⟩
    · rw [Library.stop, Library.terminate_eq]
      exact h.initializer
    · rw [Library.stop, Library.terminate_eq]
      exact h.terminator
    · rw [Library.stop_registry, hstop, Registry.unregister_entries]
      exact congrArg (List.filter _) h.empty

/-- Whatever load a slot holds, it is one of the bare extension. -/
def Slot.HoldsBare (slot : Slot) : Prop := ∀ lib, slot.library = some lib → lib.IsBare

/-- A call on a slot leaves a load of the bare extension in it, or none. -/
theorem Slot.HoldsBare.call {slot : Slot} (h : slot.HoldsBare) (c : Call) :
    (slot.call c).HoldsBare := by
  intro next hnext
  rw [Slot.call] at hnext
  split at hnext
  · obtain ⟨lib, hlib, happly⟩ := Option.bind_eq_some_iff.mp hnext
    rw [Call.apply_eq_some happly]
    exact (h lib hlib).leaves c
  · exact h next hnext

/-- So does a row of calls. -/
theorem Slot.HoldsBare.foldl_call {slot : Slot} (h : slot.HoldsBare) (calls : List Call) :
    (calls.foldl Slot.call slot).HoldsBare := by
  induction calls generalizing slot with
  | nil => exact h
  | cons c calls ih => exact ih (h.call c)

/-- A load that was made by hand is one of the bare extension. -/
theorem Slot.holdsBare_tried (host : Option Host) (token : Int) (record : Option InitRecord)
    (config : Config) : (tried (Bare.byHand host token record config)).HoldsBare := by
  intro lib hlib
  rcases hload : (Bare.byHand host token record config).load.result with e | made
  · rw [tried, hload] at hlib
    cases hlib
  · rw [tried, hload] at hlib
    obtain rfl : made = lib := Option.some.inj hlib
    obtain ⟨_, _, initializer, _, -, -, hinit, -, rfl⟩ := Request.load_eq_ok hload
    exact ⟨(Option.some.inj hinit).symm, rfl, rfl⟩

/-- **The entry point hides nothing.** Take any two sessions with a free slot, and let a host load
the bare extension in the one through its entry point and in the other by hand, with any
configuration. The entry point answers 1 if the other load succeeds and 0 if it fails, and the two
records are the same afterwards: filled in for the scene level, or left as they were. Then let the
same calls be made on both, with any numbers for levels and in any order. After each of them the two
slots hold the same, a state or none; the next call has the same answer, so that both loads end with
the same call; and the registry is empty all along, also when that call has done its work. -/
theorem entry_point_mirrors_request {p q : Session} {i j : Nat}
    (hp : (p.slots i).library = none) (hq : (q.slots j).library = none) (host : Option Host)
    (token : Int) (record : Option InitRecord) (config : Config) :
    (∃ result, (p.load i (Bare.request host token record)).1 = .loaded result ∧
      (Bare.status result = 1 ↔
        ∃ lib, (q.load j (Bare.byHand host token record config)).1 = .loaded (.ok lib)) ∧
      (Bare.status result = 0 ↔
        ∃ e, (q.load j (Bare.byHand host token record config)).1 = .loaded (.error e)) ∧
      (Bare.request host token record).load.record =
        if Bare.status result = 1 then some (.filled .scene) else record) ∧
    (Bare.request host token record).load.record =
      (Bare.byHand host token record config).load.record ∧
    ∀ calls : List Call,
      (p.afterLoad i (Bare.request host token record) calls).slots i =
        (q.afterLoad j (Bare.byHand host token record config) calls).slots j ∧
      (∀ c, ((p.afterLoad i (Bare.request host token record) calls).call i c).1 =
        ((q.afterLoad j (Bare.byHand host token record config) calls).call j c).1) ∧
      ∀ lib, ((p.afterLoad i (Bare.request host token record) calls).slots i).library = some lib →
        lib.registry.entries = [] ∧ ∀ c : Call, (c.leaves lib).registry.entries = [] := by
  have hresult : (Bare.byHand host token record config).load.result =
      (Bare.request host token record).load.result :=
    ((Bare.byHand host token record config).load_result_withConfig _).symm
  have hslot : Slot.tried (Bare.request host token record) =
      Slot.tried (Bare.byHand host token record config) :=
    Slot.tried_withConfig (Bare.byHand host token record config) _
  refine ⟨⟨_, Session.load_answer hp, ?_⟩,
    (Bare.byHand host token record config).load_record_withConfig _, fun calls => ?_⟩
  · rw [Session.load_answer hq, hresult]
    rcases hload : (Bare.request host token record).load.result with e | lib
    · rw [Bare.status_of_error]
      exact ⟨by simp, by simp, Request.load_record_of_error hload⟩
    · rw [Bare.status_of_ok]
      exact ⟨by simp, by simp, Request.load_record_of_ok hload⟩
  · have hsame : (p.afterLoad i (Bare.request host token record) calls).slots i =
        (q.afterLoad j (Bare.byHand host token record config) calls).slots j := by
      rw [Session.afterLoad_slots hp, Session.afterLoad_slots hq, hslot]
    refine ⟨hsame, Session.call_answer_congr hsame, fun lib hlib => ?_⟩
    rw [hsame, Session.afterLoad_slots hq] at hlib
    have hbare := (Slot.holdsBare_tried host token record config).foldl_call calls lib hlib
    exact ⟨hbare.empty, fun c => (hbare.leaves c).empty⟩

/-- A host that is just recent enough. -/
def Host.recent : Host :=
  { id := 2, printsErrors := true, version := some { major := 4, minor := 1 } }

/-- A load through the entry point into a session with a logger, and one by hand into a new session
and without a logger: after the same three calls, one of them for no level at all, both are alive
with an empty registry, and the next call ends both. -/
theorem entry_point_mirrors_request_recent :
    (Session.forwarding.slots 0).library = none ∧ (({} : Session).slots 5).library = none ∧
    (∃ result, (Session.forwarding.load 0 (Bare.request (some .recent) 7 (some {}))).1 =
      .loaded result ∧ Bare.status result = 1) ∧
    (∃ lib, (({} : Session).load 5 (Bare.byHand (some .recent) 7 (some {})
      { name := "Twin", logger := none })).1 = .loaded (.ok lib)) ∧
    (∃ lib, ((Session.forwarding.afterLoad 0 (Bare.request (some .recent) 7 (some {}))
      [.up .scene, ⟨.stop, -1, false⟩, .down .editor]).slots 0).library = some lib ∧
      lib.registry.entries = []) ∧
    (({} : Session).afterLoad 5 (Bare.byHand (some .recent) 7 (some {})
        { name := "Twin", logger := none })
      [.up .scene, ⟨.stop, -1, false⟩, .down .editor] |>.call 5 (.down .scene)).1 =
        .called true := by
  obtain ⟨⟨result, hload, hone, -⟩, -, hcalls⟩ := entry_point_mirrors_request
    (p := .forwarding) (q := {}) (i := 0) (j := 5) rfl rfl (some .recent) 7 (some {})
    { name := "Twin", logger := none }
  obtain ⟨-, hanswer, hempty⟩ := hcalls [.up .scene, ⟨.stop, -1, false⟩, .down .editor]
  have htwin : ∃ lib, (({} : Session).load 5 (Bare.byHand (some .recent) 7 (some {})
      { name := "Twin", logger := none })).1 = .loaded (.ok lib) := ⟨_, rfl⟩
  refine ⟨rfl, rfl, ⟨result, hload, hone.mpr htwin⟩, htwin, ⟨_, rfl, (hempty _ rfl).1⟩, ?_⟩
  rw [← hanswer (.down .scene)]
  rfl

end EngineExtension
