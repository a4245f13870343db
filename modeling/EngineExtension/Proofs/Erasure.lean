import EngineExtension.Proofs.Accounting

/-!
# Ignored calls

A host may forget to hand a load's state back, and it may name a level that there is none of. Such
calls are ignored. They may come at any time, between others that matter, and what is ignored must
not be remembered either: a run goes the same way when all of them are left out.

* `Call.isIgnored` — the calls in question;
* `Moment` — a step of a run, with the session as the step finds it. What comes of the step, whether
  it ends a load, and what callback it runs on which registries (`Moment.invocation?`) is all a
  matter of its moment;
* `Call.invocation?_eq_some` — the callback of a call begins with the registry of its load, and what
  it sees last is what bringing the level up, or the terminator, leaves to the load;
* `Session.moments_erase` — without the ignored calls, a run has the same other moments;
* `ignored_calls_can_be_erased` — what ignored calls change (nothing), and what they show.
-/

namespace EngineExtension

/-! ## Calls that are ignored -/

/-- A number names no level if it lies outside of the four. -/
theorem Level.ofRaw?_eq_none_iff {n : Int} : ofRaw? n = none ↔ n < 0 ∨ 3 < n := by
  unfold ofRaw?
  split
  · simp
  · simp
  · simp
  · simp
  · next h0 h1 h2 h3 =>
    have hraw : n ≠ 0 ∧ n ≠ 1 ∧ n ≠ 2 ∧ n ≠ 3 := ⟨h0, h1, h2, h3⟩
    simp only [true_iff]
    omega

/-- A call without a state, or with a number outside of the levels' ones. -/
def Call.isIgnored (c : Call) : Bool := c.isNull || c.raw < 0 || 3 < c.raw

/-- The calls that are ignored are those that a load does not hear. -/
theorem Call.isIgnored_iff {c : Call} : c.isIgnored = true ↔ c.heard? = none := by
  rw [heard?, isIgnored]
  split
  · next hnull => simp [hnull]
  · next hnull => simp [hnull, Level.ofRaw?_eq_none_iff]

/-- A step that makes a call that is ignored. -/
def Step.isIgnored : Step → Bool
  | call _ c => c.isIgnored
  | _ => false

/-- A row of steps without the calls that are ignored. -/
def erase (steps : List Step) : List Step := steps.filter (!·.isIgnored)

theorem erase_cons_of_ignored {s : Step} (h : s.isIgnored = true) (rest : List Step) :
    erase (s :: rest) = erase rest := List.filter_cons_of_neg (by simp [h])

theorem erase_cons_of_kept {s : Step} (h : ¬ s.isIgnored = true) (rest : List Step) :
    erase (s :: rest) = s :: erase rest := List.filter_cons_of_pos (by simp [h])

/-! ## Moments of a run -/

namespace Program

variable {α : Type}

/-- The registries that a program works on, one for each command, and the one that it leaves. -/
def views : Program α → Registry → List Registry
  | done _, r => [r]
  | panic, r => [r]
  | perform c next, r => r :: (next (c.exec r).answer).views (c.exec r).registry

/-- What a program sees first is what it is run on. -/
theorem head?_views (p : Program α) (r : Registry) : (p.views r).head? = some r := by
  cases p <;> rfl

/-- What a program sees last is what it leaves. -/
theorem getLast?_views (p : Program α) (r : Registry) :
    (p.views r).getLast? = some (p.run r).registry := by
  induction p generalizing r with
  | done a => rfl
  | panic => rfl
  | perform c next ih =>
    rw [views, List.getLast?_cons, ih]
    rfl

end Program

/-- A callback that is run. -/
structure Invocation where
  role : Role
  level : Level
  /-- the registries that it works on -/
  views : List Registry

/-- The callback that a call runs. -/
def Call.invocation? (c : Call) (lib : Library) : Option Invocation :=
  match c.heard? with
  | none => none
  | some (.start, level) =>
    some ⟨.initializer, level, (lib.initializer level).views (lib.registry.enter level)⟩
  | some (.stop, level) => lib.terminator.map fun terminator =>
    ⟨.terminator, level, (terminator level).views (lib.registry.enter level)⟩

/-- The state that a callback leaves to its load. If it tears a level down, the classes of that level
are still there. -/
def Library.leftBy (lib : Library) (role : Role) (level : Level) : Library :=
  match role with
  | .initializer => (lib.start level).1
  | .terminator => ((lib.enter level).terminate level).1

/-- **The callback that a call runs.** It begins with the registry of the load, turned to the level;
what it sees last is the registry that it leaves to the load. -/
theorem Call.invocation?_eq_some {c : Call} {lib : Library} {x : Invocation}
    (h : c.invocation? lib = some x) :
    x.views.head? = some (lib.registry.enter x.level) ∧
      x.views.getLast? = some (lib.leftBy x.role x.level).registry := by
  rw [invocation?] at h
  rcases hc : c.heard? with _ | ⟨_ | _, level⟩ <;> rw [hc] at h
  · cases h
  · obtain rfl := Option.some.inj h
    exact ⟨Program.head?_views _ _, Program.getLast?_views _ _⟩
  · obtain ⟨terminator, hterminator, rfl⟩ := Option.map_eq_some_iff.mp h
    refine ⟨Program.head?_views _ _, ?_⟩
    have hleft : (lib.leftBy .terminator level).registry =
        ((terminator level).run (lib.registry.enter level)).registry := by
      rw [Library.leftBy, Library.terminate, Library.enter, hterminator]
      rfl
    rw [hleft]
    exact Program.getLast?_views _ _

/-- A step of a run. -/
structure Moment where
  /-- the session before it -/
  session : Session
  step : Step

/-- Whether a call ended a load. -/
def Answer.isRelease : Answer → Bool
  | called ended => ended
  | _ => false

namespace Moment

variable (m : Moment)

/-- What the step is answered with. -/
def answer : Answer := (m.session.step m.step).1

/-- What the outside sees of the step. -/
def seen : List Output := (m.session.step m.step).2.1

/-- The session after the step. -/
def next : Session := (m.session.step m.step).2.2

/-- Whether the step ends a load. -/
def isRelease : Bool := m.answer.isRelease

/-- The callback that the step runs, with the slot that it belongs to. -/
def invocation? : Option (Nat × Invocation) :=
  match m.step with
  | .call i c =>
    if (m.session.slots i).record.any (·.canStart) then
      ((m.session.slots i).library.bind c.invocation?).map (i, ·)
    else none
  | _ => none

end Moment

/-- The moments of a run. -/
def Session.moments : Session → List Step → List Moment
  | _, [] => []
  | p, s :: rest => ⟨p, s⟩ :: (p.step s).2.2.moments rest

/-! ## What comes of ignored calls -/

namespace Session

variable {p : Session} {i : Nat} {c : Call}

theorem setSlot_eq_self {s : Slot} (h : p.slots i = s) : p.setSlot i s = p := by
  have hslots : (fun j => if j = i then s else p.slots j) = p.slots := by
    funext j
    by_cases hj : j = i
    · rw [if_pos hj, hj, h]
    · rw [if_neg hj]
  rw [setSlot, hslots]

/-- A call that goes to a load which does not hear it. -/
theorem call_of_unheard {record : InitRecord} {lib : Library}
    (hrecord : (p.slots i).record = some record) (hstart : record.canStart = true)
    (hheld : (p.slots i).library = some lib) (hc : c.heard? = none) :
    p.call i c = (.called false, (p.receive (c.apply lib).2).2, p) := by
  have hslot : p.slots i = ⟨some record, some lib⟩ := by
    rw [← hrecord, ← hheld]
  have hreceive : (p.receive (c.apply lib).2).1 = p := receive_of_not_lasting fun s hs =>
    Signal.not_isLasting_of_isOfCall (c.apply_isOfCall lib s hs)
  have hstate : (c.apply lib).1 = some lib := by rw [Call.apply_of_heard?_eq_none hc]
  simp only [call, hrecord, hstart, hheld, hreceive, hstate, setSlot_eq_self hslot]
  rfl

/-- **A call that no load hears changes nothing**, wherever it goes, and ends no load. What is seen
of it is what a load in its slot sends. -/
theorem unheard_cases (hc : c.heard? = none) :
    (p.call i c).1.isRelease = false ∧
      ((p.call i c).2 = ([], p) ∨ ∃ lib, (p.slots i).library = some lib ∧
        (p.call i c).2 = ((p.receive (c.apply lib).2).2, p)) := by
  rcases hrecord : (p.slots i).record with _ | record
  · simp [call, hrecord, Answer.isRelease]
  by_cases hstart : record.canStart = true
  · rcases hheld : (p.slots i).library with _ | lib
    · -- a load that is over is not called; the answer still tells the two kinds of calls apart
      refine ⟨?_, .inl (call_of_free hheld)⟩
      by_cases hnull : c.isNull = true <;>
        simp [call, hrecord, hstart, hheld, hnull, Answer.isRelease]
    · rw [call_of_unheard hrecord hstart hheld hc]
      exact ⟨rfl, .inr ⟨lib, rfl, rfl⟩⟩
  · simp [call, hrecord, hstart, Answer.isRelease]

/-- A call that is not heard leaves the session as it was. -/
theorem call_after_of_unheard (hc : c.heard? = none) : (p.call i c).2.2 = p := by
  obtain ⟨-, h | ⟨lib, -, h⟩⟩ := unheard_cases (p := p) (i := i) hc <;> rw [h]

/-- Nothing is seen of a call without a state. -/
theorem call_seen_of_null (hnull : c.isNull = true) : (p.call i c).2.1 = [] := by
  have hc : c.heard? = none := if_pos hnull
  obtain ⟨-, h | ⟨lib, -, h⟩⟩ := unheard_cases (p := p) (i := i) hc
  · rw [h]
  · rw [h, Call.apply_of_heard?_eq_none hc, if_pos hnull]
    rfl

/-- A load sends one notice of a call with an unknown level, and nothing else is seen of it. -/
theorem call_seen_of_unknown {lib : Library} (hcallable : p.Callable)
    (hheld : (p.slots i).library = some lib) (hnull : c.isNull = false) (hc : c.heard? = none) :
    (p.call i c).2.1 = p.logging.log (Notice.ignored ⟨c.raw⟩).record := by
  obtain ⟨record, hrecord, hstart⟩ := hcallable i (by rw [hheld]; rfl)
  rw [call_of_unheard hrecord hstart hheld hc, Call.apply_of_heard?_eq_none hc, hnull]
  exact List.append_nil _

end Session

namespace Moment

variable {m : Moment}

/-- Inversion for a step that runs a callback: it is a call that goes to a live load. -/
theorem invocation?_eq_some {i : Nat} {x : Invocation} (h : m.invocation? = some (i, x)) :
    ∃ c lib, m.step = .call i c ∧ (m.session.slots i).library = some lib ∧
      c.invocation? lib = some x := by
  rw [invocation?] at h
  split at h
  · next j c hs =>
    split at h
    · obtain ⟨y, hy, hpair⟩ := Option.map_eq_some_iff.mp h
      obtain ⟨rfl, rfl⟩ := Prod.mk.inj hpair
      obtain ⟨lib, hlib, hx⟩ := Option.bind_eq_some_iff.mp hy
      exact ⟨c, lib, hs, hlib, hx⟩
    · cases h
  · cases h

/-- A step that is ignored is a call that no load hears. -/
theorem isIgnored_cases (h : m.step.isIgnored = true) :
    ∃ i c, m.step = .call i c ∧ c.heard? = none := by
  rcases hs : m.step with _ | ⟨i, c⟩ | _ | _ | _ | _ <;> rw [hs] at h
  case call => exact ⟨i, c, rfl, Call.isIgnored_iff.mp h⟩
  all_goals cases h

/-- An ignored step leaves the session in which it is taken. -/
theorem next_of_isIgnored (h : m.step.isIgnored = true) : m.next = m.session := by
  obtain ⟨i, c, hs, hc⟩ := isIgnored_cases h
  rw [next, hs]
  exact Session.call_after_of_unheard hc

/-- It ends no load. -/
theorem isRelease_of_isIgnored (h : m.step.isIgnored = true) : m.isRelease = false := by
  obtain ⟨i, c, hs, hc⟩ := isIgnored_cases h
  rw [isRelease, answer, hs]
  exact (Session.unheard_cases hc).1

/-- It runs no callback. -/
theorem invocation?_of_isIgnored (h : m.step.isIgnored = true) : m.invocation? = none := by
  obtain ⟨i, c, hs, hc⟩ := isIgnored_cases h
  have hnone : c.invocation? = fun _ => none := by
    funext lib
    rw [Call.invocation?, hc]
  simp [invocation?, hs, hnone]

end Moment

/-! ## Runs without ignored calls -/

namespace Session

variable {p : Session}

theorem step_of_isIgnored {s : Step} (h : s.isIgnored = true) : (p.step s).2.2 = p :=
  Moment.next_of_isIgnored (m := ⟨p, s⟩) h

/-- Without its ignored steps, a run ends in the same session. -/
theorem after_erase (p : Session) (steps : List Step) : p.after (erase steps) = p.after steps := by
  induction steps generalizing p with
  | nil => rfl
  | cons s rest ih =>
    by_cases hs : s.isIgnored = true
    · rw [erase_cons_of_ignored hs, ih, after_cons, step_of_isIgnored hs]
    · rw [erase_cons_of_kept hs, after_cons, after_cons, ih]

/-- **Every other step finds the same session.** -/
theorem moments_erase (p : Session) (steps : List Step) :
    p.moments (erase steps) = (p.moments steps).filter (!·.step.isIgnored) := by
  induction steps generalizing p with
  | nil => rfl
  | cons s rest ih =>
    by_cases hs : s.isIgnored = true
    · -- the rest of the run starts from the session that the ignored call found
      rw [erase_cons_of_ignored hs, ih, moments, List.filter_cons_of_neg (by simp [hs]),
        step_of_isIgnored hs]
    · rw [erase_cons_of_kept hs, moments, moments, List.filter_cons_of_pos (by simp [hs]), ih]

/-- The loads of a run can be called, at every moment. -/
theorem callable_of_mem_moments (hcallable : p.Callable) {steps : List Step} {m : Moment}
    (hm : m ∈ p.moments steps) : m.session.Callable := by
  induction steps generalizing p with
  | nil => cases hm
  | cons s rest ih =>
    rcases List.mem_cons.mp hm with rfl | hm
    · exact hcallable
    · exact ih (hcallable.step s) hm

/-- Without its ignored steps, the same steps of a run end loads, in the same sessions. -/
theorem releases_erase (p : Session) (steps : List Step) :
    (p.moments (erase steps)).filter Moment.isRelease =
      (p.moments steps).filter Moment.isRelease := by
  rw [moments_erase, List.filter_filter]
  refine List.filter_congr fun m _ => ?_
  by_cases hm : m.step.isIgnored = true
  · rw [Moment.isRelease_of_isIgnored hm, Bool.false_and]
  · simp [hm]

/-- Without its ignored steps, a run has the same invocations of callbacks, in order. -/
theorem invocations_erase (p : Session) (steps : List Step) :
    (p.moments (erase steps)).filterMap Moment.invocation? =
      (p.moments steps).filterMap Moment.invocation? := by
  rw [moments_erase, List.filterMap_filter]
  refine congrArg ((p.moments steps).filterMap ·) (funext fun m => ?_)
  by_cases hm : m.step.isIgnored = true
  · simp [hm, Moment.invocation?_of_isIgnored hm]
  · simp [hm]

end Session

/-- **Ignored calls can be erased.** Take any run of a process, with any log, and leave out all
calls without a state and all calls with a number that names no level.

The process ends up in the same state: every slot, the number of live loads, the log. Every other
step finds the same state as before, and so has the same answer and the same outputs; the same ones
of them end a load; and the same callbacks are run in the same order, at the same levels, on the
same registries. These are the registries that the load works on: a callback begins with the one
that its load has come to, and ends with the one that it leaves to it.

A call that is left out leaves the process as it is. When it comes without a state, nothing is seen
of it, whatever its number. When it comes with a state and names no level, a live load sends one
notice to the log, a warning that names the number, and nothing else. A load that is over is not
called, so nothing is seen of a call to it. -/
theorem ignored_calls_can_be_erased (g : Logging) (steps : List Step) :
    (Session.start g).after (erase steps) = (Session.start g).after steps ∧
    (Session.start g).moments (erase steps) =
      ((Session.start g).moments steps).filter (!·.step.isIgnored) ∧
    ((Session.start g).moments (erase steps)).filter Moment.isRelease =
      ((Session.start g).moments steps).filter Moment.isRelease ∧
    ((Session.start g).moments (erase steps)).filterMap Moment.invocation? =
      ((Session.start g).moments steps).filterMap Moment.invocation? ∧
    (∀ (m : Moment) i x, m.invocation? = some (i, x) →
      ∃ c lib, m.step = .call i c ∧ (m.session.slots i).library = some lib ∧
        x.views.head? = some (lib.registry.enter x.level) ∧
        x.views.getLast? = some (lib.leftBy x.role x.level).registry) ∧
    ∀ m ∈ (Session.start g).moments steps, ∀ i c, m.step = .call i c → c.isIgnored = true →
      m.next = m.session ∧ m.isRelease = false ∧ m.invocation? = none ∧
      (c.isNull = true → m.seen = []) ∧ ((m.session.slots i).library = none → m.seen = []) ∧
      ∀ lib, (m.session.slots i).library = some lib → c.isNull = false →
        ∃ n, c.apply lib = (some lib, [.notice n]) ∧ m.seen = m.session.logging.log n.record ∧
          n.record.severity = .warn ∧
          n.record.message =
            "ignoring lifecycle call: unknown initialization level: " ++ toString c.raw := by
  refine ⟨Session.after_erase _ _, Session.moments_erase _ _, Session.releases_erase _ _,
    Session.invocations_erase _ _, fun m i x hx => ?_, ?_⟩
  · obtain ⟨c, lib, hs, hlib, hx⟩ := Moment.invocation?_eq_some hx
    exact ⟨c, lib, hs, hlib, Call.invocation?_eq_some hx⟩
  rintro ⟨p, s⟩ hm i c rfl hignored
  have hcallable : p.Callable := Session.callable_of_mem_moments (Session.callable_start g) hm
  have hc : c.heard? = none := Call.isIgnored_iff.mp hignored
  refine ⟨Moment.next_of_isIgnored hignored, Moment.isRelease_of_isIgnored hignored,
    Moment.invocation?_of_isIgnored hignored, fun hnull => Session.call_seen_of_null hnull,
    fun hfree => congrArg Prod.fst (Session.call_of_free hfree), ?_⟩
  intro lib hheld hnull
  refine ⟨.ignored ⟨c.raw⟩, ?_, Session.call_seen_of_unknown hcallable hheld hnull hc, rfl, ?_⟩
  · rw [Call.apply_of_heard?_eq_none hc, hnull]
    rfl
  · change "ignoring lifecycle call: " ++ ("unknown initialization level: " ++ toString c.raw) = _
    rw [← String.append_assoc]
    rfl

/-- A load and its end, with calls in between that come without a state or name no level. -/
def Step.stray : List Step :=
  [.call 1 ⟨.start, 2, true⟩, .load 0 .panicking, .call 0 ⟨.stop, 0, true⟩,
    .call 0 ⟨.stop, -1, false⟩, .call 0 (.up .scene), .call 0 ⟨.start, 4, false⟩,
    .call 0 ⟨.stop, -2147483648, true⟩, .call 0 (.down .scene), .call 0 ⟨.stop, 2, true⟩]

/-- Two warnings are all that comes of six calls that are ignored; the load is over when it is over
without them. -/
theorem ignored_calls_can_be_erased_stray :
    erase Step.stray = [.load 0 .panicking, .call 0 (.up .scene), .call 0 (.down .scene)] ∧
    (Session.start .recording).after (erase Step.stray) =
      (Session.start .recording).after Step.stray ∧
    (((Session.start .recording).moments Step.stray).filterMap Moment.invocation?).map
        (fun x => (x.1, x.2.role, x.2.level, x.2.views.map Registry.size)) =
      [(0, .initializer, .scene, [0, 1]), (0, .terminator, .scene, [1, 2])] ∧
    ((Session.start .recording).moments Step.stray).map Moment.isRelease =
      [false, false, false, false, false, false, false, true, false] ∧
    ∃ record : Log.Record,
      (((Session.start .recording).after (Step.stray.take 3)).step
          (.call 0 ⟨.stop, -1, false⟩)).2.1 = [.recorded record] ∧
      record.severity = .warn ∧
      record.message = "ignoring lifecycle call: unknown initialization level: -1" := by
  obtain ⟨hafter, -, -, hinvocations, -, hignored⟩ :=
    ignored_calls_can_be_erased .recording Step.stray
  refine ⟨rfl, hafter, ?_, rfl, ?_⟩
  · rw [← hinvocations]
    rfl
  · obtain ⟨-, -, -, -, -, hseen⟩ := hignored
      ⟨(Session.start .recording).after (Step.stray.take 3), .call 0 ⟨.stop, -1, false⟩⟩
      (List.mem_iff_getElem?.mpr ⟨3, rfl⟩) 0 _ rfl rfl
    obtain ⟨n, -, hn, hseverity, hmessage⟩ := hseen _ rfl rfl
    have hlog : Logging.recording.log n.record = [.recorded n.record] := by
      rw [Logging.log, hseverity]
      rfl
    exact ⟨n.record, hn.trans hlog, hseverity, hmessage⟩

end EngineExtension
