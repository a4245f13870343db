import EngineExtension.Proofs.Run
import EngineExtension.Proofs.Session

/-!
# All or nothing

A load touches much that outlives it: the host's record, the number of live loads, the log of the
process. Each of these it touches by a signal of its own, and there are six checks at which it may
end before. None of the signals comes before the last check, so a load that fails has done nothing
that lasts, and one that succeeds has done everything.

* `Session.Untouched` — a session in which no load has changed, nor what loads share;
* `load_all_or_nothing` — the two outcomes of a load, in any session.
-/

namespace EngineExtension

/-- No load has come, gone or changed since `p`, nor has the log. Only the record in slot `i` may be
another. -/
structure Session.Untouched (p after : Session) (i : Nat) : Prop where
  live : after.live = p.live
  logging : after.logging = p.logging
  loads : ∀ j, (after.slots j).library = (p.slots j).library
  others : ∀ j, j ≠ i → after.slots j = p.slots j

namespace Session

variable {p : Session} {i : Nat} {r : Request}

/-- A load that fails leaves all but the record in its slot. -/
theorem untouched_of_error {e : LoadError} (hfree : (p.slots i).library = none)
    (hload : r.load.result = .error e) : p.Untouched (p.load i r).2.2 i := by
  rw [load_of_error hfree hload]
  refine ⟨rfl, rfl, fun j => ?_, fun j hj => setSlot_of_ne _ _ hj⟩
  by_cases hj : j = i
  · rw [hj, setSlot_self, hfree]
  · rw [setSlot_of_ne _ _ hj]

end Session

/-- **All or nothing.** Take any session, any slot and any request. If the load fails, at whichever
check, it has sent nothing that lasts: the record is as it was, and so are the number of live loads,
the log with its threshold, and every load of the session; no logger has been installed, whatever
the configuration says. If it succeeds, the record holds the number of the minimum level, a state
and both ways to call back, there is one more live load, and its registry is empty and at no level.
A load in a free slot does one of the two. -/
theorem load_all_or_nothing {p after : Session} {i : Nat} {r : Request} {answer : Answer}
    {seen : List Output} (hstep : p.load i r = (answer, seen, after)) :
    (∀ e, answer = .loaded (.error e) →
      (∀ s ∈ r.load.signals, s.isLasting = false) ∧
      r.load.record = r.record ∧ (after.slots i).record = some (r.load.record.getD {}) ∧
        p.Untouched after i) ∧
    (∀ lib, answer = .loaded (.ok lib) →
      (∃ record, r.load.record = some record ∧ record.minimum = r.minimum.raw ∧
        record.hasState ∧ record.canStart ∧ record.canStop ∧
        after.slots i = ⟨some record, some lib⟩) ∧
      after.live = p.live + 1 ∧ lib.registry.entries = [] ∧ lib.registry.level = none ∧
      ∀ j, j ≠ i → after.slots j = p.slots j) ∧
    ((p.slots i).library = none → ∃ result, answer = .loaded result) := by
  obtain ⟨rfl, -, rfl⟩ : (p.load i r).1 = answer ∧ (p.load i r).2.1 = seen ∧
      (p.load i r).2.2 = after := by rw [hstep]; exact ⟨rfl, rfl, rfl⟩
  refine ⟨fun e hanswer => ?_, fun lib hanswer => ?_, fun hfree => ?_⟩
  · obtain ⟨hfree, hload⟩ := Session.load_eq_loaded hanswer
    refine ⟨Request.not_isLasting_of_error hload, Request.load_record_of_error hload, ?_,
      Session.untouched_of_error hfree hload⟩
    rw [Session.load_of_error hfree hload, Session.setSlot_self,
      Request.load_record_of_error hload]
  · obtain ⟨hfree, hload⟩ := Session.load_eq_loaded hanswer
    have hregistry := Request.registry_of_load hload
    rw [Session.load_of_ok hfree hload]
    refine ⟨⟨_, Request.load_record_of_ok hload, rfl, rfl, rfl, rfl, Session.setSlot_self _ _ _⟩,
      ?_, ?_, ?_, fun j hj => Session.setSlot_of_ne _ _ hj⟩
    · exact Session.receive_live_of_ok hload
    · rw [hregistry]
    · rw [hregistry]
  · exact ⟨_, Session.load_answer hfree⟩

/-- A request from a host that is too old. -/
def Request.fromOldHost : Request :=
  { plain (fun _ => pure ()) none with
    host := some { printsErrors := true, version := some { major := 4, minor := 0, patch := 2 } } }

/-- A session with one live load and no backend. -/
def Session.withOneLoad : Session :=
  (({} : Session).load 1 { Request.plain (fun _ => pure ()) none with
    config := ({} : Config).withoutLogger }).2.2

/-- In a session with a live load and no backend, a request for a load with a logger: a host that is
too old gets nothing and leaves the session as it was, a recent one gets a second load. -/
theorem load_all_or_nothing_old_host :
    Session.withOneLoad.live = 1 ∧ Session.withOneLoad.logging.backend = none ∧
      Request.fromOldHost.config.logger = some {} ∧
      (∃ e seen after, Session.withOneLoad.load 0 .fromOldHost = (.loaded (.error e), seen, after) ∧
        Session.withOneLoad.Untouched after 0) ∧
      ∃ lib seen after, Session.withOneLoad.load 0 (.plain (fun _ => pure ()) none) =
        (.loaded (.ok lib), seen, after) ∧ after.live = 2 := by
  refine ⟨rfl, rfl, rfl, ?_, ?_⟩
  · obtain ⟨e, seen, after, hstep⟩ : ∃ e seen after,
        Session.withOneLoad.load 0 .fromOldHost = (.loaded (.error e), seen, after) :=
      ⟨_, _, _, rfl⟩
    exact ⟨e, seen, after, hstep, ((load_all_or_nothing hstep).1 e rfl).2.2.2⟩
  · obtain ⟨lib, seen, after, hstep⟩ : ∃ lib seen after,
        Session.withOneLoad.load 0 (.plain (fun _ => pure ()) none) =
          (.loaded (.ok lib), seen, after) := ⟨_, _, _, rfl⟩
    exact ⟨lib, seen, after, hstep, ((load_all_or_nothing hstep).2.1 lib rfl).2.1⟩

end EngineExtension
