import EngineExtension.Proofs.Accounting

/-!
# Loads do not interfere

The loads of a process share a log, an environment and a number, and nearly every step of a session
touches one of the three. Still each slot goes its own way: what it holds comes from the last load
that was tried there and from the calls made on it since, and from nothing else.

* `Slot.react` — what one slot makes of a step, with no session around it. In a session each slot
  does just that (`Session.step_slots`);
* `Session.Tries` — a load into a slot that is tried; in a row of steps without one, a slot has only
  its calls to follow (`Session.after_slots_of_never`);
* `slot_replayed_alone` — a slot after any run is what it is after its own part of the run, in a
  process that does nothing else.
-/

namespace EngineExtension

/-! ## One slot by itself -/

namespace Slot

/-- A slot into which a load was tried. -/
def tried (r : Request) : Slot := ⟨some (r.load.record.getD {}), r.load.result.toOption⟩

/-- A load into a slot. A live load stays; all else gives way. -/
def load (slot : Slot) (r : Request) : Slot := if slot.library.isSome then slot else tried r

/-- A call on a slot, which goes to the load in it if the record allows calls. -/
def call (slot : Slot) (c : Call) : Slot :=
  if slot.record.any (·.canStart) then
    { slot with library := slot.library.bind fun lib => (c.apply lib).1 }
  else slot

/-- What slot `i` makes of a step. -/
def react (i : Nat) (slot : Slot) : Step → Slot
  | .load j r => if j = i then slot.load r else slot
  | .call j c => if j = i then slot.call c else slot
  | _ => slot

/-- A slot that holds a load takes no other. -/
theorem load_of_held {slot : Slot} {lib : Library} (h : slot.library = some lib) (r : Request) :
    slot.load r = slot := by
  rw [load, h]
  rfl

/-- A slot that holds none is what the request makes of it. -/
theorem load_of_free {slot : Slot} (h : slot.library = none) (r : Request) :
    slot.load r = tried r := by
  rw [load, h]
  rfl

/-- A call goes nowhere in a slot without a live load. -/
theorem call_of_free {slot : Slot} (h : slot.library = none) (c : Call) : slot.call c = slot := by
  obtain ⟨record, library⟩ := slot
  obtain rfl : library = none := h
  rw [call]
  split <;> rfl

/-- Calls on a slot that holds no load change nothing. -/
theorem foldl_call_of_free {slot : Slot} (h : slot.library = none) (calls : List Call) :
    calls.foldl call slot = slot := by
  induction calls with
  | nil => rfl
  | cons c calls ih => rw [List.foldl_cons, call_of_free h, ih]

/-- Only loads into a slot and calls on it concern it. -/
theorem react_of_other {i : Nat} {s : Step} (hload : ∀ r, s ≠ .load i r)
    (hcall : ∀ c, s ≠ .call i c) (slot : Slot) : slot.react i s = slot := by
  cases s with
  | load j r => exact if_neg fun hj => hload r (by rw [hj])
  | call j c => exact if_neg fun hj => hcall c (by rw [hj])
  | _ => rfl

end Slot

theorem callsOn_cons (i : Nat) (s : Step) (rest : List Step) :
    callsOn i (s :: rest) = (s.callOn? i).toList ++ callsOn i rest := by
  rw [← List.singleton_append, callsOn_append, callsOn_singleton]

/-- All calls on a slot are the calls on it. -/
theorem callsOn_calls (i : Nat) (calls : List Call) :
    callsOn i (calls.map (.call i)) = calls := by
  have hcall : Step.callOn? i ∘ Step.call i = some := funext (Step.callOn?_call_self i)
  rw [callsOn, List.filterMap_map, hcall, List.filterMap_some]

/-! ## The slots of a session -/

namespace Session

variable {p : Session} {i : Nat}

/-- A load into one slot does to every slot what the slot would do by itself. -/
theorem load_slots (p : Session) (j : Nat) (r : Request) (i : Nat) :
    (p.load j r).2.2.slots i = (p.slots i).react i (.load j r) := by
  rw [Slot.react]
  split
  · next hj =>
    subst hj
    rcases hheld : (p.slots j).library with _ | lib
    · rw [Slot.load_of_free hheld]
      rcases hload : r.load.result with e | lib
      · rw [load_of_error hheld hload, setSlot_self, Slot.tried, hload,
          Request.load_record_of_error hload]
        rfl
      · rw [load_of_ok hheld hload, setSlot_self, Slot.tried, hload,
          Request.load_record_of_ok hload]
        rfl
    · rw [Slot.load_of_held hheld, load_of_held hheld]
  · next hj =>
    rcases hheld : (p.slots j).library with _ | lib
    · rcases hload : r.load.result with e | lib
      · rw [load_of_error hheld hload, setSlot_of_ne _ _ (Ne.symm hj)]
      · rw [load_of_ok hheld hload, setSlot_of_ne _ _ (Ne.symm hj), receive_slots]
    · rw [load_of_held hheld]

/-- A call on one slot does to every slot what the slot would do by itself. -/
theorem call_slots (p : Session) (j : Nat) (c : Call) (i : Nat) :
    (p.call j c).2.2.slots i = (p.slots i).react i (.call j c) := by
  rw [Slot.react]
  rcases hheld : (p.slots j).library with _ | lib
  · rw [call_of_free hheld]
    split
    · next hj => rw [← hj, Slot.call_of_free hheld]
    · rfl
  rcases hopen : (p.slots j).record.any (·.canStart) with _ | _
  · rw [call_of_barred hopen]
    split
    · next hj => rw [← hj, Slot.call, hopen, if_neg Bool.false_ne_true]
    · rfl
  · obtain ⟨record, hrecord, hstart⟩ := (Option.any_eq_true _ _).mp hopen
    rw [call_of_held hrecord hstart hheld]
    by_cases hj : j = i
    · subst hj
      rw [if_pos rfl, Slot.call, if_pos hopen, hheld, hrecord]
      exact setSlot_self ..
    · rw [if_neg hj]
      exact setSlot_of_ne _ _ (Ne.symm hj)

/-- **Slots are on their own.** What a step makes of a slot depends on that slot and the step, and
on nothing else in the session. -/
theorem step_slots (p : Session) (s : Step) (i : Nat) :
    (p.step s).2.2.slots i = (p.slots i).react i s := by
  cases s with
  | load j r => exact p.load_slots j r i
  | call j c => exact p.call_slots j c i
  | log record => rfl
  | initLogging name filters host => rfl
  | setEnvironment value => rfl
  | print j message =>
    change (p.print j message).2.2.slots i = p.slots i
    rw [print_after]

/-! ## Loads that are tried -/

/-- A load into slot `i` that is tried, and not turned away because a live load is there. -/
def Tries (i : Nat) (p : Session) (s : Step) : Prop :=
  ∃ r result, s = .load i r ∧ (p.step s).1 = .loaded result

/-- Only a slot that holds no load is tried. -/
theorem Tries.free {s : Step} (h : p.Tries i s) : (p.slots i).library = none := by
  obtain ⟨r, result, rfl, hanswer⟩ := h
  exact (load_eq_loaded hanswer).1

/-- A slot that holds no load is tried by every request for it. -/
theorem tries_of_free (hfree : (p.slots i).library = none) (r : Request) :
    p.Tries i (.load i r) := ⟨r, _, rfl, load_answer hfree⟩

/-- A step that tries no load into a slot can only call it. -/
theorem react_of_not_tries {s : Step} (h : ¬ p.Tries i s) :
    (p.slots i).react i s = (s.callOn? i).elim (p.slots i) (p.slots i).call := by
  cases s with
  | load j r =>
    rw [Slot.react]
    split
    · next hj =>
      subst hj
      rcases hheld : (p.slots j).library with _ | lib
      · exact absurd (tries_of_free hheld r) h
      · exact Slot.load_of_held hheld r
    · rfl
  | call j c =>
    rw [Slot.react, Step.callOn?]
    split <;> rfl
  | _ => rfl

/-- As long as no load is tried in a slot, it follows the calls made on it. -/
theorem after_slots_of_never {steps : List Step} (h : p.Never (Tries i) steps) :
    (p.after steps).slots i = (callsOn i steps).foldl Slot.call (p.slots i) := by
  induction steps generalizing p with
  | nil => rfl
  | cons s rest ih =>
    obtain ⟨hs, hrest⟩ := never_cons.mp h
    rw [after_cons, ih hrest, step_slots, react_of_not_tries hs, callsOn_cons, List.foldl_append]
    rcases s.callOn? i with _ | c <;> rfl

/-- A load that is tried leaves in its slot what the request makes of it. -/
theorem after_slots_of_tries {r : Request} (h : p.Tries i (.load i r)) :
    (p.after [.load i r]).slots i = .tried r := by
  rw [after_cons, after_nil, step_slots, Slot.react, if_pos rfl, Slot.load_of_free h.free]

/-- No call tries a load. -/
theorem never_tries_calls (p : Session) (i j : Nat) (calls : List Call) :
    p.Never (Tries i) (calls.map (.call j)) := by
  rintro past s rest hsplit ⟨r, -, rfl, -⟩
  have hmem : Step.load i r ∈ calls.map (.call j) := by
    rw [hsplit]
    exact List.mem_append_right _ List.mem_cons_self
  obtain ⟨c, -, hc⟩ := List.mem_map.mp hmem
  cases hc

/-- A slot into which a load was tried, and the calls since. -/
theorem after_slots_since {r : Request} {rest : List Step} (htries : p.Tries i (.load i r))
    (hrest : (p.after [.load i r]).Never (Tries i) rest) :
    (p.after (.load i r :: rest)).slots i = (callsOn i rest).foldl Slot.call (.tried r) := by
  rw [← List.singleton_append, after_append, after_slots_of_never hrest,
    after_slots_of_tries htries]

/-- If any load is tried in a slot along a run, one is the last. -/
theorem never_or_exists_last (i : Nat) (p : Session) (steps : List Step) :
    p.Never (Tries i) steps ∨ ∃ past r rest, steps = past ++ .load i r :: rest ∧
      (p.after past).Tries i (.load i r) ∧
      ((p.after past).after [.load i r]).Never (Tries i) rest := by
  induction steps generalizing p with
  | nil => exact .inl (never_nil _ p)
  | cons s rest ih =>
    rcases ih (p.step s).2.2 with hrest | ⟨past, r, later, hrest, htries, hlater⟩
    · by_cases hs : p.Tries i s
      · obtain ⟨r, result, rfl, hanswer⟩ := hs
        exact .inr ⟨[], r, rest, rfl, ⟨r, result, rfl, hanswer⟩, hrest⟩
      · exact .inl (never_cons.mpr ⟨hs, hrest⟩)
    · refine .inr ⟨s :: past, r, later, ?_, htries, hlater⟩
      rw [hrest, List.cons_append]

end Session

/-- **Loads do not interfere.** A step that neither loads into a slot nor calls it leaves the slot
as it is. After any run, in a process with any log, a slot in which no load was tried is empty; any
other is what it is, in a process with any other log, after the last load tried there and the calls
made on it since, and nothing else: whatever went on in other slots, whatever was loaded into this
one before, and whatever was logged, installed, printed and set in the environment. -/
theorem slot_replayed_alone (i : Nat) :
    (∀ (p : Session) (s : Step), (∀ r, s ≠ .load i r) → (∀ c, s ≠ .call i c) →
      (p.step s).2.2.slots i = p.slots i) ∧
    ∀ (g : Logging) (steps : List Step),
      ((Session.start g).Never (Session.Tries i) steps ∧
        ((Session.start g).after steps).slots i = {}) ∨
      ∃ past r rest, steps = past ++ .load i r :: rest ∧
        ((Session.start g).after past).Tries i (.load i r) ∧
        (((Session.start g).after past).after [.load i r]).Never (Session.Tries i) rest ∧
        ∀ alone : Logging, ((Session.start g).after steps).slots i =
          ((Session.start alone).after (.load i r :: (callsOn i rest).map (.call i))).slots i := by
  refine ⟨fun p s hload hcall => ?_, fun g steps => ?_⟩
  · rw [Session.step_slots, Slot.react_of_other hload hcall]
  · rcases Session.never_or_exists_last i (Session.start g) steps with
      hnever | ⟨past, r, rest, rfl, htries, hrest⟩
    · refine .inl ⟨hnever, ?_⟩
      rw [Session.after_slots_of_never hnever]
      exact Slot.foldl_call_of_free rfl _
    · refine .inr ⟨past, r, rest, rfl, htries, hrest, fun alone => ?_⟩
      have halone : (Session.start alone).Tries i (.load i r) := Session.tries_of_free rfl r
      rw [Session.after_append, Session.after_slots_since htries hrest,
        Session.after_slots_since halone (Session.never_tries_calls _ i i _),
        callsOn_calls]

/-- Amid loads and calls elsewhere, a slot is what its own load and its own calls make of it. -/
theorem slot_replayed_alone_beside_another :
    ((Session.recording.after [.load 1 .panicking]).step (.load 0 .panicking)).2.2.slots 1 =
      (Session.recording.after [.load 1 .panicking]).slots 1 ∧
    ∃ past r rest, .load 0 .panicking :: Step.untilFirstLoadEnds = past ++ .load 1 r :: rest ∧
      ∀ alone, ((Session.start .recording).after
          (.load 0 .panicking :: Step.untilFirstLoadEnds)).slots 1 =
        ((Session.start alone).after (.load 1 r :: (callsOn 1 rest).map (.call 1))).slots 1 := by
  obtain ⟨hother, hreplayed⟩ := slot_replayed_alone 1
  refine ⟨hother _ _ (by simp) (by simp), ?_⟩
  rcases hreplayed .recording (.load 0 .panicking :: Step.untilFirstLoadEnds) with
    ⟨hnever, -⟩ | ⟨past, r, rest, hsplit, -, -, halone⟩
  · exact absurd (Session.tries_of_free rfl _)
      (hnever [.load 0 .panicking] (.load 1 .panicking) _ rfl)
  · exact ⟨past, r, rest, hsplit, halone⟩

end EngineExtension
