import EngineExtension.Proofs.Run
import EngineExtension.Proofs.Session

/-!
# How many loads are live

A session has one number for all its loads, which goes up when a load succeeds and down when one is
over. Nothing ties the two together but the steps in between, which may load into other slots, fail,
call loads that ignore it and run callbacks that panic. This module keeps the books: it lists the
loads of a run, follows each by itself, and shows that the number is right at all times.

* `Stay` — a load that succeeded, with the calls made on its slot since. Whether it is open is a
  matter of that load and those calls alone;
* `Session.stays` — the stays of a run, one for each load that succeeded;
* `Session.Accounts` — what holds between a session and the stays up to now. Every step keeps it
  (`Accounts.turn`), so it holds along every run (`accounts_stays`);
* `live_eq_open_loads` — the number of live loads, and how each of them is counted.
-/

namespace EngineExtension

/-! ## The loads of a run -/

/-- The call that a step makes on a slot. -/
def Step.callOn? (i : Nat) : Step → Option Call
  | call j c => if j = i then some c else none
  | _ => none

/-- The calls that a row of steps makes on a slot. -/
def callsOn (i : Nat) (steps : List Step) : List Call := steps.filterMap (Step.callOn? i)

/-- A load that succeeded. -/
structure Stay where
  slot : Nat
  /-- the state that the load began with -/
  library : Library
  /-- the calls on its slot since then -/
  calls : List Call := []

namespace Stay

/-- The state of the load by now, unless it is over. -/
def state (t : Stay) : Option Library := t.library.after t.calls

/-- Whether the load is not over. -/
def isOpen (t : Stay) : Bool := t.state.isSome

/-- A stay after more steps. -/
def hear (steps : List Step) (t : Stay) : Stay :=
  { t with calls := t.calls ++ callsOn t.slot steps }

/-- Whether the next step ends the load. -/
def isEndedBy (s : Step) (t : Stay) : Bool := t.isOpen && !(t.hear [s]).isOpen

/-- Whether the load is in a given slot. -/
def isIn (i : Nat) (t : Stay) : Bool := t.slot = i

/-- The state of the load, if it is in a given slot and not over. -/
def stateIn? (i : Nat) (t : Stay) : Option Library := if t.isIn i then t.state else none

end Stay

/-- The state that a load was answered with. -/
def Answer.granted? : Answer → Option Library
  | loaded (.ok lib) => some lib
  | _ => .none

namespace Session

/-- The stay that begins with a step. -/
def begins? (p : Session) : Step → Option Stay
  | .load i r => (p.load i r).1.granted?.map fun lib => { slot := i, library := lib }
  | _ => none

/-- The stays of a run, in the order in which they began. -/
def stays (p : Session) : List Step → List Stay
  | [] => []
  | s :: rest => ((p.begins? s).map (Stay.hear rest)).toList ++ (p.step s).2.2.stays rest

end Session

/-- A state comes only with the answer to a load that succeeded. -/
theorem Answer.granted?_eq_some {answer : Answer} {lib : Library}
    (h : answer.granted? = some lib) : answer = .loaded (.ok lib) := by
  cases answer with
  | loaded result =>
    rcases result with e | now
    · cases h
    · rw [Option.some.inj h]
  | _ => cases h

/-! ## One more step -/

/-- Only a call is a call on a slot. -/
theorem Step.callOn?_eq_some {i : Nat} {s : Step} {c : Call} (h : s.callOn? i = some c) :
    s = .call i c := by
  cases s with
  | call j d =>
    rw [callOn?] at h
    split at h
    · next hj => rw [hj, Option.some.inj h]
    · cases h
  | _ => cases h

theorem Step.callOn?_call_self (i : Nat) (c : Call) : (call i c).callOn? i = some c := if_pos rfl

theorem Step.callOn?_call_of_ne {i j : Nat} (h : j ≠ i) (c : Call) : (call i c).callOn? j = none :=
  if_neg (Ne.symm h)

/-- What is no call is a call on no slot. -/
theorem Step.callOn?_of_not_call {s : Step} (h : ∀ i c, s ≠ .call i c) (i : Nat) :
    s.callOn? i = none :=
  Option.eq_none_iff_forall_ne_some.mpr fun c hc => h i c (callOn?_eq_some hc)

/-- The calls on a slot in two stretches of a run are those in one, then those in the other. -/
theorem callsOn_append (i : Nat) (xs ys : List Step) :
    callsOn i (xs ++ ys) = callsOn i xs ++ callsOn i ys := List.filterMap_append

theorem callsOn_singleton (i : Nat) (s : Step) : callsOn i [s] = (s.callOn? i).toList := by
  rw [callsOn, List.filterMap_cons]
  rcases s.callOn? i with _ | c <;> rfl

namespace Stay

variable {t : Stay} {s : Step}

@[simp] theorem hear_nil (t : Stay) : t.hear [] = t := by
  rw [hear, callsOn, List.filterMap_nil, List.append_nil]

/-- A stay may hear two stretches of a run one after the other. -/
theorem hear_append (xs ys : List Step) (t : Stay) : t.hear (xs ++ ys) = (t.hear xs).hear ys := by
  simp only [hear, callsOn_append, List.append_assoc]

/-- A step that makes no call on the slot passes a stay by. -/
theorem hear_of_none (h : s.callOn? t.slot = none) : t.hear [s] = t := by
  rw [hear, callsOn_singleton, h, Option.toList_none, List.append_nil]

/-- A call on the slot goes to the load, if it is not over. -/
theorem state_hear_of_some {c : Call} (h : s.callOn? t.slot = some c) :
    (t.hear [s]).state = t.state.bind fun lib => (c.apply lib).1 := by
  rw [state, hear, callsOn_singleton, h]
  exact t.library.after_concat t.calls c

theorem isIn_hear (i : Nat) (steps : List Step) (t : Stay) : (t.hear steps).isIn i = t.isIn i := rfl

theorem slot_eq_of_isIn {i : Nat} (h : t.isIn i = true) : t.slot = i := of_decide_eq_true h

theorem stateIn?_slot (t : Stay) : t.stateIn? t.slot = t.state := if_pos (decide_eq_true rfl)

/-- What a slot's loads make of a step without a call on the slot. -/
theorem stateIn?_hear_of_none {i : Nat} (h : s.callOn? i = none) :
    (t.hear [s]).stateIn? i = t.stateIn? i := by
  rw [stateIn?, stateIn?, isIn_hear]
  split
  · next ht => rw [hear_of_none (by rw [slot_eq_of_isIn ht, h])]
  · rfl

/-- What a slot's loads make of a call on the slot. -/
theorem stateIn?_hear_of_some {i : Nat} {c : Call} (h : s.callOn? i = some c) :
    (t.hear [s]).stateIn? i = (t.stateIn? i).bind fun lib => (c.apply lib).1 := by
  rw [stateIn?, stateIn?, isIn_hear]
  split
  · next ht => rw [state_hear_of_some (by rw [slot_eq_of_isIn ht, h])]
  · rfl

/-- A load that is over stays so. -/
theorem isOpen_of_hear (h : (t.hear [s]).isOpen = true) : t.isOpen = true := by
  rcases hs : s.callOn? t.slot with _ | c
  · rwa [hear_of_none hs] at h
  · rw [isOpen, state_hear_of_some hs] at h
    rw [isOpen]
    rcases hstate : t.state with _ | lib
    · rw [hstate] at h
      exact h
    · rfl

end Stay

/-! ## Counting loads -/

section Counting

variable (stays : List Stay)

/-- The loads that are open before a step are those open after it and those it ends. -/
theorem countP_isOpen_hear (s : Step) :
    stays.countP Stay.isOpen =
      (stays.map (Stay.hear [s])).countP Stay.isOpen + stays.countP (Stay.isEndedBy s) := by
  -- what is open after the step was open before, so only what the step ends is missing
  have hopen : ∀ t : Stay, (t.isOpen && (t.hear [s]).isOpen) = (t.hear [s]).isOpen := by
    intro t
    rcases h : (t.hear [s]).isOpen with _ | _
    · rw [Bool.and_false]
    · rw [Stay.isOpen_of_hear h, Bool.and_true]
  rw [List.countP_eq_countP_filter_add stays Stay.isOpen (fun t => (t.hear [s]).isOpen),
    List.countP_filter, List.countP_filter, List.countP_map]
  simp only [hopen]
  rfl

/-- Open loads are in a given slot or elsewhere. -/
theorem countP_isOpen_slot (i : Nat) :
    stays.countP Stay.isOpen =
      (stays.filterMap (Stay.stateIn? i)).length +
        (stays.filter (!Stay.isIn i ·)).countP Stay.isOpen := by
  have hslot : (stays.filterMap (Stay.stateIn? i)).length =
      (stays.filter (Stay.isIn i)).countP Stay.isOpen := by
    rw [List.length_filterMap_eq_countP, List.countP_filter]
    refine congrArg (stays.countP ·) (funext fun t => ?_)
    rw [Stay.stateIn?, Stay.isOpen]
    rcases t.isIn i with _ | _
    · exact (Bool.and_false _).symm
    · exact (Bool.and_true _).symm
  rw [hslot]
  exact List.countP_eq_countP_filter_add stays Stay.isOpen (Stay.isIn i)

/-- A call on a slot leaves the loads elsewhere alone. -/
theorem filter_hear_call (i : Nat) (c : Call) :
    (stays.map (Stay.hear [.call i c])).filter (!Stay.isIn i ·) =
      stays.filter (!Stay.isIn i ·) := by
  rw [List.filter_map]
  refine (List.map_congr_left fun t ht => ?_).trans (List.map_id _)
  have hslot : t.slot ≠ i := by
    rintro rfl
    simp [Stay.isIn, Stay.hear] at ht
  exact Stay.hear_of_none (Step.callOn?_call_of_ne hslot c)

/-- A step that is no call passes all loads by. -/
theorem map_hear_of_not_call {s : Step} (h : ∀ i c, s ≠ .call i c) :
    stays.map (Stay.hear [s]) = stays :=
  (List.map_congr_left fun _ _ => Stay.hear_of_none (Step.callOn?_of_not_call h _)).trans
    (List.map_id _)

/-- A step without a call on a slot leaves the states of the slot's loads. -/
theorem filterMap_stateIn?_of_none {i : Nat} {s : Step} (h : s.callOn? i = none) :
    (stays.map (Stay.hear [s])).filterMap (Stay.stateIn? i) =
      stays.filterMap (Stay.stateIn? i) := by
  rw [List.filterMap_map]
  exact congrArg (stays.filterMap ·) (funext fun _ => Stay.stateIn?_hear_of_none h)

/-- A call on a slot goes to all of the slot's loads that are not over. -/
theorem filterMap_stateIn?_of_some {i : Nat} {s : Step} {c : Call} (h : s.callOn? i = some c) :
    (stays.map (Stay.hear [s])).filterMap (Stay.stateIn? i) =
      (stays.filterMap (Stay.stateIn? i)).filterMap fun lib => (c.apply lib).1 := by
  rw [List.filterMap_map, List.filterMap_filterMap]
  exact congrArg (stays.filterMap ·) (funext fun _ => Stay.stateIn?_hear_of_some h)

end Counting

/-! ## Keeping the books -/

namespace Session

/-- The books are right: the open loads in each slot are what the slot holds, and the number of live
loads is the number of all open loads. -/
structure Accounts (p : Session) (stays : List Stay) : Prop where
  held : ∀ i, stays.filterMap (Stay.stateIn? i) = (p.slots i).library.toList
  live : p.live = stays.countP Stay.isOpen

variable {p after : Session} {stays : List Stay} {s : Step}

/-- A load that succeeds begins a stay. -/
theorem begins?_of_granted {i : Nat} {r : Request} {lib : Library}
    (h : (p.load i r).1 = .loaded (.ok lib)) :
    p.begins? (.load i r) = some { slot := i, library := lib } := by
  rw [begins?, h]
  rfl

/-- No other step does. -/
theorem begins?_of_not_granted (h : ∀ lib, (p.step s).1 ≠ .loaded (.ok lib)) :
    p.begins? s = none := by
  cases s with
  | load i r =>
    have hnone : (p.load i r).1.granted? = none :=
      Option.eq_none_iff_forall_ne_some.mpr fun lib hlib => h lib (Answer.granted?_eq_some hlib)
    rw [begins?, hnone, Option.map_none]
  | _ => rfl

theorem begins?_call (p : Session) (i : Nat) (c : Call) : p.begins? (.call i c) = none := rfl

/-- A load that succeeds is entered into the books. -/
theorem Accounts.granted {i : Nat} {lib : Library} (h : p.Accounts stays)
    (hfree : (p.slots i).library = none) (hheld : (after.slots i).library = some lib)
    (hothers : ∀ j, j ≠ i → (after.slots j).library = (p.slots j).library)
    (hlive : after.live = p.live + 1) :
    after.Accounts (stays ++ [{ slot := i, library := lib }]) := by
  refine ⟨fun j => ?_, ?_⟩
  · rw [List.filterMap_append, h.held]
    by_cases hj : j = i
    · rw [hj, hfree, hheld]
      simp [Stay.stateIn?, Stay.isIn, Stay.state]
    · rw [hothers j hj]
      simp [Stay.stateIn?, Stay.isIn, Ne.symm hj]
  · rw [List.countP_append, hlive, h.live]
    rfl

/-- A call is entered with the load that it goes to, if any. -/
theorem Accounts.called {i : Nat} {c : Call} (h : p.Accounts stays)
    (hheld : (after.slots i).library = (p.slots i).library.bind fun lib => (c.apply lib).1)
    (hothers : ∀ j, j ≠ i → (after.slots j).library = (p.slots j).library)
    (hlive : after.live =
      if (after.slots i).library.isSome = (p.slots i).library.isSome then p.live
      else p.live - 1) :
    after.Accounts (stays.map (Stay.hear [.call i c])) := by
  have hslot : (stays.map (Stay.hear [.call i c])).filterMap (Stay.stateIn? i) =
      (after.slots i).library.toList := by
    rw [filterMap_stateIn?_of_some stays (Step.callOn?_call_self i c), h.held, hheld]
    rcases (p.slots i).library with _ | lib
    · rfl
    · rw [Option.toList_some, List.filterMap_cons, Option.bind_some]
      rcases (c.apply lib).1 with _ | next <;> rfl
  refine ⟨fun j => ?_, ?_⟩
  · by_cases hj : j = i
    · rw [hj, hslot]
    · rw [filterMap_stateIn?_of_none stays (Step.callOn?_call_of_ne hj c), h.held, hothers j hj]
  · -- all but the slot's own load, if there is one, are counted as before
    have hbefore := countP_isOpen_slot stays i
    have hafter := countP_isOpen_slot (stays.map (Stay.hear [.call i c])) i
    rw [h.held, ← h.live] at hbefore
    rw [filter_hear_call, hslot] at hafter
    rw [hlive, hafter, hheld]
    rcases hlib : (p.slots i).library with _ | lib <;> rw [hlib] at hbefore
    · exact hbefore
    · rw [Option.bind_some]
      rcases (c.apply lib).1 with _ | next
      · -- the load is over, and it was counted up to now
        rw [if_neg (by simp)]
        simp only [Option.toList_some, List.length_singleton] at hbefore
        simp only [Option.toList_none, List.length_nil]
        omega
      · exact hbefore

/-- **A step keeps the books.** -/
theorem Accounts.turn (h : p.Accounts stays) (hturn : p.Turn after s) :
    after.Accounts (stays.map (Stay.hear [s]) ++ (p.begins? s).toList) := by
  cases hturn with
  | granted hanswer hfree hheld hothers hlive =>
    rw [map_hear_of_not_call stays (fun _ _ hcall => by cases hcall), begins?_of_granted hanswer]
    exact h.granted hfree hheld hothers hlive
  | called hheld hothers hlive =>
    rw [begins?_call, Option.toList_none, List.append_nil]
    exact h.called hheld hothers hlive
  | idle hanswer hcall hheld hlive =>
    rw [map_hear_of_not_call stays hcall, begins?_of_not_granted hanswer, Option.toList_none,
      List.append_nil]
    exact ⟨fun i => by rw [h.held, hheld], by rw [hlive, h.live]⟩

/-- The stays of a longer run are those of its first part, which hear the rest, and those that begin
in the rest. -/
theorem stays_append (p : Session) (past rest : List Step) :
    p.stays (past ++ rest) =
      (p.stays past).map (Stay.hear rest) ++ (p.after past).stays rest := by
  induction past generalizing p with
  | nil => rfl
  | cons s past ih =>
    rw [List.cons_append, stays, stays, ih, after_cons]
    rcases p.begins? s with _ | t
    · rfl
    · simp [Stay.hear_append]

/-- One more step is heard by all stays, and may begin one. -/
theorem stays_concat (p : Session) (past : List Step) (s : Step) :
    p.stays (past ++ [s]) =
      (p.stays past).map (Stay.hear [s]) ++ ((p.after past).begins? s).toList := by
  rw [stays_append, stays]
  rcases (p.after past).begins? s with _ | t <;> simp [stays]

/-- **The books are right along every run.** -/
theorem accounts_stays (g : Logging) (steps : List Step) :
    ((start g).after steps).Accounts ((start g).stays steps) := by
  -- the last step is split off, so that it is heard by all loads before it
  induction steps using List.reverseRecOn with
  | nil => exact ⟨fun _ => rfl, rfl⟩
  | append_singleton past s ih =>
    rw [stays_concat, after_append]
    exact ih.turn (step_turn ((callable_start g).after past) s)

end Session

/-! ## How a stay ends -/

/-- Only a call that tears a level down can end a load. -/
theorem Call.heard?_of_apply_eq_none {c : Call} {lib : Library} (h : (c.apply lib).1 = none) :
    ∃ level, c.heard? = some (.stop, level) := by
  rcases hc : c.heard? with _ | ⟨_ | _, level⟩
  · rw [apply_of_heard?_eq_none hc] at h
    cases h
  · rw [apply_of_start hc] at h
    cases h
  · exact ⟨level, rfl⟩

/-- Only a call that tears a level down ends a load. -/
theorem Library.Releases.heard?_eq_some {lib : Library} {past : List Call} {c : Call}
    (h : lib.Releases past c) : ∃ level, c.heard? = some (.stop, level) := by
  obtain ⟨now, hnow⟩ := Option.isSome_iff_exists.mp h.1
  have hnone := h.2
  rw [after_concat, hnow, Option.bind_some] at hnone
  exact Call.heard?_of_apply_eq_none hnone

namespace Stay

variable {t : Stay} {s : Step} {rest : List Step}

/-- A load is ended by a call on its own slot, which releases it. -/
theorem isEndedBy_iff :
    t.isEndedBy s = true ↔ ∃ c, s = .call t.slot c ∧ t.library.Releases t.calls c := by
  constructor
  · intro h
    obtain ⟨hopen, hover⟩ := (Bool.and_eq_true _ _).mp h
    rcases hs : s.callOn? t.slot with _ | c
    · rw [hear_of_none hs, hopen] at hover
      cases hover
    · refine ⟨c, Step.callOn?_eq_some hs, hopen, ?_⟩
      rw [isOpen, state, hear, callsOn_singleton, hs] at hover
      simpa using hover
  · rintro ⟨c, rfl, hopen, hover⟩
    have hstate : (t.hear [.call t.slot c]).state = none := by
      rw [state, hear, callsOn_singleton, Step.callOn?_call_self]
      exact hover
    rw [isEndedBy, isOpen, isOpen, hstate]
    exact (Bool.and_true _).trans hopen

/-- A new load is ended by a call on its own slot, which releases it after the calls made there. -/
theorem isEndedBy_hear_iff (hnew : t.calls = []) :
    (t.hear rest).isEndedBy s = true ↔
      ∃ c, s = .call t.slot c ∧ t.library.Releases (callsOn t.slot rest) c := by
  rw [isEndedBy_iff, hear, hnew, List.nil_append]

/-- A load that is open after a row of steps was open before. -/
theorem isOpen_of_hear_row (h : (t.hear rest).isOpen = true) : t.isOpen = true := by
  induction rest using List.reverseRecOn with
  | nil => rwa [hear_nil] at h
  | append_singleton past s ih =>
    rw [hear_append] at h
    exact ih (isOpen_of_hear h)

/-- A load that is over by the end of a row of steps was ended by one of them. -/
theorem exists_isEndedBy (hopen : t.isOpen = true) (hover : (t.hear rest).isOpen = false) :
    ∃ mid s later, rest = mid ++ s :: later ∧ (t.hear mid).isEndedBy s = true := by
  induction rest using List.reverseRecOn with
  | nil =>
    rw [hear_nil, hopen] at hover
    cases hover
  | append_singleton past s ih =>
    rcases hpast : (t.hear past).isOpen with _ | _
    · obtain ⟨mid, d, later, rfl, hd⟩ := ih hpast
      exact ⟨mid, d, later ++ [s], by simp, hd⟩
    · refine ⟨past, s, [], rfl, ?_⟩
      rw [hear_append] at hover
      rw [isEndedBy, hpast, hover]
      rfl

/-- No step comes after the one that ends a load and ends it again. -/
theorem not_isEndedBy_later {mid later : List Step} {d : Step}
    (h : (t.hear mid).isEndedBy s = true) :
    (t.hear (mid ++ s :: later)).isEndedBy d = false := by
  have hover : (t.hear (mid ++ s :: later)).isOpen = false := by
    rw [List.append_cons, hear_append, hear_append]
    refine eq_false_of_ne_true fun hopen => ?_
    have hnow := isOpen_of_hear_row hopen
    rw [isEndedBy, hnow, Bool.not_true, Bool.and_false] at h
    cases h
  rw [isEndedBy, hover, Bool.false_and]

/-- A load is ended once. -/
theorem isEndedBy_unique {mid later mid' later' : List Step} {d : Step}
    (hsplit : mid ++ s :: later = mid' ++ d :: later') (hs : (t.hear mid).isEndedBy s = true)
    (hd : (t.hear mid').isEndedBy d = true) : mid = mid' := by
  -- if the two places differ, the later one comes after the load has been ended
  rcases List.append_eq_append_iff.mp hsplit with ⟨between, hmid, htail⟩ | ⟨between, hmid, htail⟩
  · rcases between with _ | ⟨x, between⟩
    · rw [hmid, List.append_nil]
    · obtain ⟨rfl, -⟩ := List.cons.inj htail
      rw [hmid, not_isEndedBy_later hs] at hd
      cases hd
  · rcases between with _ | ⟨x, between⟩
    · rw [hmid, List.append_nil]
    · obtain ⟨rfl, -⟩ := List.cons.inj htail
      rw [hmid, not_isEndedBy_later hd] at hs
      cases hs

end Stay

/-! ## The number of live loads -/

namespace Session

variable {p : Session} {stays : List Stay} {s : Step}

theorem calls_of_begins? {t : Stay} (h : p.begins? s = some t) : t.calls = [] := by
  cases s with
  | load i r =>
    obtain ⟨lib, -, rfl⟩ := Option.map_eq_some_iff.mp h
    rfl
  | _ => cases h

theorem isOpen_of_begins? {t : Stay} (h : p.begins? s = some t) : t.isOpen = true := by
  rw [Stay.isOpen, Stay.state, calls_of_begins? h]
  rfl

/-- A step ends at most one load: each slot holds no more. -/
theorem Accounts.ended_le_one (h : p.Accounts stays) (s : Step) :
    stays.countP (Stay.isEndedBy s) ≤ 1 := by
  by_cases hcall : ∃ i c, s = .call i c
  · obtain ⟨i, c, rfl⟩ := hcall
    have hin : ∀ t ∈ stays, t.isEndedBy (.call i c) = true → (t.stateIn? i).isSome = true := by
      intro t _ ht
      obtain ⟨d, hd, hopen, -⟩ := Stay.isEndedBy_iff.mp ht
      obtain ⟨rfl, -⟩ := Step.call.inj hd
      rw [Stay.stateIn?_slot]
      exact hopen
    calc stays.countP (Stay.isEndedBy (.call i c))
        ≤ stays.countP fun t => (t.stateIn? i).isSome := List.countP_mono_left hin
      _ = (stays.filterMap (Stay.stateIn? i)).length := List.length_filterMap_eq_countP.symm
      _ = (p.slots i).library.toList.length := by rw [h.held]
      _ ≤ 1 := by rcases (p.slots i).library with _ | lib <;> simp
  · have hnone : stays.countP (Stay.isEndedBy s) = 0 := by
      refine List.countP_eq_zero.mpr fun t _ ht => ?_
      obtain ⟨c, hc, -⟩ := Stay.isEndedBy_iff.mp ht
      exact hcall ⟨_, c, hc⟩
    omega

/-- Each step counts the load that it begins, if any, and no longer the one that it ends. -/
theorem live_balance (g : Logging) (past : List Step) (s : Step) :
    ((start g).after (past ++ [s])).live + ((start g).stays past).countP (Stay.isEndedBy s) =
      ((start g).after past).live + (((start g).after past).begins? s).toList.length := by
  have hbegun : (((start g).after past).begins? s).toList.countP Stay.isOpen =
      (((start g).after past).begins? s).toList.length := by
    refine List.countP_eq_length.mpr fun t ht => isOpen_of_begins? (Option.mem_toList.mp ht)
  rw [(accounts_stays g _).live, (accounts_stays g past).live, stays_concat, List.countP_append,
    hbegun, countP_isOpen_hear ((start g).stays past) s]
  omega

/-- A load that began is in the books from then on. -/
theorem hear_mem_stays {past mid : List Step} {t : Stay} (h : (p.after past).begins? s = some t) :
    t.hear mid ∈ p.stays (past ++ s :: mid) := by
  rw [stays_append, stays, h]
  simp

/-- The step that ends a load lowers the number of live loads by one. -/
theorem live_of_isEndedBy {g : Logging} {past mid : List Step} {d : Step} {t : Stay}
    (hbegins : ((start g).after past).begins? s = some t)
    (hended : (t.hear mid).isEndedBy d = true) :
    ((start g).after (past ++ s :: (mid ++ [d]))).live + 1 =
      ((start g).after (past ++ s :: mid)).live := by
  -- the load is among those that the step ends, and there is no other
  have hone : ((start g).stays (past ++ s :: mid)).countP (Stay.isEndedBy d) = 1 :=
    Nat.le_antisymm ((accounts_stays g _).ended_le_one d)
      (List.countP_pos_iff.mpr ⟨_, hear_mem_stays hbegins, hended⟩)
  obtain ⟨c, rfl, -⟩ := Stay.isEndedBy_iff.mp hended
  have hbalance := live_balance g (past ++ s :: mid) (.call (t.hear mid).slot c)
  rw [hone, begins?_call, List.append_assoc, List.cons_append] at hbalance
  exact hbalance

end Session

/-- **The number of live loads is right.** Take any log and any row of steps from the start of a
process: loads into any slots, granted or not, and calls on them, of any kind and in any order. The
number of live loads is the number of loads that succeeded and are not over. With each step it goes
up by one for a load that succeeds and down by one for a load that the step ends, of which there is
at most one; as a sum this also says that it is never taken below zero. And each load that is over
was ended by one step and no other: a call on its own slot that tears a level down, and that lowers
the number by one. -/
theorem live_eq_open_loads (g : Logging) :
    (∀ steps, ((Session.start g).after steps).live =
      ((Session.start g).stays steps).countP Stay.isOpen) ∧
    (∀ past s,
      ((Session.start g).after (past ++ [s])).live +
          ((Session.start g).stays past).countP (Stay.isEndedBy s) =
        ((Session.start g).after past).live +
          (((Session.start g).after past).begins? s).toList.length ∧
      ((Session.start g).stays past).countP (Stay.isEndedBy s) ≤ 1) ∧
    ∀ past s t rest, ((Session.start g).after past).begins? s = some t →
      (t.hear rest).isOpen = false →
      ∃! mid, ∃ c level later, rest = mid ++ .call t.slot c :: later ∧
        c.heard? = some (.stop, level) ∧ t.library.Releases (callsOn t.slot mid) c ∧
        ((Session.start g).after (past ++ s :: (mid ++ [.call t.slot c]))).live + 1 =
          ((Session.start g).after (past ++ s :: mid)).live := by
  refine ⟨fun steps => (Session.accounts_stays g steps).live, fun past s =>
    ⟨Session.live_balance g past s, (Session.accounts_stays g past).ended_le_one s⟩, ?_⟩
  intro past s t rest hbegins hover
  have hnew := Session.calls_of_begins? hbegins
  obtain ⟨mid, d, later, rfl, hended⟩ :=
    Stay.exists_isEndedBy (Session.isOpen_of_begins? hbegins) hover
  obtain ⟨c, rfl, hreleases⟩ := (Stay.isEndedBy_hear_iff hnew).mp hended
  obtain ⟨level, hlevel⟩ := hreleases.heard?_eq_some
  refine ⟨mid, ⟨c, level, later, rfl, hlevel, hreleases,
    Session.live_of_isEndedBy hbegins hended⟩, ?_⟩
  rintro mid' ⟨c', -, later', hsplit, -, hreleases', -⟩
  exact Stay.isEndedBy_unique hsplit.symm
    ((Stay.isEndedBy_hear_iff hnew).mpr ⟨c', rfl, hreleases'⟩) hended

/-- What happens after a first load: another one succeeds, a third fails, and calls go back and
forth until the first load is over. -/
def Step.untilFirstLoadEnds : List Step :=
  [.load 1 .panicking, .load 2 { Request.panicking with initializer := none },
    .call 0 (.up .scene), .call 1 (.up .core), .call 0 ⟨.stop, 7, false⟩, .call 0 (.down .editor),
    .call 0 (.down .scene), .call 0 (.down .core), .call 1 (.down .servers)]

/-- One of two loads that succeeded is over, and one call has counted it down. -/
theorem live_eq_open_loads_one_over :
    ((Session.start .recording).after (.load 0 .panicking :: Step.untilFirstLoadEnds)).live = 1 ∧
    ((Session.start .recording).stays (.load 0 .panicking :: Step.untilFirstLoadEnds)).countP
      Stay.isOpen = 1 ∧
    ∃ t, (Session.start .recording).begins? (.load 0 .panicking) = some t ∧
      (t.hear Step.untilFirstLoadEnds).isOpen = false ∧
      ∃ mid c level later, Step.untilFirstLoadEnds = mid ++ .call 0 c :: later ∧
        c.heard? = some (.stop, level) ∧
        ((Session.start .recording).after (.load 0 .panicking :: (mid ++ [.call 0 c]))).live + 1 =
          ((Session.start .recording).after (.load 0 .panicking :: mid)).live := by
  obtain ⟨hlive, -, hended⟩ := live_eq_open_loads .recording
  obtain ⟨mid, ⟨c, level, later, hsplit, hlevel, -, hdown⟩, -⟩ :=
    hended [] (.load 0 .panicking) _ Step.untilFirstLoadEnds rfl rfl
  have hone : ((Session.start .recording).stays
      (.load 0 .panicking :: Step.untilFirstLoadEnds)).countP Stay.isOpen = 1 := rfl
  exact ⟨(hlive _).trans hone, hone, _, rfl, rfl, mid, c, level, later, hsplit, hlevel, hdown⟩

end EngineExtension
