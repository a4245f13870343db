import EngineExtension.Proofs.Registry
import EngineExtension.Proofs.Run

/-!
# Registering and unregistering alternate

What a load does to its registry can be read off what it sends: one notice for every class taken in
and one for every class taken out, by whichever hand. This module follows these notices for one name
at a time.

* `ClassEvent`, `classEvents` — a class taken in or out, and all such events among signals;
* `story` — the events of one name; `Alternates` — in and out by turns, the same class each time;
* `Tracks` — the invariant: every story alternates, and the classes registered are those whose
  story ends with their being taken in;
* `Library.Sees` — all points of a run at which the registry can be looked at, inside callbacks
  (`Program.cut`) as well as between calls.
-/

namespace EngineExtension

/-! ## Events -/

/-- A change to a registry. -/
inductive ClassEvent where
  /-- a class was taken in -/
  | added (e : ClassEntry)
  /-- a class was taken out -/
  | removed (e : ClassEntry)
  deriving DecidableEq, Repr

/-- The class that an event is about. -/
def ClassEvent.entry : ClassEvent → ClassEntry
  | added e => e
  | removed e => e

@[simp] theorem ClassEvent.entry_added (e : ClassEntry) : (added e).entry = e := rfl

@[simp] theorem ClassEvent.entry_removed (e : ClassEntry) : (removed e).entry = e := rfl

/-- The change to a registry that a signal tells of. -/
def Signal.classEvent? : Signal → Option ClassEvent
  | notice (.registered e) => some (.added e)
  | notice (.unregistered e) => some (.removed e)
  | _ => none

/-- The changes to a registry that signals tell of, in order. -/
def classEvents (sent : List Signal) : List ClassEvent := sent.filterMap Signal.classEvent?

@[simp] theorem classEvents_nil : classEvents [] = [] := rfl

/-- The events of two stretches are the events of one after those of the other. -/
@[simp] theorem classEvents_append (xs ys : List Signal) :
    classEvents (xs ++ ys) = classEvents xs ++ classEvents ys := List.filterMap_append

/-- Signals that tell of no change may be left out. -/
theorem classEvents_cons_of_none {s : Signal} (h : s.classEvent? = none)
    (sent : List Signal) : classEvents (s :: sent) = classEvents sent := List.filterMap_cons_none h

/-- Notices that classes are gone are the events of their going. -/
@[simp] theorem classEvents_unregistered (gone : List ClassEntry) :
    classEvents (gone.map fun e => .notice (.unregistered e)) = gone.map .removed := by
  rw [classEvents, List.filterMap_map]
  exact congrFun List.filterMap_eq_map gone

/-- A panic is no event of a class. -/
@[simp] theorem classEvents_panicNotice {α : Type} (o : Program.Outcome α) (role : Role)
    (level : Level) : classEvents (o.panicNotice role level) = [] := by
  rw [Program.Outcome.panicNotice]
  split <;> rfl

/-- Where nothing is noticed, nothing happens to a class. -/
theorem classEvents_of_no_notice {sent : List Signal} (h : ∀ n, .notice n ∉ sent) :
    classEvents sent = [] := by
  refine List.filterMap_eq_nil_iff.mpr fun s hs => ?_
  cases s with
  | notice n => exact absurd hs (h n)
  | _ => rfl

/-- What a call that is not heard tells of. -/
theorem Call.classEvents_of_unheard {c : Call} (hc : c.heard? = none) (lib : Library) :
    classEvents (c.apply lib).2 = [] := by
  rw [apply_of_heard?_eq_none hc]
  split <;> rfl

/-- What a call tells of that brings a level up: all that the initializer does. -/
theorem Call.classEvents_of_start {c : Call} {level : Level} (hc : c.heard? = some (.start, level))
    (lib : Library) :
    classEvents (c.apply lib).2 = classEvents (lib.starting level).signals := by
  rw [apply_of_start hc, Library.start_sent, classEvents_cons_of_none rfl]
  simp

/-- What a call tells of that tears a level down: all that the terminator does, and then that the
classes of the level go. -/
theorem Call.classEvents_of_stop {c : Call} {level : Level} (hc : c.heard? = some (.stop, level))
    (lib : Library) :
    classEvents (c.apply lib).2 = classEvents (lib.stopping level).signals ++
      ((lib.stopping level).registry.unregister level).1.map .removed := by
  have hreleasing : classEvents [.notice (.releasing level)] = [] := rfl
  rw [apply_of_stop hc, Library.stop_sent]
  split
  · rw [List.cons_append, classEvents_cons_of_none rfl]
    simp [hreleasing]
  · rw [classEvents_cons_of_none rfl]
    simp

/-! ## Stories that alternate -/

/-- What happened to one name. -/
def story (name : String) (events : List ClassEvent) : List ClassEvent :=
  events.filter (·.entry.name = name)

/-- A class is taken in first, each class taken out is the one taken in just before, and each class
taken in after the first follows one that was taken out. -/
def Alternates : List ClassEvent → Prop
  | [] => True
  | [.added _] => True
  | .added a :: .removed b :: rest => b = a ∧ Alternates rest
  | _ => False

/-- An event of a class goes on with its story. -/
theorem story_concat_self (events : List ClassEvent) (x : ClassEvent) :
    story x.entry.name (events ++ [x]) = story x.entry.name events ++ [x] := by
  simp [story, List.filter_append]

/-- An event of another class leaves the story alone. -/
theorem story_concat_of_ne {name : String} (events : List ClassEvent) {x : ClassEvent}
    (h : x.entry.name ≠ name) : story name (events ++ [x]) = story name events := by
  simp [story, List.filter_append, h]

/-- A pair of events in front does not change which event is the last. -/
theorem getLast?_pair {a b : ClassEvent} {rest : List ClassEvent} {x : ClassEvent}
    (h : rest.getLast? = some x) : (a :: b :: rest).getLast? = some x := by
  simp [List.getLast?_cons, h]

/-- A class that is not there can be taken in. -/
theorem Alternates.concat_added {events : List ClassEvent} {a : ClassEntry}
    (h : Alternates events) (hlast : ∀ e, events.getLast? ≠ some (.added e)) :
    Alternates (events ++ [.added a]) := by
  fun_induction Alternates events with
  | case1 => trivial
  | case2 e => exact absurd rfl (hlast e)
  | case3 e d rest ih =>
    exact ⟨h.1, ih h.2 fun e hr => hlast e (getLast?_pair hr)⟩
  | case4 => exact h.elim

/-- A class that is there can go, as the entry it was taken in as. -/
theorem Alternates.concat_removed {events : List ClassEvent} {a : ClassEntry}
    (h : Alternates events) (hlast : events.getLast? = some (.added a)) :
    Alternates (events ++ [.removed a]) := by
  fun_induction Alternates events with
  | case1 => cases hlast
  | case2 e =>
    obtain rfl : e = a := by simpa using hlast
    exact ⟨rfl, trivial⟩
  | case3 e d rest ih =>
    refine ⟨h.1, ih h.2 ?_⟩
    rcases rest with _ | ⟨x, rest⟩
    · simp at hlast
    · simpa [List.getLast?_cons_cons] using hlast
  | case4 => exact h.elim

/-! ## The invariant -/

/-- Events account for a list of classes: no name is taken twice, every story alternates, and a
class is on the list exactly when its story ends with its being taken in. -/
structure Tracks (events : List ClassEvent) (es : List ClassEntry) : Prop where
  nodup : (es.map (·.name)).Nodup
  alternates : ∀ name, Alternates (story name events)
  held : ∀ e, e ∈ es ↔ (story e.name events).getLast? = some (.added e)

namespace Tracks

variable {events : List ClassEvent} {es older newer : List ClassEntry} {e : ClassEntry}

theorem nil : Tracks [] [] := ⟨List.nodup_nil, fun _ => trivial, by simp [story]⟩

/-- A name whose story ends with a class being taken in is the name of a class on the list. -/
theorem mem_of_getLast? (h : Tracks events es) {name : String}
    (hlast : (story name events).getLast? = some (.added e)) : e ∈ es ∧ e.name = name := by
  have hname : e.name = name :=
    of_decide_eq_true (List.mem_filter.mp (List.mem_of_getLast? hlast)).2
  refine ⟨(h.held e).mpr ?_, hname⟩
  rw [hname]
  exact hlast

/-- One more event. Only the story of its own name goes on, and only classes of that name come or
go. -/
theorem concat {es' : List ClassEntry} (h : Tracks events es) (x : ClassEvent)
    (hnodup : (es'.map (·.name)).Nodup)
    (halternates : Alternates (story x.entry.name events ++ [x]))
    (hself : ∀ d, d.name = x.entry.name → (d ∈ es' ↔ x = .added d))
    (hother : ∀ d, d.name ≠ x.entry.name → (d ∈ es' ↔ d ∈ es)) :
    Tracks (events ++ [x]) es' := by
  refine ⟨hnodup, fun name => ?_, fun d => ?_⟩
  · by_cases hname : x.entry.name = name
    · subst hname
      rw [story_concat_self]
      exact halternates
    · rw [story_concat_of_ne events hname]
      exact h.alternates name
  · by_cases hname : x.entry.name = d.name
    · rw [hself d hname.symm, ← hname, story_concat_self, List.getLast?_concat, Option.some_inj]
    · rw [hother d (Ne.symm hname), h.held d, story_concat_of_ne events hname]

/-- A class is taken in under a name that is free. -/
theorem add (h : Tracks events es) (hfree : ∀ d ∈ es, d.name ≠ e.name) :
    Tracks (events ++ [.added e]) (es ++ [e]) := by
  refine h.concat (.added e) ?_ ?_ ?_ ?_
  · rw [List.map_append, List.nodup_append]
    exact ⟨h.nodup, by simp, by simpa using hfree⟩
  · -- a story that ended with a class taken in would mean that the name is taken
    refine (h.alternates e.name).concat_added fun d hlast => ?_
    obtain ⟨hd, hname⟩ := h.mem_of_getLast? hlast
    exact hfree d hd hname
  · intro d hname
    have hd : d ∉ es := fun hd => hfree d hd hname
    simp [hd, eq_comm]
  · intro d hname
    have hd : d ≠ e := fun hd => hname (by rw [hd]; rfl)
    simp [hd]

/-- A class on the list is taken out. -/
theorem remove (h : Tracks events (older ++ e :: newer)) :
    Tracks (events ++ [.removed e]) (older ++ newer) := by
  have hperm : ((older ++ e :: newer).map (·.name)).Perm ((e :: (older ++ newer)).map (·.name)) :=
    List.perm_middle.map _
  obtain ⟨hgone, hnodup⟩ := List.nodup_cons.mp (hperm.nodup_iff.mp h.nodup)
  refine h.concat (.removed e) hnodup ?_ ?_ ?_
  · exact (h.alternates e.name).concat_removed ((h.held e).mp (by simp))
  · -- names are taken once, so no other class of that name stays behind
    intro d hname
    have hd : d ∉ older ++ newer := fun hd => hgone (List.mem_map.mpr ⟨d, hd, hname⟩)
    simpa using hd
  · intro d hname
    have hd : d ≠ e := fun hd => hname (by rw [hd]; rfl)
    simp [hd]

/-- A level is unregistered, one class at a time. -/
theorem clear (level : Level) (h : Tracks events es) :
    Tracks (events ++ (Registry.clear level es).1.map .removed) (Registry.clear level es).2 := by
  fun_induction Registry.clear level es generalizing events with
  | case1 es hes => simpa using h
  | case2 es e rest hes gone left hclear ih =>
    obtain ⟨older, newer, rfl, rfl, -, -⟩ := Registry.removeNewest?_eq_some hes
    have hrest := ih h.remove
    rw [hclear, List.append_assoc] at hrest
    exact hrest

/-- The invariant is kept by every command of a callback. -/
theorem exec {sent : List Signal} {r : Registry} (h : Tracks (classEvents sent) r.entries)
    (c : Command) :
    Tracks (classEvents (sent ++ (c.exec r).signals)) (c.exec r).registry.entries := by
  rcases c.exec_cases r with ⟨hc, hsent⟩ | ⟨d, e, hplace, hc, hsent⟩ | ⟨level, hc, hsent⟩
  · rw [hc, classEvents_append, classEvents_of_no_notice hsent, List.append_nil]
    exact h
  · obtain ⟨-, -, hfree⟩ := Registry.place_eq_ok hplace
    rw [hc, hsent, classEvents_append]
    exact h.add hfree
  · rw [hc, hsent, classEvents_append, classEvents_unregistered]
    exact h.clear level

/-- The invariant is kept by every callback. -/
theorem run {α : Type} {sent : List Signal} {r : Registry}
    (h : Tracks (classEvents sent) r.entries) (p : Program α) :
    Tracks (classEvents (sent ++ (p.run r).signals)) (p.run r).registry.entries :=
  Program.run_keeps (P := fun sent r => Tracks (classEvents sent) r.entries)
    (fun c _ _ h => h.exec c) p h

/-- A callback at a level keeps events and list in step: entering the level touches neither. -/
theorem run_enter {α : Type} {sent : List Signal} {r : Registry}
    (h : Tracks (classEvents sent) r.entries) (p : Program α) (level : Level) :
    Tracks (classEvents (sent ++ (p.run (r.enter level)).signals))
      (p.run (r.enter level)).registry.entries := run (r := r.enter level) h p

/-- The names taken are those whose story ends with a class being taken in. -/
theorem has_iff {r : Registry} (h : Tracks events r.entries) (name : String) :
    r.has name ↔ ∃ e, (story name events).getLast? = some (.added e) := by
  rw [Registry.has, List.any_eq_true]
  constructor
  · rintro ⟨e, he, hname⟩
    obtain rfl : e.name = name := of_decide_eq_true hname
    exact ⟨e, (h.held e).mp he⟩
  · rintro ⟨e, hlast⟩
    obtain ⟨he, hname⟩ := h.mem_of_getLast? hlast
    exact ⟨e, he, decide_eq_true hname⟩

end Tracks

/-! ## Along a run -/

namespace Library

variable {lib now : Library} {calls : List Call}

/-- The invariant is kept by every call, whatever the callbacks do. -/
theorem tracks_leaves {sent : List Signal} (h : Tracks (classEvents sent) now.registry.entries)
    (c : Call) :
    Tracks (classEvents (sent ++ (c.apply now).2)) (c.leaves now).registry.entries := by
  rcases hc : c.heard? with _ | ⟨_ | _, level⟩
  · rw [Call.leaves_of_heard?_eq_none hc, classEvents_append, Call.classEvents_of_unheard hc,
      List.append_nil]
    exact h
  · rw [Call.leaves_of_start hc, start_registry, classEvents_append, Call.classEvents_of_start hc,
      ← classEvents_append]
    exact h.run_enter (now.initializer level) level
  · -- the terminator may still register; the level's classes go after it, its own among them
    rw [Call.leaves_of_stop hc, stop_registry, classEvents_append, Call.classEvents_of_stop hc,
      ← List.append_assoc, ← classEvents_append]
    exact (h.run_enter (now.termination level) level).clear level

/-- At every state along the calls of a load, the events so far and the list are in step. -/
theorem tracks (hnew : lib.registry = {}) (h : lib.Reaches calls now) :
    Tracks (classEvents (lib.sent calls)) now.registry.entries := by
  refine run_keeps (P := fun _ now sent => Tracks (classEvents sent) now.registry.entries) ?_ ?_ h
  · rw [hnew]
    exact .nil
  · exact fun _ _ _ c hpast => tracks_leaves hpast c

end Library

/-! ## Inside callbacks -/

namespace Program

variable {α : Type}

/-- The first commands of a program, with a panic instead of the rest. -/
def cut : Nat → Program α → Program α
  | 0, _ => panic
  | _ + 1, done a => done a
  | _ + 1, panic => panic
  | k + 1, perform c next => perform c fun answer => (next answer).cut k

/-- A program that is cut sends the beginning of what it sends uncut. -/
theorem cut_sent_isPrefix (k : Nat) (p : Program α) (r : Registry) :
    ((p.cut k).run r).signals <+: (p.run r).signals := by
  induction p generalizing k r with
  | done a => cases k <;> exact List.nil_prefix
  | panic => cases k <;> exact List.nil_prefix
  | perform c next ih =>
    cases k with
    | zero => exact List.nil_prefix
    | succ k => exact (List.prefix_append_right_inj _).mpr (ih _ k _)

end Program

/-- What can be seen of a registry along a run, with all that was sent up to then. -/
inductive Library.Sees (lib : Library) : List Signal → Registry → Prop where
  /-- between two calls, and before the state is given up -/
  | between {calls : List Call} {now : Library} (h : lib.Reaches calls now) :
    Sees lib (lib.sent calls) now.registry
  /-- inside the initializer, after some of its commands -/
  | starting {calls : List Call} {now : Library} (h : lib.after calls = some now) (level : Level)
    (k : Nat) :
    Sees lib
      (lib.sent calls ++ .notice (.starting level) ::
        (((now.initializer level).cut k).run (now.registry.enter level)).signals)
      (((now.initializer level).cut k).run (now.registry.enter level)).registry
  /-- inside the terminator, after some of its commands -/
  | stopping {calls : List Call} {now : Library} (h : lib.after calls = some now) (level : Level)
    (k : Nat) :
    Sees lib
      (lib.sent calls ++ .notice (.stopping level) ::
        (((now.termination level).cut k).run (now.registry.enter level)).signals)
      (((now.termination level).cut k).run (now.registry.enter level)).registry

/-- Whatever is seen is seen on a run: what was sent up to then is the beginning of what some calls
make the load send. -/
theorem Library.Sees.exists_isPrefix {lib : Library} {sent : List Signal} {registry : Registry}
    (h : lib.Sees sent registry) : ∃ calls, sent <+: lib.sent calls := by
  cases h with
  | between => exact ⟨_, List.prefix_rfl⟩
  | @starting calls now h level k =>
    refine ⟨calls ++ [.up level], ?_⟩
    rw [sent_concat h, Call.apply_of_start (Call.heard?_up level), start_sent]
    refine (List.prefix_append_right_inj _).mpr (List.cons_prefix_cons.mpr ⟨rfl, ?_⟩)
    exact (Program.cut_sent_isPrefix k _ _).trans (List.prefix_append _ _)
  | @stopping calls now h level k =>
    -- the terminator comes first in either branch, whether the call ends the load or not
    have hstop : (((now.termination level).cut k).run (now.registry.enter level)).signals <+:
        (now.stop level).2 := by
      rw [stop_sent, List.append_assoc]
      exact (Program.cut_sent_isPrefix k _ _).trans (List.prefix_append _ _)
    refine ⟨calls ++ [.down level], ?_⟩
    rw [sent_concat h, Call.apply_of_stop (Call.heard?_down level)]
    refine (List.prefix_append_right_inj _).mpr ?_
    split
    · exact List.cons_prefix_cons.mpr ⟨rfl, hstop.trans (List.prefix_append _ _)⟩
    · exact List.cons_prefix_cons.mpr ⟨rfl, hstop⟩

/-- So they are at every point inside a callback. -/
theorem Library.Sees.tracks {lib : Library} {sent : List Signal} {registry : Registry}
    (h : lib.Sees sent registry) (hnew : lib.registry = {}) :
    Tracks (classEvents sent) registry.entries := by
  cases h with
  | between h => exact Library.tracks hnew h
  | starting h level k =>
    rw [classEvents_append, classEvents_cons_of_none rfl, ← classEvents_append]
    exact (Library.tracks hnew (reaches_of_after h)).run_enter _ level
  | stopping h level k =>
    rw [classEvents_append, classEvents_cons_of_none rfl, ← classEvents_append]
    exact (Library.tracks hnew (reaches_of_after h)).run_enter _ level

/-- **Registering and unregistering alternate.** Take any successful load, with any callbacks, and
any name. Whatever is called, the classes of that name are taken in and out by turns, and the one
taken out is always the one taken in last, at the same level. Wherever the registry can be looked at
along a run, the name is taken exactly when the last thing that happened to it up to then was that a
class was taken in. -/
theorem load_classes_alternate {r : Request} {lib : Library} (hload : r.load.result = .ok lib)
    (name : String) :
    (∀ calls, Alternates (story name (classEvents (lib.sent calls)))) ∧
      ∀ sent registry, lib.Sees sent registry →
        (∃ calls, sent <+: lib.sent calls) ∧
          Alternates (story name (classEvents sent)) ∧
          (registry.has name ↔
            ∃ e, (story name (classEvents sent)).getLast? = some (.added e)) := by
  have hnew := Request.registry_of_load hload
  refine ⟨fun calls => ?_, fun sent registry hsees => ?_⟩
  · obtain ⟨past, -, now, -, hnow, hsent⟩ := lib.exists_reaches calls
    rw [hsent]
    exact (Library.tracks hnew hnow).alternates name
  · have htracks := hsees.tracks hnew
    exact ⟨hsees.exists_isPrefix, htracks.alternates name, htracks.has_iff name⟩

/-- Calls that take a class in at one level, out with that level, and in again at another. -/
def Call.thereAndBack : List Call := [.up .scene, .up .core, .down .scene, .up .editor]

/-- A class registered by an initializer that then panics goes with its level and comes back at
another. In between its name is free, and in the end it is taken, as its story says. -/
theorem load_classes_alternate_panicking :
    ∃ lib free now, Request.panicking.load.result = .ok lib ∧
      lib.after (Call.thereAndBack.take 3) = some free ∧ free.registry.has "Actor" = false ∧
      lib.after Call.thereAndBack = some now ∧ now.registry.has "Actor" ∧
      Alternates (story "Actor" (classEvents (lib.sent Call.thereAndBack))) ∧
      story "Actor" (classEvents (lib.sent Call.thereAndBack)) =
        [.added ⟨⟨"Actor", "Node", .abstract⟩, .scene⟩,
          .removed ⟨⟨"Actor", "Node", .abstract⟩, .scene⟩,
          .added ⟨⟨"Actor", "Node", .abstract⟩, .editor⟩] := by
  obtain ⟨lib, free, now, hload, hfree, hnow, hgone, hback⟩ : ∃ lib free now,
      Request.panicking.load.result = .ok lib ∧
      lib.after (Call.thereAndBack.take 3) = some free ∧ lib.after Call.thereAndBack = some now ∧
      story "Actor" (classEvents (lib.sent (Call.thereAndBack.take 3))) =
        [.added ⟨⟨"Actor", "Node", .abstract⟩, .scene⟩,
          .removed ⟨⟨"Actor", "Node", .abstract⟩, .scene⟩] ∧
      story "Actor" (classEvents (lib.sent Call.thereAndBack)) =
        [.added ⟨⟨"Actor", "Node", .abstract⟩, .scene⟩,
          .removed ⟨⟨"Actor", "Node", .abstract⟩, .scene⟩,
          .added ⟨⟨"Actor", "Node", .abstract⟩, .editor⟩] :=
    ⟨_, _, _, rfl, rfl, rfl, by decide +kernel, by decide +kernel⟩
  obtain ⟨-, hsees⟩ := load_classes_alternate hload "Actor"
  obtain ⟨-, -, hhasnot⟩ := hsees _ _ (.between (Library.reaches_of_after hfree))
  obtain ⟨-, halternates, hhas⟩ := hsees _ _ (.between (Library.reaches_of_after hnow))
  rw [hgone] at hhasnot
  refine ⟨lib, free, now, hload, hfree, ?_, hnow, hhas.mpr ?_, halternates, hback⟩
  · rw [← Bool.not_eq_true, hhasnot]
    simp
  · rw [hback]
    exact ⟨_, rfl⟩

end EngineExtension
