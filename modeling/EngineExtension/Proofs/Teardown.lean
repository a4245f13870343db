import EngineExtension.Proofs.Alternation
import EngineExtension.Proofs.Leftovers
import EngineExtension.Proofs.Release

/-!
# Teardown mirrors startup

A class may build on one that was registered before it, so classes have to go in the opposite order.
Each level has its own turn, and in it only its own classes go; that the turns add up to one walk
backwards through all classes is due to the order in which the classes stand.

* `Registry.IsSorted` — classes of lower levels stand first. Bringing levels up in order keeps it
  so, whatever the initializer does (`Library.isSorted_of_climbs`);
* `Program.Spares` — a program that leaves the registry alone;
* `Level.downTo` — the levels of a teardown; tearing these down one after the other takes the
  classes from the end (`Library.walk`).
-/

namespace EngineExtension

/-! ## Classes in the order of their levels -/

/-- Classes of a lower level stand before those of a higher one. -/
def Registry.IsSorted (r : Registry) : Prop := r.entries.Pairwise (·.level ≤ ·.level)

/-- A callback keeps classes in order if none of them is of a level above its own. -/
theorem Program.run_isSorted {α : Type} (p : Program α) {r : Registry} {level : Level}
    (hlevel : r.level = some level) (hsorted : r.IsSorted)
    (htop : ∀ e ∈ r.entries, e.level ≤ level) : (p.run r).registry.IsSorted := by
  refine (@run_keeps α (fun _ r => r.level = some level ∧ r.IsSorted ∧
    ∀ e ∈ r.entries, e.level ≤ level) ?_ p [] r ⟨hlevel, hsorted, htop⟩).2.1
  rintro c - r ⟨hlevel, hsorted, htop⟩
  rcases c.exec_cases r with ⟨hc, -⟩ | ⟨d, e, hplace, hc, -⟩ | ⟨l, hc, -⟩
  · rw [hc]
    exact ⟨hlevel, hsorted, htop⟩
  · -- a new class is of the callback's own level, so its place is at the end
    obtain ⟨-, he, -⟩ := Registry.place_eq_ok hplace
    obtain rfl : level = e.level := Option.some.inj (hlevel.symm.trans he)
    rw [hc]
    refine ⟨hlevel, ?_, ?_⟩
    · refine List.pairwise_append.mpr ⟨hsorted, List.pairwise_singleton _ _, ?_⟩
      intro a ha b hb
      rw [List.mem_singleton.mp hb]
      exact htop a ha
    · intro a ha
      rcases List.mem_append.mp ha with ha | ha
      · exact htop a ha
      · rw [List.mem_singleton.mp ha]
        exact Nat.le_refl _
  · rw [hc, Registry.IsSorted, Registry.unregister_level, Registry.unregister_entries]
    exact ⟨hlevel, hsorted.filter _, fun a ha => htop a (List.mem_filter.mp ha).1⟩

/-- Classes in order, none above a level: those of that level are the last. -/
theorem filter_append_filter_of_isSorted {es : List ClassEntry} {level : Level}
    (hsorted : es.Pairwise (·.level ≤ ·.level)) (htop : ∀ e ∈ es, e.level ≤ level) :
    es.filter (·.level ≠ level) ++ es.filter (·.level = level) = es := by
  induction es with
  | nil => rfl
  | cons e es ih =>
    obtain ⟨hfirst, hrest⟩ := List.pairwise_cons.mp hsorted
    by_cases he : e.level = level
    · -- the first class is of the top level already, and so are all others
      have hall : ∀ a ∈ e :: es, a.level = level := by
        intro a ha
        rcases List.mem_cons.mp ha with rfl | hmem
        · exact he
        · have hle : e.level.rank ≤ a.level.rank := hfirst a hmem
          rw [he] at hle
          exact Level.rank_injective (Nat.le_antisymm (htop a ha) hle)
      have hnone : (e :: es).filter (·.level ≠ level) = [] :=
        List.filter_eq_nil_iff.mpr (by simpa using hall)
      have hself : (e :: es).filter (·.level = level) = e :: es :=
        List.filter_eq_self.mpr (by simpa using hall)
      rw [hnone, hself, List.nil_append]
    · rw [List.filter_cons_of_pos (by simpa using he), List.filter_cons_of_neg (by simpa using he),
        List.cons_append, ih hrest fun a ha => htop a (List.mem_cons_of_mem e ha)]

/-! ## Bringing levels up in order -/

/-- Calls that only bring levels up, none of them after a higher one. -/
structure Climbs (calls : List Call) : Prop where
  starts : ∀ c ∈ calls, c.phase = .start
  ordered : (calls.filterMap Call.startLevel?).Pairwise (· ≤ ·)

/-- The beginning of a climb is a climb. -/
theorem Climbs.of_concat {past : List Call} {c : Call} (h : Climbs (past ++ [c])) :
    Climbs past := by
  refine ⟨fun d hd => h.starts d (List.mem_append_left _ hd), ?_⟩
  have hordered := h.ordered
  rw [List.filterMap_append] at hordered
  exact (List.pairwise_append.mp hordered).1

/-- No level is torn down in a climb. -/
theorem Climbs.heard?_ne_stop {calls : List Call} (h : Climbs calls) {c : Call} (hc : c ∈ calls)
    (level : Level) : c.heard? ≠ some (.stop, level) := by
  intro hstop
  obtain ⟨-, -, hphase⟩ := Call.heard?_eq_some hstop
  rw [h.starts c hc] at hphase
  cases hphase

/-- The level brought up last is none below those before. -/
theorem Climbs.le_last {past : List Call} {c : Call} {level : Level} (h : Climbs (past ++ [c]))
    (hc : c.heard? = some (.start, level)) {l : Level} (hl : StillUp past l) : l ≤ level := by
  obtain ⟨p, d, q, rfl, hd, -⟩ := hl
  have hordered := h.ordered
  rw [List.filterMap_append] at hordered
  refine (List.pairwise_append.mp hordered).2.2 l ?_ level ?_
  · exact List.mem_filterMap.mpr ⟨d, by simp, Call.startLevel?_eq_some.mpr hd⟩
  · exact List.mem_filterMap.mpr ⟨c, by simp, Call.startLevel?_eq_some.mpr hc⟩

namespace Library

variable {lib now : Library} {calls : List Call}

/-- A load lives through calls that only bring levels up. -/
theorem exists_after_of_climbs (hnew : lib.lowest = none) (hclimbs : Climbs calls) :
    ∃ now, lib.after calls = some now := by
  refine Option.isSome_iff_exists.mp ((after_isSome_iff hnew calls).mpr ?_)
  rintro past c rest rfl ⟨level, hstop, -⟩
  exact hclimbs.heard?_ne_stop (by simp) level hstop

/-- **Startup keeps classes in order.** -/
theorem isSorted_of_climbs (hnew : lib.registry = {}) (h : lib.Reaches calls now)
    (hclimbs : Climbs calls) : now.registry.IsSorted := by
  refine (run_keeps (P := fun calls now _ => (∀ e ∈ now.registry.entries, StillUp calls e.level) ∧
    (Climbs calls → now.registry.IsSorted)) ?_ ?_ h).2 hclimbs
  · rw [hnew]
    exact ⟨by simp, fun _ => List.Pairwise.nil⟩
  · rintro past now sent c ⟨hup, hsorted⟩
    rcases hc : c.heard? with _ | ⟨_ | _, level⟩
    · rw [Call.leaves_of_heard?_eq_none hc]
      exact ⟨fun e he => (hup e he).concat (by simp [hc]), fun h => hsorted h.of_concat⟩
    · rw [Call.leaves_of_start hc]
      refine ⟨levels_stillUp_start hc hup, fun h => ?_⟩
      rw [start_registry]
      exact Program.run_isSorted _ rfl (hsorted h.of_concat) fun e he => h.le_last hc (hup e he)
    · rw [Call.leaves_of_stop hc]
      exact ⟨levels_stillUp_stop hc hup, fun h => absurd hc (h.heard?_ne_stop (by simp) level)⟩

end Library

/-! ## The order of registration -/

/-- Taking out the classes of a level does not change the order of the others. -/
theorem Registry.unregister_added {r : Registry} {sent : List Signal} (level : Level)
    (h : (r.entries.map ClassEvent.added).Sublist (classEvents sent)) :
    ((r.unregister level).2.entries.map ClassEvent.added).Sublist
      (classEvents sent ++ (r.unregister level).1.map .removed) := by
  rw [unregister_entries]
  exact ((List.filter_sublist.map _).trans h).trans (List.sublist_append_left _ _)

/-- What a callback registers, it registers behind all classes that are there. -/
theorem Program.run_added {α : Type} (p : Program α) {r : Registry} {sent : List Signal}
    (h : (r.entries.map ClassEvent.added).Sublist (classEvents sent)) :
    ((p.run r).registry.entries.map ClassEvent.added).Sublist
      (classEvents (sent ++ (p.run r).signals)) := by
  refine run_keeps (P := fun sent r =>
    (r.entries.map ClassEvent.added).Sublist (classEvents sent)) ?_ p h
  intro c sent r h
  rw [classEvents_append]
  rcases c.exec_cases r with ⟨hc, -⟩ | ⟨d, e, -, hc, hsent⟩ | ⟨level, hc, hsent⟩
  · rw [hc]
    exact h.trans (List.sublist_append_left _ _)
  · rw [hc, hsent, List.map_append]
    exact h.append (List.Sublist.refl _)
  · rw [hc, hsent, classEvents_unregistered]
    exact Registry.unregister_added level h

/-- **Classes stand in the order in which they were registered.** -/
theorem Library.added_sublist {lib now : Library} {calls : List Call} (hnew : lib.registry = {})
    (h : lib.Reaches calls now) :
    (now.registry.entries.map ClassEvent.added).Sublist (classEvents (lib.sent calls)) := by
  refine run_keeps (P := fun _ now sent =>
    (now.registry.entries.map ClassEvent.added).Sublist (classEvents sent)) ?_ ?_ h
  · rw [hnew]
    exact List.Sublist.refl []
  · intro past now sent c h
    rw [classEvents_append]
    rcases hc : c.heard? with _ | ⟨_ | _, level⟩
    · rw [Call.leaves_of_heard?_eq_none hc]
      exact h.trans (List.sublist_append_left _ _)
    · rw [Call.leaves_of_start hc, start_registry, Call.classEvents_of_start hc,
        ← classEvents_append]
      exact Program.run_added _ (r := now.registry.enter level) h
    · rw [Call.leaves_of_stop hc, stop_registry, Call.classEvents_of_stop hc, ← List.append_assoc,
        ← classEvents_append]
      exact Registry.unregister_added level
        (Program.run_added _ (r := now.registry.enter level) h)

/-! ## Programs that leave the registry alone -/

/-- No command of the program changes the registry. -/
def Program.Spares {α : Type} : Program α → Registry → Prop
  | done _, _ => True
  | panic, _ => True
  | perform c next, r => (c.exec r).registry = r ∧ (next (c.exec r).answer).Spares r

/-- At no level does the callback change the registry. -/
def Callback.Spares (callback : Callback) : Prop :=
  ∀ level r, r.level = some level → (callback level).Spares r

/-- A command that does not change the registry tells of no change. -/
theorem Command.classEvents_of_spared {c : Command} {r : Registry}
    (h : (c.exec r).registry = r) : classEvents (c.exec r).signals = [] := by
  rcases c.exec_cases r with ⟨-, hsent⟩ | ⟨d, e, -, hc, -⟩ | ⟨level, hc, hsent⟩
  · exact classEvents_of_no_notice hsent
  · rw [h] at hc
    have hentries : r.entries = r.entries ++ [e] := congrArg Registry.entries hc
    simp at hentries
  · -- what is taken out would be missing
    rw [h] at hc
    have hentries : r.entries = r.entries.filter (·.level ≠ level) := by
      rw [← Registry.unregister_entries, ← hc]
    have hnone : r.entries.filter (·.level = level) = [] := by
      rw [hentries, List.filter_filter]
      simp
    rw [hsent, Registry.unregister_gone, hnone]
    rfl

/-- A callback that spares a registry leaves it, and tells of no change to it. -/
theorem Program.Spares.run {α : Type} {p : Program α} {r : Registry} (h : p.Spares r) :
    (p.run r).registry = r ∧ classEvents (p.run r).signals = [] := by
  induction p generalizing r with
  | done a => exact ⟨rfl, rfl⟩
  | panic => exact ⟨rfl, rfl⟩
  | perform c next ih =>
    obtain ⟨hc, hnext⟩ := h
    obtain ⟨hregistry, hevents⟩ := ih _ hnext
    simp only [Program.run, classEvents_append, Command.classEvents_of_spared hc]
    rw [hc]
    exact ⟨hregistry, hevents⟩

/-! ## The walk down -/

/-- The levels from the top down to a given one. -/
def Level.downTo (lowest : Level) : List Level := all.reverse.filter (lowest ≤ ·)

/-- A walk down to a level comes by the levels from there on up. -/
theorem Level.mem_downTo {level lowest : Level} : level ∈ lowest.downTo ↔ lowest ≤ level := by
  simp [downTo, mem_all]

/-- It ends at that level, and each level is lower than the one before. -/
theorem Level.downTo_eq (lowest : Level) :
    ∃ above, lowest.downTo = above ++ [lowest] ∧ lowest.downTo.Pairwise (· > ·) := by
  cases lowest with
  | core => exact ⟨[editor, scene, servers], rfl, by decide⟩
  | servers => exact ⟨[editor, scene], rfl, by decide⟩
  | scene => exact ⟨[editor], rfl, by decide⟩
  | editor => exact ⟨[], rfl, by decide⟩

namespace Library

variable {lib next : Library} {level lowest : Level}

theorem after_cons_of_some {c : Call} {sent : List Signal} (h : c.apply lib = (some next, sent))
    (calls : List Call) : lib.after (c :: calls) = next.after calls := by
  rw [after, run, h]
  rfl

theorem sent_cons_of_some {c : Call} {sent : List Signal} (h : c.apply lib = (some next, sent))
    (calls : List Call) : lib.sent (c :: calls) = sent ++ next.sent calls := by
  rw [Library.sent, run, h]
  rfl

@[simp] theorem stop_terminator (lib : Library) (level : Level) :
    (lib.stop level).1.terminator = lib.terminator := by
  rw [stop, terminate_eq]
  rfl

/-- The terminator of a load stays the same along its calls. -/
theorem terminator_of_reaches {calls : List Call} {now : Library} (h : lib.Reaches calls now) :
    now.terminator = lib.terminator := by
  refine run_keeps (P := fun _ now _ => now.terminator = lib.terminator) rfl ?_ h
  intro past now sent c h
  rcases hc : c.heard? with _ | ⟨_ | _, level⟩
  · rw [Call.leaves_of_heard?_eq_none hc, h]
  · rw [Call.leaves_of_start hc]
    exact h
  · rw [Call.leaves_of_stop hc, stop_terminator, h]

/-- If there is a terminator, it leaves the registry alone. -/
def SparedByTerminator (lib : Library) : Prop := ∀ t, lib.terminator = some t → Callback.Spares t

/-- A load without a terminator runs one that does nothing, so it spares the registry too. -/
theorem SparedByTerminator.termination (h : lib.SparedByTerminator) :
    Callback.Spares lib.termination := by
  rw [Library.termination]
  rcases ht : lib.terminator with _ | t
  · exact fun _ _ _ => trivial
  · exact h t ht

/-- The classes that are left when a level has been torn down. -/
theorem SparedByTerminator.stop_entries (h : lib.SparedByTerminator) (level : Level) :
    (lib.stop level).1.registry.entries = lib.registry.entries.filter (·.level ≠ level) := by
  have hstopping := (h.termination level (lib.registry.enter level) rfl).run.1
  rw [stop_registry, Registry.unregister_entries, stopping, hstopping]
  rfl

/-- The classes that go when a level is torn down. -/
theorem SparedByTerminator.stop_events (h : lib.SparedByTerminator) (level : Level) :
    classEvents ((Call.down level).apply lib).2 =
      (lib.registry.entries.filter (·.level = level)).reverse.map .removed := by
  obtain ⟨hregistry, hevents⟩ := (h.termination level (lib.registry.enter level) rfl).run
  rw [Call.classEvents_of_stop (Call.heard?_down level), stopping, hregistry, hevents,
    Registry.unregister_gone]
  rfl

/-- A load whose lowest level is below another is not over when that other level is torn down. -/
theorem down_apply_of_lt (hlowest : lib.lowest = some lowest) (hlt : lowest < level) :
    ∃ sent, (Call.down level).apply lib = (some (lib.stop level).1, sent) := by
  have hover : ¬ (lib.stop level).1.isOverAt level := by
    rw [isOverAt_iff, stop_lowest]
    intro h
    exact absurd (h lowest hlowest) (Nat.not_le.mpr hlt)
  rw [Call.apply_of_stop (Call.heard?_down level), if_neg hover]
  exact ⟨_, rfl⟩

/-- A load is over when its lowest level is torn down. -/
theorem down_apply_lowest (hlowest : lib.lowest = some lowest) :
    ((Call.down lowest).apply lib).1 = none := by
  have hover : (lib.stop lowest).1.isOverAt lowest := by
    rw [isOverAt_iff, stop_lowest]
    intro l hl
    obtain rfl := Option.some.inj (hlowest.symm.trans hl)
    exact Nat.le_refl _
  rw [Call.apply_of_stop (Call.heard?_down lowest), if_pos hover]

/-- **The walk down.** Levels above the lowest are torn down from the top. The load lives on, the
classes of these levels are taken from the end, and those of the lowest level are left. -/
theorem walk {above : List Level} (hlowest : lib.lowest = some lowest)
    (hspared : lib.SparedByTerminator) (hsorted : lib.registry.IsSorted)
    (hdown : (above ++ [lowest]).Pairwise (· > ·))
    (hlevels : ∀ e ∈ lib.registry.entries, e.level ∈ above ++ [lowest]) :
    ∃ last, lib.after (above.map .down) = some last ∧ last.lowest = some lowest ∧
      last.SparedByTerminator ∧ (∀ e ∈ last.registry.entries, e.level = lowest) ∧
      classEvents (lib.sent (above.map .down)) ++ last.registry.entries.reverse.map .removed =
        lib.registry.entries.reverse.map .removed := by
  induction above generalizing lib with
  | nil =>
    exact ⟨lib, rfl, hlowest, hspared, fun e he => List.mem_singleton.mp (hlevels e he), rfl⟩
  | cons level above ih =>
    obtain ⟨hbelow, hdown⟩ := List.pairwise_cons.mp hdown
    obtain ⟨sent, happly⟩ := down_apply_of_lt hlowest (hbelow lowest (by simp))
    have hleft := hspared.stop_entries level
    have hgone := hspared.stop_events level
    rw [happly] at hgone
    have htop : ∀ e ∈ lib.registry.entries, e.level ≤ level := by
      intro e he
      rcases List.mem_cons.mp (hlevels e he) with heq | hmem
      · rw [heq]
        exact Nat.le_refl _
      · exact Nat.le_of_lt (hbelow _ hmem)
    have hrest : ∀ e ∈ (lib.stop level).1.registry.entries, e.level ∈ above ++ [lowest] := by
      intro e he
      rw [hleft] at he
      obtain ⟨hmem, hne⟩ := List.mem_filter.mp he
      rcases List.mem_cons.mp (hlevels e hmem) with heq | hmem
      · exact absurd heq (by simpa using hne)
      · exact hmem
    have hspared' : (lib.stop level).1.SparedByTerminator := by
      rw [SparedByTerminator, stop_terminator]
      exact hspared
    have hsorted' : (lib.stop level).1.registry.IsSorted := by
      rw [Registry.IsSorted, hleft]
      exact hsorted.filter _
    obtain ⟨last, hlast, hlow, hspare, hall, hevents⟩ :=
      ih ((stop_lowest lib level).trans hlowest) hspared' hsorted' hdown hrest
    refine ⟨last, ?_, hlow, hspare, hall, ?_⟩
    · rw [List.map_cons, after_cons_of_some happly, hlast]
    · -- the classes of this level stand behind all others, so they are the first to go
      rw [List.map_cons, sent_cons_of_some happly, classEvents_append, List.append_assoc, hevents,
        hgone, hleft, ← List.map_append, ← List.reverse_append,
        filter_append_filter_of_isSorted hsorted htop]

/-- The end of the walk: with the lowest level the last classes go, and the load is over. -/
theorem walk_end {past : List Call} {last : Library} (hlast : lib.after past = some last)
    (hlowest : last.lowest = some lowest) (hspared : last.SparedByTerminator)
    (hall : ∀ e ∈ last.registry.entries, e.level = lowest) :
    lib.Releases past (.down lowest) ∧
      classEvents (lib.sent (past ++ [.down lowest])) =
        classEvents (lib.sent past) ++ last.registry.entries.reverse.map .removed ∧
      ((Call.down lowest).leaves last).registry.entries = [] := by
  refine ⟨⟨by rw [hlast]; rfl, ?_⟩, ?_, ?_⟩
  · rw [after_concat, hlast, Option.bind_some, down_apply_lowest hlowest]
  · have hself : last.registry.entries.filter (·.level = lowest) = last.registry.entries :=
      List.filter_eq_self.mpr (by simpa using hall)
    rw [sent_concat hlast, classEvents_append, hspared.stop_events, hself]
  · rw [Call.leaves_of_stop (Call.heard?_down lowest), hspared.stop_entries]
    exact List.filter_eq_nil_iff.mpr (by simpa using hall)

end Library

/-- **Teardown mirrors startup.** Take any successful load and any calls that only bring levels up,
none after a higher one, whatever the initializer does. The load is alive, and its classes stand in
the order in which they were registered, which is also the order of their levels. If the terminator
leaves the registry alone, or there is none, then tearing the levels down once each, from the top to
the lowest that was brought up, takes out exactly these classes, the last one first, and does
nothing else to the registry; the last of these calls ends the load, with no class left. -/
theorem teardown_mirrors_startup {r : Request} {lib : Library} (hload : r.load.result = .ok lib)
    {calls : List Call} (hclimbs : Climbs calls) :
    ∃ now, lib.after calls = some now ∧ now.registry.IsSorted ∧
      (now.registry.entries.map ClassEvent.added).Sublist (classEvents (lib.sent calls)) ∧
      ∀ lowest, lowestStarted calls = some lowest →
        (∀ t, r.terminator = some t → Callback.Spares t) →
        classEvents (now.sent (lowest.downTo.map .down)) =
            now.registry.entries.reverse.map .removed ∧
          ∃ above last, lowest.downTo = above ++ [lowest] ∧
            now.Releases (above.map .down) (.down lowest) ∧
            now.Reaches (lowest.downTo.map .down) last ∧ last.registry.isEmpty := by
  have hlow := Request.lowest_of_load hload
  have hnew := Request.registry_of_load hload
  obtain ⟨now, hnow⟩ := Library.exists_after_of_climbs hlow hclimbs
  have hreaches := Library.reaches_of_after hnow
  have hsorted := Library.isSorted_of_climbs hnew hreaches hclimbs
  refine ⟨now, hnow, hsorted, Library.added_sublist hnew hreaches, ?_⟩
  intro lowest hlowest hspares
  obtain ⟨above, habove, hdown⟩ := lowest.downTo_eq
  have hspared : now.SparedByTerminator := by
    intro t ht
    rw [Library.terminator_of_reaches hreaches] at ht
    obtain ⟨_, _, _, _, -, -, -, -, rfl⟩ := Request.load_eq_ok hload
    exact hspares t ht
  have hlevels : ∀ e ∈ now.registry.entries, e.level ∈ above ++ [lowest] := by
    intro e he
    rw [← habove, Level.mem_downTo]
    obtain ⟨past, c, rest, rfl, hc, -⟩ := Library.levels_stillUp hnew hreaches e he
    exact (lowestStarted_eq_some_iff.mp hlowest).2 c (by simp) e.level hc
  have hnowLowest : now.lowest = some lowest := by
    rw [Library.lowest_eq_lowestStarted hlow hreaches, hlowest]
  rw [habove] at hdown
  obtain ⟨last, hlast, hlastLowest, hlastSpared, hall, hevents⟩ :=
    Library.walk hnowLowest hspared hsorted hdown hlevels
  obtain ⟨hreleases, hend, hempty⟩ := Library.walk_end hlast hlastLowest hlastSpared hall
  rw [habove, List.map_append, List.map_singleton, hend, hevents]
  refine ⟨rfl, above, (Call.down lowest).leaves last, rfl, hreleases, .call hlast _, ?_⟩
  rw [Registry.isEmpty, hempty]
  rfl

/-- A request whose initializer registers a class at every level above `core`, at `scene` two with
a panic after them, and whose terminator panics at every level. -/
def Request.building : Request :=
  plain
    (fun
      | .core => pure ()
      | .servers => Program.perform (.register ⟨"Actor", "Node", .abstract⟩) fun _ => .done ()
      | .scene =>
        Program.perform (.register ⟨"Player", "Actor", .concrete⟩) fun _ =>
          Program.perform (.register ⟨"Ghost", "Player", .virtual⟩) fun _ => .panic
      | .editor => Program.perform (.register ⟨"Gizmo", "Ghost", .concrete⟩) fun _ => .done ())
    (some fun _ => Program.panic)

/-- Three levels come up, one of them twice, between calls that are not heard; on the way down each
class goes before the one it builds on. -/
theorem teardown_mirrors_startup_building :
    ∃ lib now last, Request.building.load.result = .ok lib ∧
      Climbs [.up .servers, ⟨.start, 9, false⟩, .up .scene, .up .scene, ⟨.start, 0, true⟩,
        .up .editor] ∧
      lib.after [.up .servers, ⟨.start, 9, false⟩, .up .scene, .up .scene, ⟨.start, 0, true⟩,
        .up .editor] = some now ∧
      (classEvents (now.sent [.down .editor, .down .scene, .down .servers])).map (·.entry.name) =
        ["Gizmo", "Ghost", "Player", "Actor"] ∧
      now.Reaches [.down .editor, .down .scene, .down .servers] last ∧ last.registry.isEmpty := by
  have hload : Request.building.load.result = .ok _ := rfl
  have hclimbs : Climbs [.up .servers, ⟨.start, 9, false⟩, .up .scene, .up .scene,
      ⟨.start, 0, true⟩, .up .editor] := ⟨by decide, by decide⟩
  obtain ⟨now, hnow, -, -, hwalk⟩ := teardown_mirrors_startup hload hclimbs
  obtain ⟨hevents, above, last, -, -, hlast, hempty⟩ := hwalk .servers rfl (by
    intro t ht
    obtain rfl := Option.some.inj ht
    exact fun _ _ _ => trivial)
  have hnames : now.registry.entries.map (·.name) = ["Actor", "Player", "Ghost", "Gizmo"] := by
    rw [← Option.some.inj hnow]
    rfl
  refine ⟨_, now, last, hload, hclimbs, hnow, ?_, hlast, hempty⟩
  have hremoved : (now.registry.entries.reverse.map ClassEvent.removed).map (·.entry.name) =
      (now.registry.entries.map (·.name)).reverse := by
    rw [List.map_map, List.map_reverse]
    rfl
  change (classEvents (now.sent (Level.servers.downTo.map .down))).map (·.entry.name) = _
  rw [hevents, hremoved, hnames]
  rfl

end EngineExtension
