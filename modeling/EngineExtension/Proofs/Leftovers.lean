import EngineExtension.Proofs.Registry
import EngineExtension.Proofs.Run

/-!
# No leftovers

A class belongs to the level it was registered at, and goes when that level is torn down. Callbacks
may register while a level is torn down, unregister what is not theirs, or panic halfway, and levels
may come up repeatedly or out of order; still no class is left of a level that is down.

* `StillUp` — a level that was brought up and has not been torn down since;
* `Library.levels_stillUp` — every class belongs to such a level, at every state along a run.
-/

namespace EngineExtension

/-- Some call has brought the level up, and no later one has torn it down. -/
def StillUp (calls : List Call) (level : Level) : Prop :=
  ∃ past c rest, calls = past ++ c :: rest ∧ c.heard? = some (.start, level) ∧
    ∀ d ∈ rest, d.heard? ≠ some (.stop, level)

/-- Whenever a level was brought up, a later call has torn it down. -/
def AllTornDown (calls : List Call) : Prop :=
  ∀ past c rest level, calls = past ++ c :: rest → c.heard? = some (.start, level) →
    ∃ d ∈ rest, d.heard? = some (.stop, level)

/-- If all levels are torn down, none is up. -/
theorem AllTornDown.not_stillUp {calls : List Call} (h : AllTornDown calls) (level : Level) :
    ¬ StillUp calls level := by
  rintro ⟨past, c, rest, hcalls, hc, hrest⟩
  obtain ⟨d, hd, hstop⟩ := h past c rest level hcalls hc
  exact hrest d hd hstop

/-- A level that was just brought up is up. -/
theorem stillUp_concat_of_start {past : List Call} {c : Call} {level : Level}
    (hc : c.heard? = some (.start, level)) : StillUp (past ++ [c]) level :=
  ⟨past, c, [], rfl, hc, by simp⟩

/-- A level that is up stays up until it is torn down. -/
theorem StillUp.concat {past : List Call} {c : Call} {level : Level} (h : StillUp past level)
    (hc : c.heard? ≠ some (.stop, level)) : StillUp (past ++ [c]) level := by
  obtain ⟨p, d, q, rfl, hd, hq⟩ := h
  refine ⟨p, d, q ++ [c], by simp, hd, fun a ha => ?_⟩
  rcases List.mem_append.mp ha with ha | ha
  · exact hq a ha
  · rw [List.mem_singleton.mp ha]
    exact hc

namespace Library

variable {lib now : Library} {past calls : List Call} {c : Call} {level : Level}

/-- Bringing a level up leaves classes of that level and of levels that were up before. -/
theorem levels_stillUp_start (hc : c.heard? = some (.start, level))
    (h : ∀ e ∈ now.registry.entries, StillUp past e.level) :
    ∀ e ∈ (now.start level).1.registry.entries, StillUp (past ++ [c]) e.level := by
  rw [start_registry]
  refine Program.run_levels (stillUp_concat_of_start hc) _ rfl fun e he => ?_
  exact (h e he).concat (by simp [hc])

/-- Tearing a level down leaves classes of other levels that were up before. The terminator may add
classes of the level itself, which then go with the rest of that level. -/
theorem levels_stillUp_stop (hc : c.heard? = some (.stop, level))
    (h : ∀ e ∈ now.registry.entries, StillUp past e.level) :
    ∀ e ∈ (now.stop level).1.registry.entries, StillUp (past ++ [c]) e.level := by
  rw [stop_registry, Registry.unregister_entries]
  intro e he
  obtain ⟨hmem, hne⟩ := List.mem_filter.mp he
  have hne : e.level ≠ level := by simpa using hne
  have hterm : e.level = level ∨ StillUp past e.level :=
    Program.run_levels (S := fun l => l = level ∨ StillUp past l) (r := now.registry.enter level)
      (.inl rfl) (now.termination level) rfl (fun e he => .inr (h e he)) e hmem
  rcases hterm with heq | hup
  · exact absurd heq hne
  · refine hup.concat ?_
    rw [hc]
    simpa using hne.symm

/-- Every class of a load belongs to a level that is still up. -/
theorem levels_stillUp (hnew : lib.registry = {}) (h : lib.Reaches calls now) :
    ∀ e ∈ now.registry.entries, StillUp calls e.level := by
  refine run_keeps (P := fun calls now _ => ∀ e ∈ now.registry.entries, StillUp calls e.level)
    ?_ ?_ h
  · simp [hnew]
  · intro past now sent c hpast
    rcases hc : c.heard? with _ | ⟨_ | _, level⟩
    · rw [Call.leaves_of_heard?_eq_none hc]
      exact fun e he => (hpast e he).concat (by simp [hc])
    · rw [Call.leaves_of_start hc]
      exact levels_stillUp_start hc hpast
    · rw [Call.leaves_of_stop hc]
      exact levels_stillUp_stop hc hpast

end Library

/-- **No leftovers.** Take any successful load, with any callbacks, and any calls. At every state
along the run, up to the one given up at its end, every class belongs to a level that was brought up
and not torn down since. So once every level has been torn down after it was last brought up, no
class is left. -/
theorem load_leaves_no_class_behind {r : Request} {lib : Library}
    (hload : r.load.result = .ok lib) {calls : List Call} {now : Library}
    (hnow : lib.Reaches calls now) :
    (∀ e ∈ now.registry.entries, StillUp calls e.level) ∧
      (AllTornDown calls → now.registry.isEmpty) := by
  have hup := Library.levels_stillUp (Request.registry_of_load hload) hnow
  refine ⟨hup, fun hdown => ?_⟩
  rw [Registry.isEmpty, List.isEmpty_iff, List.eq_nil_iff_forall_not_mem]
  exact fun e he => hdown.not_stillUp e.level (hup e he)

/-- Both callbacks register a class and panic, at two levels; nothing is left when the load ends. -/
theorem load_leaves_no_class_behind_panicking :
    ∃ lib now, Request.panicking.load.result = .ok lib ∧
      lib.Reaches [.up .scene, .up .editor, .down .editor, .down .scene] now ∧
      AllTornDown [.up .scene, .up .editor, .down .editor, .down .scene] ∧
      now.registry.isEmpty := by
  have hdown : AllTornDown [.up .scene, .up .editor, .down .editor, .down .scene] := by
    rintro (_ | ⟨a, _ | ⟨b, _ | ⟨d, _ | ⟨e, p⟩⟩⟩⟩) c rest level hcalls hc <;> simp at hcalls
    · obtain ⟨rfl, rfl⟩ := hcalls
      obtain rfl : Level.scene = level := by simpa using hc
      simp
    · obtain ⟨-, rfl, rfl⟩ := hcalls
      obtain rfl : Level.editor = level := by simpa using hc
      simp
    · obtain ⟨-, -, rfl, -⟩ := hcalls
      simp at hc
    · obtain ⟨-, -, -, rfl, -⟩ := hcalls
      simp at hc
  obtain ⟨lib, hload, now, hnow⟩ : ∃ lib, Request.panicking.load.result = .ok lib ∧
      ∃ now, lib.Reaches [.up .scene, .up .editor, .down .editor, .down .scene] now :=
    ⟨_, rfl, _, @Library.Reaches.call _ [.up .scene, .up .editor, .down .editor] _ rfl _⟩
  exact ⟨lib, now, hload, hnow, hdown, (load_leaves_no_class_behind hload hnow).2 hdown⟩

end EngineExtension
