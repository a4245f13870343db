import EngineExtension.Program
import Mathlib.Data.List.Basic

/-!
# What callbacks do to a registry

A callback reaches the registry of its load through commands only, so whatever every command keeps,
every callback keeps, panicking or not.

* `Registry.clear_eq` — unregistering a level takes exactly its classes, newest first, and leaves
  the others in order;
* `Registry.place_eq_ok` — a class is taken in at the current level, under a name that is free;
* `Command.exec_cases` — all that a command can do to a registry, with what it sends;
* `Program.run_keeps` — what every command keeps, a program keeps; so no callback adds a class of
  a level it does not work on (`run_levels`).
-/

namespace EngineExtension

/-! ## Unregistering a level -/

namespace Registry

variable {level : Level} {es rest : List ClassEntry} {e : ClassEntry}

/-- Nothing can be removed only if no entry is of the level. -/
theorem removeNewest?_eq_none (h : removeNewest? level es = none) : ∀ e ∈ es, e.level ≠ level := by
  induction es with
  | nil => simp
  | cons a es ih =>
    rw [removeNewest?] at h
    split at h
    · cases h
    · next hes =>
      split at h
      · cases h
      · next ha =>
        intro e he
        rcases List.mem_cons.mp he with rfl | he
        · exact ha
        · exact ih hes e he

/-- The newest class of a level has no class of that level after it, and nothing else goes. -/
theorem removeNewest?_eq_some (h : removeNewest? level es = some (e, rest)) :
    ∃ older newer, es = older ++ e :: newer ∧ rest = older ++ newer ∧ e.level = level ∧
      ∀ d ∈ newer, d.level ≠ level := by
  induction es generalizing e rest with
  | nil => cases h
  | cons a es ih =>
    rw [removeNewest?] at h
    split at h
    · next newest rest' hes =>
      obtain ⟨rfl, rfl⟩ := Prod.mk.inj (Option.some.inj h)
      obtain ⟨older, newer, rfl, rfl, hlevel, hnewer⟩ := ih hes
      exact ⟨a :: older, newer, rfl, rfl, hlevel, hnewer⟩
    · next hes =>
      split at h
      · next ha =>
        obtain ⟨rfl, rfl⟩ := Prod.mk.inj (Option.some.inj h)
        exact ⟨[], es, rfl, rfl, ha, removeNewest?_eq_none hes⟩
      · cases h

/-- **Unregistering is exact.** The classes of the level go, newest first; all others stay, in
order. -/
theorem clear_eq (level : Level) (es : List ClassEntry) :
    clear level es = ((es.filter (·.level = level)).reverse, es.filter (·.level ≠ level)) := by
  fun_induction clear level es with
  | case1 es hes =>
    have hne := removeNewest?_eq_none hes
    have hgone : es.filter (·.level = level) = [] := by simpa using hne
    have hleft : es.filter (·.level ≠ level) = es := by simpa using hne
    rw [hgone, hleft, List.reverse_nil]
  | case2 es e rest hes gone left hclear ih =>
    -- the class taken first is the last of its level, so it heads the reversed list
    obtain ⟨older, newer, rfl, rfl, hlevel, hnewer⟩ := removeNewest?_eq_some hes
    have hgone : newer.filter (·.level = level) = [] := by simpa using hnewer
    rw [ih] at hclear
    obtain ⟨rfl, rfl⟩ := Prod.mk.inj hclear
    simp [List.filter_append, hlevel, hgone]

/-- **Unregistering a level** gives its entries back, the newest first, and keeps the others in
order. -/
theorem unregister_eq (r : Registry) (level : Level) :
    r.unregister level = ((r.entries.filter (·.level = level)).reverse,
      { r with entries := r.entries.filter (·.level ≠ level) }) := by
  rw [unregister, clear_eq]

/-- The entries of the other levels remain. -/
@[simp] theorem unregister_entries (r : Registry) (level : Level) :
    (r.unregister level).2.entries = r.entries.filter (·.level ≠ level) := by
  rw [unregister_eq]

/-- The entries of the level go, the newest first. -/
theorem unregister_gone (r : Registry) (level : Level) :
    (r.unregister level).1 = (r.entries.filter (·.level = level)).reverse := by
  rw [unregister_eq]

@[simp] theorem unregister_level (r : Registry) (level : Level) :
    (r.unregister level).2.level = r.level := rfl

/-! ## Registering a class -/

/-- Inversion for a class that is taken in. -/
theorem place_eq_ok {r : Registry} {c : ClassDecl} {e : ClassEntry} (h : r.place c = .ok e) :
    e.toClassDecl = c ∧ r.level = some e.level ∧ ∀ d ∈ r.entries, d.name ≠ e.name := by
  rw [place] at h
  split at h
  · cases h
  · next level hlevel =>
    split at h
    · cases h
    · next hfree =>
      obtain rfl := Except.ok.inj h
      rw [find?, List.find?_eq_none] at hfree
      exact ⟨rfl, hlevel, by simpa using hfree⟩

end Registry

/-! ## Commands and programs -/

/-- **Commands.** A command registers one class, or unregisters a level, and says so; any other
leaves the registry alone and sends no notice. -/
theorem Command.exec_cases (c : Command) (r : Registry) :
    ((c.exec r).registry = r ∧ ∀ n, .notice n ∉ (c.exec r).signals) ∨
    (∃ d e, r.place d = .ok e ∧ (c.exec r).registry = { r with entries := r.entries ++ [e] } ∧
      (c.exec r).signals = [.notice (.registered e)]) ∨
    ∃ level, (c.exec r).registry = (r.unregister level).2 ∧
      (c.exec r).signals = (r.unregister level).1.map fun e => .notice (.unregistered e) := by
  cases c with
  | register d =>
    rcases hd : r.place d with _ | e
    · left
      simp [exec, Registry.register, hd]
    · right; left
      exact ⟨d, e, hd, by simp [exec, Registry.register, hd]⟩
  | unregister level => exact .inr (.inr ⟨level, rfl, rfl⟩)
  | inspect => left; simp [exec]
  | log record => left; simp [exec]
  | note n => left; simp [exec]

/-- **Callback invariants.** What every command keeps, a program keeps, whether it returns or
panics. The invariant may speak of all that was sent. -/
theorem Program.run_keeps {α : Type} {P : List Signal → Registry → Prop}
    (hcommand : ∀ (c : Command) sent r, P sent r →
      P (sent ++ (c.exec r).signals) (c.exec r).registry) (p : Program α) :
    ∀ {sent : List Signal} {r : Registry}, P sent r →
      P (sent ++ (p.run r).signals) (p.run r).registry := by
  induction p with
  | done a =>
    intro sent r h
    simpa using h
  | panic =>
    intro sent r h
    simpa using h
  | perform c next ih =>
    intro sent r h
    simp only [run, ← List.append_assoc]
    exact ih _ (hcommand c sent r h)

/-- A callback at a level adds no class of any other level. -/
theorem Program.run_levels {α : Type} {S : Level → Prop} {level : Level} (hlevel : S level)
    (p : Program α) {r : Registry} (hr : r.level = some level) (h : ∀ e ∈ r.entries, S e.level) :
    ∀ e ∈ (p.run r).registry.entries, S e.level := by
  refine (@run_keeps α (fun _ r => r.level = some level ∧ ∀ e ∈ r.entries, S e.level)
    ?_ p [] r ⟨hr, h⟩).2
  rintro c - r ⟨hr, h⟩
  rcases c.exec_cases r with ⟨hc, -⟩ | ⟨d, e, hplace, hc, -⟩ | ⟨l, hc, -⟩
  · rw [hc]
    exact ⟨hr, h⟩
  · -- a class is taken in at the level the callback works on, which no command can change
    obtain ⟨-, he, -⟩ := Registry.place_eq_ok hplace
    obtain rfl : level = e.level := Option.some.inj (hr.symm.trans he)
    rw [hc]
    refine ⟨hr, fun a ha => ?_⟩
    rcases List.mem_append.mp ha with ha | ha
    · exact h a ha
    · rw [List.mem_singleton.mp ha]
      exact hlevel
  · rw [hc, Registry.unregister_level, Registry.unregister_entries]
    exact ⟨hr, fun a ha => h a (List.mem_filter.mp ha).1⟩

end EngineExtension
