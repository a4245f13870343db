import EngineExtension.Proofs.Truncation

/-!
# Unregistering a level is exact

The classes of a level are taken out one at a time, each time the one that stands last. While this
goes on, classes of other levels close up over the gaps, so the places move from round to round.
Nothing of this can be seen in the end.

* `Round`, `Rounds` — one class of a level taken out of its place, and round after round until there
  is none left. There is one way to do so (`rounds_iff`), and no way to go on forever
  (`wellFounded_round`);
* `Registry.unregister_eq` — what goes and what stays, said with two filters. That a level is
  unregistered only once, and that two levels do not get in each other's way, is read off it.
-/

namespace EngineExtension

variable {level : Level} {es rest : List ClassEntry} {e : ClassEntry}

/-! ## Rounds -/

/-- One round: a class of the level is taken out of its place, and there is none behind it. -/
def Round (level : Level) (es : List ClassEntry) (e : ClassEntry) (rest : List ClassEntry) : Prop :=
  ∃ place, es[place]? = some e ∧ e.level = level ∧
    (∀ later d, place < later → es[later]? = some d → d.level ≠ level) ∧ rest = es.eraseIdx place

/-- Round after round, until no class of the level is left: the classes taken out, in this order,
and those that stay. -/
inductive Rounds (level : Level) : List ClassEntry → List ClassEntry → List ClassEntry → Prop where
  | ended {es : List ClassEntry} (hnone : ∀ e ∈ es, e.level ≠ level) : Rounds level es [] es
  | more {es rest gone left : List ClassEntry} {e : ClassEntry} (hround : Round level es e rest)
    (hrest : Rounds level rest gone left) : Rounds level es (e :: gone) left

/-- A round without places: what is older and what is newer than the class stays as it is. -/
theorem round_iff :
    Round level es e rest ↔
      ∃ older newer, es = older ++ e :: newer ∧ rest = older ++ newer ∧ e.level = level ∧
        ∀ d ∈ newer, d.level ≠ level := by
  constructor
  · rintro ⟨place, hplace, hlevel, hlater, rfl⟩
    obtain ⟨hlt, rfl⟩ := List.getElem?_eq_some_iff.mp hplace
    refine ⟨es.take place, es.drop (place + 1), ?_, List.eraseIdx_eq_take_drop_succ es place,
      hlevel, ?_⟩
    · rw [← List.drop_eq_getElem_cons hlt, List.take_append_drop]
    · intro d hd
      obtain ⟨i, hi⟩ := List.mem_iff_getElem?.mp hd
      rw [List.getElem?_drop] at hi
      exact hlater (place + 1 + i) d (by omega) hi
  · rintro ⟨older, newer, rfl, rfl, hlevel, hnewer⟩
    refine ⟨older.length, by simp, hlevel, ?_, ?_⟩
    · intro later d hlt hd
      rw [List.getElem?_append_right (Nat.le_of_lt hlt)] at hd
      obtain ⟨i, hi⟩ : ∃ i, later - older.length = i + 1 := ⟨later - older.length - 1, by omega⟩
      rw [hi, List.getElem?_cons_succ] at hd
      exact hnewer d (List.mem_of_getElem? hd)
    · simp [List.eraseIdx_append_of_length_le]

/-- **No endless rounds.** Each leaves one class less. -/
theorem wellFounded_round (level : Level) :
    WellFounded fun rest es => ∃ e, Round level es e rest := by
  refine Subrelation.wf ?_ (measure List.length).wf
  rintro rest es ⟨e, hround⟩
  obtain ⟨older, newer, rfl, rfl, -, -⟩ := round_iff.mp hround
  simp [InvImage, WellFoundedRelation.rel]

theorem Rounds.eq_clear {gone left : List ClassEntry} (h : Rounds level es gone left) :
    (gone, left) = Registry.clear level es := by
  induction h with
  | @ended es hnone =>
    have hgone : es.filter (·.level = level) = [] := by simpa using hnone
    have hleft : es.filter (·.level ≠ level) = es := by simpa using hnone
    rw [Registry.clear_eq, hgone, hleft, List.reverse_nil]
  | more hround _ ih =>
    -- of its level the class is the last, so of those taken out it is the first
    obtain ⟨older, newer, rfl, rfl, hlevel, hnewer⟩ := round_iff.mp hround
    have hgone : newer.filter (·.level = level) = [] := by simpa using hnewer
    rw [Registry.clear_eq] at ih ⊢
    obtain ⟨rfl, rfl⟩ := Prod.mk.inj ih
    simp [List.filter_append, hlevel, hgone]

theorem rounds_clear (level : Level) (es : List ClassEntry) :
    Rounds level es (Registry.clear level es).1 (Registry.clear level es).2 := by
  fun_induction Registry.clear level es with
  | case1 es hes => exact .ended (Registry.removeNewest?_eq_none hes)
  | case2 es e rest hes gone left hclear ih =>
    rw [hclear] at ih
    exact .more (round_iff.mpr (Registry.removeNewest?_eq_some hes)) ih

/-- Rounds come to one end, and it is that of unregistering. -/
theorem rounds_iff {gone left : List ClassEntry} :
    Rounds level es gone left ↔ (gone, left) = Registry.clear level es := by
  constructor
  · exact Rounds.eq_clear
  · intro h
    have hrounds := rounds_clear level es
    rw [← h] at hrounds
    exact hrounds

/-! ## Unregistering once and again -/

namespace Registry

/-- A level that was unregistered has no classes left to unregister. -/
theorem unregister_again (r : Registry) (level : Level) :
    (r.unregister level).2.unregister level = ([], (r.unregister level).2) := by
  simp [unregister_eq, List.filter_filter]

/-- What goes with a level does not depend on what went with another before. -/
theorem unregister_gone_of_ne {level other : Level} (h : other ≠ level) (r : Registry) :
    ((r.unregister other).2.unregister level).1 = (r.unregister level).1 := by
  have hsame : ∀ e : ClassEntry, (e.level = level ∧ e.level ≠ other) ↔ e.level = level := by
    intro e
    constructor
    · exact And.left
    · rintro rfl
      exact ⟨rfl, Ne.symm h⟩
  simp only [unregister_eq, List.filter_filter, ← Bool.decide_and, hsame]

theorem unregister_comm (r : Registry) (level other : Level) :
    ((r.unregister level).2.unregister other).2 = ((r.unregister other).2.unregister level).2 := by
  simp [unregister_eq, List.filter_filter, Bool.and_comm]

end Registry

/-- The record of a class that goes with its level. -/
def unregistration (level : Level) (name : String) : Log.Record where
  severity := .debug
  target := "gdscaffold_core::class_db"
  message := "unregister class " ++ name ++ " at level " ++ level.name
  modulePath := some "gdscaffold_core::class_db"
  file := some "gdscaffold-core/src/class_db.rs"
  line := some 95

theorem recordsOf_unregistered (gone : List ClassEntry) :
    recordsOf (gone.map fun e => .notice (.unregistered e)) =
      gone.map fun e => (Notice.unregistered e).record := by
  rw [recordsOf, List.filterMap_map]
  exact congrFun List.filterMap_eq_map gone

/-- One record for each class that goes. -/
theorem Registry.recordsOf_unregister (r : Registry) (level : Level) :
    recordsOf ((r.unregister level).1.map fun e => .notice (.unregistered e)) =
      (r.unregister level).1.map fun e => unregistration level e.name := by
  rw [recordsOf_unregistered]
  refine List.map_congr_left fun e he => ?_
  rw [unregister_gone, List.mem_reverse, List.mem_filter] at he
  obtain rfl : e.level = level := by simpa using he.2
  rfl

/-- **Unregistering a level is exact.** Take any registry, whatever the order in which classes of
different levels stand in it. Taking out the last class of a level again and again cannot go on
forever, and it comes to the end that unregistering has: the classes of the level go, the last one
first, all others stay in their order, and so does the level being worked on. A callback that asks
for it is told the names in this order, and each of them has a record in the log. A level that was
unregistered is done with: asking again changes nothing, and nothing is told. Two levels can be
unregistered in any order: each time the same classes go with each, and the same registry is left.
-/
theorem unregistering_is_exact (r : Registry) (level : Level) :
    (WellFounded fun rest es => ∃ e, Round level es e rest) ∧
    (∀ gone left, Rounds level r.entries gone left ↔
      (gone, { r with entries := left }) = r.unregister level) ∧
    r.unregister level = ((r.entries.filter (·.level = level)).reverse,
      { r with entries := r.entries.filter (·.level ≠ level) }) ∧
    ((Command.unregister level).exec r).registry = (r.unregister level).2 ∧
    ((Command.unregister level).exec r).answer = (r.unregister level).1.map (·.name) ∧
    recordsOf ((Command.unregister level).exec r).signals =
      (r.unregister level).1.map (fun e => unregistration level e.name) ∧
    (r.unregister level).2.unregister level = ([], (r.unregister level).2) ∧
    ∀ other, other ≠ level →
      ((r.unregister level).2.unregister other).2 = ((r.unregister other).2.unregister level).2 ∧
      ((r.unregister level).2.unregister other).1 = (r.unregister other).1 ∧
      ((r.unregister other).2.unregister level).1 = (r.unregister level).1 := by
  refine ⟨wellFounded_round level, ?_, r.unregister_eq level, rfl, rfl,
    r.recordsOf_unregister level, r.unregister_again level, ?_⟩
  · intro gone left
    rw [rounds_iff, Registry.unregister]
    simp [Prod.ext_iff]
  · intro other hne
    exact ⟨r.unregister_comm level other, Registry.unregister_gone_of_ne (Ne.symm hne) r,
      Registry.unregister_gone_of_ne hne r⟩

/-- Classes of two levels, by turns. -/
def Registry.interleaved : Registry where
  level := some .editor
  entries :=
    [⟨⟨"Actor", "Node", .abstract⟩, .scene⟩, ⟨⟨"Gizmo", "Node", .concrete⟩, .editor⟩,
      ⟨⟨"Player", "Actor", .concrete⟩, .scene⟩, ⟨⟨"Panel", "Gizmo", .virtual⟩, .editor⟩]

/-- The classes of one level go from between those of the other, which then go as if nothing had
happened. -/
theorem unregistering_is_exact_interleaved :
    ((Command.unregister .scene).exec .interleaved).answer = ["Player", "Actor"] ∧
    Level.editor ≠ .scene ∧
    ((Registry.interleaved.unregister .scene).2.unregister .editor).1.map (·.name) =
      ["Panel", "Gizmo"] ∧
    ((Registry.interleaved.unregister .scene).2.unregister .editor).2 =
      ((Registry.interleaved.unregister .editor).2.unregister .scene).2 := by
  obtain ⟨-, -, hscene, -, hanswer, -, -, hother⟩ :=
    unregistering_is_exact .interleaved .scene
  obtain ⟨hsame, hgone, -⟩ := hother .editor (by decide)
  refine ⟨?_, by decide, ?_, hsame⟩
  · rw [hanswer, hscene]
    rfl
  · rw [hgone, Registry.unregister_gone]
    rfl

end EngineExtension
