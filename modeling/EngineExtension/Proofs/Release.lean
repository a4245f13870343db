import EngineExtension.Proofs.Run
import Mathlib.Data.List.Basic

/-!
# When a load is released

Which call ends a load is decided by the whole history of its calls: the levels brought up before,
in any order and any number of times, and the level being torn down. This module reads the answer
off the calls alone, whatever the callbacks do.

* `lowestStarted` — the lowest level that a row of calls has brought up, which is what a load that
  is alive remembers (`lowest_eq_lowestStarted`);
* `Final` — a call that ends a load which is alive: it tears down a level with none below it;
* `endsAtFirst_final` — a load is ended by the first final call and by no other.

The two headlines specialise it. Once a level is up, the end comes with the first level torn down
that is at or below all levels brought up before. A load that never had a level up ends with
whatever level is torn down first.
-/

namespace EngineExtension

/-! ## The first call of a kind -/

/-- None of the calls is one that `R` picks, given the calls before it. -/
def NoneYet (R : List Call → Call → Prop) (calls : List Call) : Prop :=
  ∀ past c rest, calls = past ++ c :: rest → ¬ R past c

/-- The first call that `R` picks comes right after the calls `past`. -/
def IsFirst (R : List Call → Call → Prop) (past : List Call) (c : Call) : Prop :=
  NoneYet R past ∧ R past c

theorem noneYet_nil (R : List Call → Call → Prop) : NoneYet R [] := by
  intro past c rest h
  simp at h

/-- None of the calls is picked if none of the first ones is, and the last is not. -/
theorem noneYet_concat {R : List Call → Call → Prop} {past : List Call} {c : Call} :
    NoneYet R (past ++ [c]) ↔ NoneYet R past ∧ ¬ R past c := by
  constructor
  · intro h
    refine ⟨fun p d q hp => h p d (q ++ [c]) ?_, h past c [] rfl⟩
    rw [hp, List.append_assoc, List.cons_append]
  · rintro ⟨hpast, hc⟩ p d q h
    -- the call picked is the last one, or one of those before
    rcases List.eq_nil_or_concat q with rfl | ⟨q, b, rfl⟩
    · obtain ⟨rfl, hd⟩ := List.append_inj' h rfl
      obtain rfl := List.singleton_inj.mp hd
      exact hc
    · rw [List.concat_eq_append, ← List.cons_append, ← List.append_assoc] at h
      exact hpast p d q (List.append_inj' h rfl).1

/-- If there is a call that `R` picks, there is a first one. -/
theorem exists_isFirst {R : List Call → Call → Prop} {calls : List Call}
    (h : ¬ NoneYet R calls) : ∃ past c rest, calls = past ++ c :: rest ∧ IsFirst R past c := by
  induction calls using List.reverseRecOn with
  | nil => exact absurd (noneYet_nil R) h
  | append_singleton past c ih =>
    -- the last call is the first one picked only if none before it is
    by_cases hpast : NoneYet R past
    · refine ⟨past, c, [], rfl, hpast, ?_⟩
      by_contra hc
      exact h (noneYet_concat.mpr ⟨hpast, hc⟩)
    · obtain ⟨p, d, q, rfl, hd⟩ := ih hpast
      exact ⟨p, d, q ++ [c], by simp, hd⟩

/-- Where two kinds agree on every call of a row, they agree on the beginnings of the row. -/
theorem noneYet_congr {R S : List Call → Call → Prop} {calls past rest : List Call}
    (h : ∀ past c rest, calls = past ++ c :: rest → (R past c ↔ S past c))
    (hcalls : calls = past ++ rest) : NoneYet R past ↔ NoneYet S past := by
  refine forall₃_congr fun p d q => imp_congr_right fun hpast => not_congr ?_
  refine h p d (q ++ rest) ?_
  rw [hcalls, hpast, List.append_assoc, List.cons_append]

/-- Where two kinds agree on every call of a row, they have the same first call. -/
theorem isFirst_congr {R S : List Call → Call → Prop} {calls past rest : List Call} {c : Call}
    (h : ∀ past c rest, calls = past ++ c :: rest → (R past c ↔ S past c))
    (hcalls : calls = past ++ c :: rest) : IsFirst R past c ↔ IsFirst S past c :=
  and_congr (noneYet_congr h hcalls) (h past c rest hcalls)

/-- Along a row of calls, a load is ended by the first call that `R` picks and by no other. -/
def Library.EndsAtFirst (lib : Library) (R : List Call → Call → Prop) (calls : List Call) : Prop :=
  ∀ past c rest, calls = past ++ c :: rest → (lib.Releases past c ↔ IsFirst R past c)

/-- So a load that ends at the first call of one kind ends at the first of the other. -/
theorem Library.endsAtFirst_congr {lib : Library} {R S : List Call → Call → Prop}
    {calls : List Call} (h : ∀ past c rest, calls = past ++ c :: rest → (R past c ↔ S past c)) :
    lib.EndsAtFirst R calls ↔ lib.EndsAtFirst S calls := by
  refine forall₃_congr fun past c rest => imp_congr_right fun hcalls => ?_
  rw [isFirst_congr h hcalls]

/-! ## The lowest level started -/

/-- The level that a call brings up. -/
def Call.startLevel? (c : Call) : Option Level :=
  match c.heard? with
  | some (.start, level) => some level
  | _ => none

/-- The lowest level that a row of calls has brought up, if any. -/
def lowestStarted (calls : List Call) : Option Level := (calls.filterMap Call.startLevel?).min?

theorem Call.startLevel?_eq_some {c : Call} {level : Level} :
    c.startLevel? = some level ↔ c.heard? = some (.start, level) := by
  rw [startLevel?]
  rcases c.heard? with _ | ⟨_ | _, l⟩ <;> simp

instance : Std.IsLinearOrder Level where
  le_refl a := Nat.le_refl a.rank
  le_trans _ _ _ := Nat.le_trans
  le_antisymm _ _ hab hba := Level.rank_injective (Nat.le_antisymm hab hba)
  le_total a b := Nat.le_total a.rank b.rank

/-- The lowest level started was started, and no level below it was. -/
theorem lowestStarted_eq_some_iff {calls : List Call} {lowest : Level} :
    lowestStarted calls = some lowest ↔
      (∃ c ∈ calls, c.heard? = some (.start, lowest)) ∧
        ∀ c ∈ calls, ∀ level, c.heard? = some (.start, level) → lowest ≤ level := by
  simp only [lowestStarted, List.min?_eq_some_iff, List.mem_filterMap, Call.startLevel?_eq_some]
  refine and_congr_right fun _ => ⟨fun h c hc level hl => h level ⟨c, hc, hl⟩, ?_⟩
  rintro h level ⟨c, hc, hl⟩
  exact h c hc level hl

/-- No call brings a level up. -/
def NothingStarted (calls : List Call) : Prop :=
  ∀ c ∈ calls, ∀ level, c.heard? ≠ some (.start, level)

/-- There is no lowest level only where no call has brought a level up. -/
theorem lowestStarted_eq_none_iff {calls : List Call} :
    lowestStarted calls = none ↔ NothingStarted calls := by
  rw [NothingStarted, lowestStarted, List.min?_eq_none_iff, List.filterMap_eq_nil_iff]
  refine forall₂_congr fun c _ => ?_
  rw [Option.eq_none_iff_forall_ne_some]
  refine forall_congr' fun level => ?_
  rw [Ne, Call.startLevel?_eq_some]

/-- A call that brings a level up can only lower the lowest level. -/
theorem lowestStarted_concat_of_start {past : List Call} {c : Call} {level : Level}
    (h : c.heard? = some (.start, level)) :
    lowestStarted (past ++ [c]) = some ((lowestStarted past).elim level (min · level)) := by
  have hc : [c].filterMap Call.startLevel? = [level] := by
    simp [Call.startLevel?_eq_some.mpr h]
  rw [lowestStarted, lowestStarted, List.filterMap_append, hc]
  rcases past.filterMap Call.startLevel? with _ | ⟨l, ls⟩
  · rfl
  · rw [List.cons_append, List.min?_cons', List.foldl_append, List.min?_cons']
    rfl

/-- Any other call leaves the lowest level. -/
theorem lowestStarted_concat {past : List Call} {c : Call}
    (h : ∀ level, c.heard? ≠ some (.start, level)) :
    lowestStarted (past ++ [c]) = lowestStarted past := by
  have hc : c.startLevel? = none := by
    refine Option.eq_none_iff_forall_ne_some.mpr fun level hl => ?_
    exact h level (Call.startLevel?_eq_some.mp hl)
  rw [lowestStarted, lowestStarted, List.filterMap_append]
  simp [hc]

/-! ## The call that ends a load -/

/-- A call that ends a load which is alive: the level it tears down lies at or below every level
brought up before. -/
def Final (past : List Call) (c : Call) : Prop :=
  ∃ level, c.heard? = some (.stop, level) ∧
    ∀ lowest, lowestStarted past = some lowest → level ≤ lowest

namespace Library

variable {lib now : Library} {past calls : List Call} {c : Call}

/-- A load remembers the lowest level it has started. -/
theorem lowest_eq_lowestStarted (hnew : lib.lowest = none) (h : lib.Reaches calls now) :
    now.lowest = lowestStarted calls := by
  refine run_keeps (P := fun calls now _ => now.lowest = lowestStarted calls) hnew ?_ h
  intro past now sent c hpast
  rcases hc : c.heard? with _ | ⟨_ | _, level⟩
  · rw [Call.leaves_of_heard?_eq_none hc, lowestStarted_concat (by simp [hc]), hpast]
  · rw [Call.leaves_of_start hc, lowestStarted_concat_of_start hc, start_lowest, hpast]
  · rw [Call.leaves_of_stop hc, lowestStarted_concat (by simp [hc]), stop_lowest, hpast]

/-- The next call ends a load exactly when it is final. -/
theorem apply_eq_none_iff (hnew : lib.lowest = none) (h : lib.after past = some now) :
    (c.apply now).1 = none ↔ Final past c := by
  have hlowest := lowest_eq_lowestStarted hnew (reaches_of_after h)
  rcases hc : c.heard? with _ | ⟨_ | _, level⟩
  · rw [Call.apply_of_heard?_eq_none hc]
    simp [Final, hc]
  · rw [Call.apply_of_start hc]
    simp [Final, hc]
  · -- the callback cannot change what the load remembers, so the past decides
    rw [Call.apply_of_stop hc]
    have hover : (now.stop level).1.isOverAt level ↔ Final past c := by
      rw [isOverAt_iff, stop_lowest, hlowest]
      simp [Final, hc]
    rw [← hover]
    split <;> simp_all

/-- A load is alive as long as no call was final. -/
theorem after_isSome_iff (hnew : lib.lowest = none) (calls : List Call) :
    (lib.after calls).isSome ↔ NoneYet Final calls := by
  induction calls using List.reverseRecOn with
  | nil => simp [noneYet_nil]
  | append_singleton past c ih =>
    rw [noneYet_concat, ← ih, after_concat]
    rcases hpast : lib.after past with _ | now
    · simp
    · rw [← apply_eq_none_iff hnew hpast, Option.bind_some]
      rcases (c.apply now).1 with _ | next <;> simp

/-- **The end of a load.** Whatever its callbacks do, a load is ended by the first final call of a
run and by no other. -/
theorem endsAtFirst_final (hnew : lib.lowest = none) (calls : List Call) :
    lib.EndsAtFirst Final calls := by
  rintro past c rest -
  rw [Releases, IsFirst, after_isSome_iff hnew]
  refine and_congr_right fun hpast => ?_
  obtain ⟨now, hnow⟩ := Option.isSome_iff_exists.mp ((after_isSome_iff hnew past).mpr hpast)
  rw [after_concat, hnow, Option.bind_some, apply_eq_none_iff hnew hnow]

end Library

/-! ## Loads that start a level before they stop one -/

/-- Some level is brought up before any is torn down. -/
def StartsFirst (calls : List Call) : Prop :=
  ∃ past c rest level, calls = past ++ c :: rest ∧ c.heard? = some (.start, level) ∧
    ∀ d ∈ past, ∀ l, d.heard? ≠ some (.stop, l)

/-- A call that tears down a level at or below the lowest level brought up before. -/
def Due (past : List Call) (c : Call) : Prop :=
  ∃ level lowest, c.heard? = some (.stop, level) ∧ lowestStarted past = some lowest ∧
    level ≤ lowest

/-- In a run that starts first, a level is up whenever one is torn down. -/
theorem StartsFirst.exists_lowestStarted {calls past rest : List Call} {c : Call} {level : Level}
    (h : StartsFirst calls) (hcalls : calls = past ++ c :: rest)
    (hc : c.heard? = some (.stop, level)) : ∃ lowest, lowestStarted past = some lowest := by
  obtain ⟨before, s, others, l, rfl, hs, hbefore⟩ := h
  refine Option.ne_none_iff_exists'.mp fun hnone => ?_
  rw [lowestStarted_eq_none_iff] at hnone
  -- `s` comes before `c`, since all calls before `s` stop nothing and `s` itself starts a level
  rcases List.append_eq_append_iff.mp hcalls with ⟨mid, rfl, hmid⟩ | ⟨mid, rfl, hmid⟩
  · rcases mid with _ | ⟨d, mid⟩
    · obtain ⟨rfl, -⟩ := List.cons.inj hmid
      rw [hs] at hc
      simp at hc
    · obtain ⟨rfl, -⟩ := List.cons.inj hmid
      exact hnone s (by simp) l hs
  · rcases mid with _ | ⟨d, mid⟩
    · obtain ⟨rfl, -⟩ := List.cons.inj hmid
      rw [hs] at hc
      simp at hc
    · obtain ⟨rfl, -⟩ := List.cons.inj hmid
      exact hbefore c (by simp) level hc

/-- Once a level has been brought up, the calls that end a load are the calls that are due. -/
theorem StartsFirst.final_iff_due {calls past rest : List Call} {c : Call}
    (h : StartsFirst calls) (hcalls : calls = past ++ c :: rest) : Final past c ↔ Due past c := by
  constructor
  · rintro ⟨level, hc, hle⟩
    obtain ⟨lowest, hlowest⟩ := h.exists_lowestStarted hcalls hc
    exact ⟨level, lowest, hc, hlowest, hle lowest hlowest⟩
  · rintro ⟨level, lowest, hc, hlowest, hle⟩
    refine ⟨level, hc, fun l hl => ?_⟩
    obtain rfl := Option.some.inj (hlowest.symm.trans hl)
    exact hle

/-- **Release.** Take any successful load and any calls of which one brings a level up before any
tears one down. The load is ended by the first call that tears down a level at or below the lowest
level brought up before, and by no other call; until then it is alive and remembers that lowest
level. -/
theorem load_ends_at_first_due {r : Request} {lib : Library} (hload : r.load.result = .ok lib)
    {calls : List Call} (hfirst : StartsFirst calls) :
    lib.EndsAtFirst Due calls ∧
      ∀ past rest, calls = past ++ rest → NoneYet Due past →
        ∃ now, lib.after past = some now ∧ now.lowest = lowestStarted past := by
  have hnew := Request.lowest_of_load hload
  have hdue : ∀ past c rest, calls = past ++ c :: rest → (Final past c ↔ Due past c) :=
    fun _ _ _ hcalls => hfirst.final_iff_due hcalls
  refine ⟨(Library.endsAtFirst_congr hdue).mp (Library.endsAtFirst_final hnew calls), ?_⟩
  intro past rest hcalls hpast
  have halive : NoneYet Final past := (noneYet_congr hdue hcalls).mpr hpast
  obtain ⟨now, hnow⟩ :=
    Option.isSome_iff_exists.mp ((Library.after_isSome_iff hnew past).mpr halive)
  exact ⟨now, hnow, Library.lowest_eq_lowestStarted hnew (Library.reaches_of_after hnow)⟩

/-- A level brought up late, callbacks that panic, and calls that are not heard: the load is ended
by the stop at `servers`, not by the stops at `editor` and `scene` before it. -/
theorem load_ends_at_first_due_servers :
    ∃ lib, (Request.plain (fun _ => Program.panic) none).load.result = .ok lib ∧
      StartsFirst [.up .scene, ⟨.start, 0, true⟩, .down .editor, ⟨.stop, -1, false⟩, .up .servers,
        .down .scene, .down .servers] ∧
      lib.EndsAtFirst Due [.up .scene, ⟨.start, 0, true⟩, .down .editor, ⟨.stop, -1, false⟩,
        .up .servers, .down .scene, .down .servers] ∧
      lib.Releases [.up .scene, ⟨.start, 0, true⟩, .down .editor, ⟨.stop, -1, false⟩, .up .servers,
        .down .scene] (.down .servers) := by
  have hload : (Request.plain (fun _ => Program.panic) none).load.result = .ok _ := rfl
  have hfirst : StartsFirst [.up .scene, ⟨.start, 0, true⟩, .down .editor, ⟨.stop, -1, false⟩,
      .up .servers, .down .scene, .down .servers] := ⟨[], _, _, .scene, rfl, rfl, by simp⟩
  exact ⟨_, hload, hfirst, (load_ends_at_first_due hload hfirst).1, rfl, rfl⟩

/-! ## Loads that never start a level -/

/-- A call that tears a given level down. -/
def StopsAt (level : Level) (_ : List Call) (c : Call) : Prop := c.heard? = some (.stop, level)

/-- A call that tears some level down. -/
def Stops (past : List Call) (c : Call) : Prop := ∃ level, StopsAt level past c

/-- Where no level is brought up, every call that tears one down would end the load. -/
theorem final_iff_stops {calls past rest : List Call} {c : Call}
    (hnone : NothingStarted calls) (hcalls : calls = past ++ c :: rest) :
    Final past c ↔ Stops past c := by
  have hlowest : lowestStarted past = none := by
    refine lowestStarted_eq_none_iff.mpr fun d hd => hnone d ?_
    rw [hcalls]
    exact List.mem_append_left _ hd
  simp [Final, Stops, StopsAt, hlowest]

/-- If the first level torn down is `level`, the first stop is the first stop at `level`. -/
theorem isFirst_stops_iff_stopsAt {level : Level} {calls past rest : List Call} {c : Call}
    (hlevel : ∀ past c rest, calls = past ++ c :: rest → IsFirst Stops past c →
      StopsAt level past c)
    (hcalls : calls = past ++ c :: rest) :
    IsFirst Stops past c ↔ IsFirst (StopsAt level) past c := by
  constructor
  · intro hc
    exact ⟨fun p d q hp hd => hc.1 p d q hp ⟨level, hd⟩, hlevel past c rest hcalls hc⟩
  · rintro ⟨hpast, hc⟩
    refine ⟨?_, level, hc⟩
    -- an earlier stop would have a first one among them, and that one is at `level`
    by_contra hstop
    obtain ⟨p, d, q, rfl, hd⟩ := exists_isFirst hstop
    exact hpast p d q rfl (hlevel p d (q ++ c :: rest) (by simp [hcalls]) hd)

/-- **Release without a start.** A successful load of which no level is brought up is ended by the
first call that tears a level down, whichever level that is, and is alive until then. So it is the
first call at `core` that ends it exactly when no other level is torn down before `core`. -/
theorem load_ends_at_first_stop {r : Request} {lib : Library} (hload : r.load.result = .ok lib)
    {calls : List Call} (hnone : NothingStarted calls) :
    lib.EndsAtFirst Stops calls ∧
      (∀ past rest, calls = past ++ rest → NoneYet Stops past → (lib.after past).isSome) ∧
      (lib.EndsAtFirst (StopsAt .core) calls ↔
        ∀ past c rest, calls = past ++ c :: rest → IsFirst Stops past c →
          StopsAt .core past c) := by
  have hnew := Request.lowest_of_load hload
  have hstops : ∀ past c rest, calls = past ++ c :: rest → (Final past c ↔ Stops past c) :=
    fun _ _ _ hcalls => final_iff_stops hnone hcalls
  have hends : lib.EndsAtFirst Stops calls :=
    (Library.endsAtFirst_congr hstops).mp (Library.endsAtFirst_final hnew calls)
  refine ⟨hends, ?_, ?_, ?_⟩
  · intro past rest hcalls hpast
    exact (Library.after_isSome_iff hnew past).mpr ((noneYet_congr hstops hcalls).mpr hpast)
  · intro hcore past c rest hcalls hc
    exact ((hcore past c rest hcalls).mp ((hends past c rest hcalls).mpr hc)).2
  · intro hcore past c rest hcalls
    rw [hends past c rest hcalls, isFirst_stops_iff_stopsAt hcore hcalls]

/-- Nothing is up, and calls that are not heard do no harm: the stop at `core` ends the load. -/
theorem load_ends_at_first_stop_core :
    ∃ lib, (Request.plain (fun _ => Program.panic) none).load.result = .ok lib ∧
      NothingStarted [⟨.stop, 4, false⟩, ⟨.start, 2, true⟩, .down .core] ∧
      lib.EndsAtFirst Stops [⟨.stop, 4, false⟩, ⟨.start, 2, true⟩, .down .core] ∧
      lib.Releases [⟨.stop, 4, false⟩, ⟨.start, 2, true⟩] (.down .core) := by
  have hload : (Request.plain (fun _ => Program.panic) none).load.result = .ok _ := rfl
  have hnone : NothingStarted [⟨.stop, 4, false⟩, ⟨.start, 2, true⟩, .down .core] :=
    lowestStarted_eq_none_iff.mp rfl
  exact ⟨_, hload, hnone, (load_ends_at_first_stop hload hnone).1, rfl, rfl⟩

/-- A host that brings nothing up and then tears all levels down from the top holds no state after
the first of its four calls: it is not the stop at `core` that ends every load without a start. -/
theorem not_load_ends_at_core :
    ¬ ∀ (r : Request) (lib : Library) (calls : List Call), r.load.result = .ok lib →
      NothingStarted calls → lib.EndsAtFirst (StopsAt .core) calls := by
  intro h
  have hload : (Request.plain (fun _ => pure ()) none).load.result = .ok _ := rfl
  have hwalk := h _ _ [.down .editor, .down .scene, .down .servers, .down .core] hload
    (lowestStarted_eq_none_iff.mp rfl)
  have hcore := (hwalk [] (.down .editor) _ rfl).mp ⟨rfl, rfl⟩
  simp [IsFirst, StopsAt] at hcore

end EngineExtension
