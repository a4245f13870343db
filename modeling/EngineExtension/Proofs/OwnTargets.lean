import EngineExtension.Log.Dispatch
import Mathlib.Data.List.TakeWhile

/-!
# Which targets are the extension's own

A logger has one filter for the extension's own targets and another for all others. Whether a target
is one of its own is found by a scan from the end that pairs colons as it meets them, so what it
finds depends on how many colons stand together. This module says which targets these are without
scanning.

* `Log.LiesBelow` — a target below another: the other one, colons in pairs, and any text;
* `Log.scanBelow_iff` — what the scan finds in a reversed target, one character at a time;
* `Log.IsOwn`, `Log.isOwn_iff` — the extension's own targets are three names and what lies below;
* `Log.isOwn_path_iff` — of a path made of names, the first name decides.
-/

namespace EngineExtension

namespace Log

/-! ## Targets below others -/

/-- A target lies below a name if it is that name, colons, and any text that does not go on with a
colon, where the number of colons is even and not zero. -/
def LiesBelow (name target : String) : Prop :=
  ∃ (colons : Nat) (text : List Char), colons % 2 = 0 ∧ 2 ≤ colons ∧ text.head? ≠ some ':' ∧
    target.toList = name.toList ++ List.replicate colons ':' ++ text

/-- The same, as the scan meets it: from the end of the target, and with half the colons. -/
def EndsBelow (reversed : List Char) : Prop :=
  ∃ text pairs name, text.getLast? ≠ some ':' ∧ isOwnTarget name.reverse = true ∧
    reversed = text ++ List.replicate (2 * pairs + 2) ':' ++ name

/-! ## The scan -/

/-- A character that is no colon, in front, changes nothing about it. -/
theorem EndsBelow.cons {c : Char} {cs : List Char} (hc : c ≠ ':') (h : EndsBelow cs) :
    EndsBelow (c :: cs) := by
  obtain ⟨text, pairs, name, htext, hname, rfl⟩ := h
  refine ⟨c :: text, pairs, name, ?_, hname, rfl⟩
  rcases List.eq_nil_or_concat text with rfl | ⟨init, last, rfl⟩
  · simpa using hc
  · simpa [List.getLast?_cons] using htext

/-- Nor does a colon, with one more character behind it. -/
theorem EndsBelow.colon_cons {c : Char} {cs : List Char} (h : EndsBelow cs) :
    EndsBelow (':' :: c :: cs) := by
  obtain ⟨text, pairs, name, htext, hname, rfl⟩ := h
  rcases List.eq_nil_or_concat text with rfl | ⟨init, last, rfl⟩
  · by_cases hc : c = ':'
    · -- two more colons in front of the others make one more pair
      subst hc
      exact ⟨[], pairs + 1, name, by simp, hname, rfl⟩
    · exact ⟨[':', c], pairs, name, by simpa using hc, hname, rfl⟩
  · exact ⟨':' :: c :: init.concat last, pairs, name, by simpa [List.getLast?_cons] using htext,
      hname, rfl⟩

/-- Inversion for a scan that finds something. A colon just passed belongs to the text. -/
theorem endsBelow_of_scanBelow {pending : Bool} {cs : List Char} (h : scanBelow pending cs = true) :
    EndsBelow (if pending then ':' :: cs else cs) := by
  fun_induction scanBelow pending cs with
  | case1 => cases h
  | case2 c cs ih =>
    -- the colon just passed is paired with this one, or left to the text
    rcases (Bool.or_eq_true _ _).mp h with hnow | hlater
    · obtain ⟨hc, hname⟩ := (Bool.and_eq_true _ _).mp hnow
      obtain rfl : c = ':' := by simpa using hc
      exact ⟨[], 0, cs, by simp, hname, rfl⟩
    · exact (ih hlater).colon_cons
  | case3 c cs ih =>
    have hrest := ih h
    by_cases hc : c = ':'
    · subst hc
      exact hrest
    · have hpending : (c == ':') = false := by simpa using hc
      rw [hpending] at hrest
      exact hrest.cons hc

/-- Colons are paired as they come, so that an even number of them ends in front of the name. -/
theorem scanBelow_colons {name : List Char} (hname : isOwnTarget name.reverse = true)
    (pairs : Nat) : scanBelow false (List.replicate (2 * pairs + 2) ':' ++ name) = true := by
  induction pairs with
  | zero => simp [scanBelow, List.replicate_succ, hname]
  | succ pairs ih =>
    have hmore : List.replicate (2 * (pairs + 1) + 2) ':' ++ name =
        ':' :: ':' :: (List.replicate (2 * pairs + 2) ':' ++ name) := rfl
    rw [hmore]
    simp [scanBelow, ih]

/-- A character that is no colon ends all pairing, whatever comes before it. -/
theorem scanBelow_append {c : Char} {cs : List Char} (hc : c ≠ ':') (h : scanBelow false cs = true)
    (text : List Char) (pending : Bool) : scanBelow pending (text ++ c :: cs) = true := by
  have hpending : (c == ':') = false := by simpa using hc
  induction text generalizing pending with
  | nil => cases pending <;> simp [scanBelow, hpending, h]
  | cons x text ih => cases pending <;> simp [scanBelow, ih]

/-- **The scan.** It finds an own target exactly if the text begins with one, read from its end, and
goes on with colons in pairs. -/
theorem scanBelow_iff {cs : List Char} : scanBelow false cs = true ↔ EndsBelow cs := by
  constructor
  · exact endsBelow_of_scanBelow
  · rintro ⟨text, pairs, name, htext, hname, rfl⟩
    have hcolons := scanBelow_colons hname pairs
    rcases List.eq_nil_or_concat text with rfl | ⟨init, last, rfl⟩
    · exact hcolons
    · have hlast : last ≠ ':' := by simpa using htext
      have hsplit : init.concat last ++ List.replicate (2 * pairs + 2) ':' ++ name =
          init ++ last :: (List.replicate (2 * pairs + 2) ':' ++ name) := by simp
      rw [hsplit]
      exact scanBelow_append hlast hcolons init false

/-! ## Own targets -/

/-- The extension's own targets: three names, and what lies below one of them. -/
def IsOwn (target : String) : Prop :=
  ∃ name ∈ ["gdscaffold", "gdscaffold_core", "gdscaffold_sys"],
    target = name ∨ LiesBelow name target

/-- The scan compares with the names as they are. -/
theorem isOwnTarget_iff {cs : List Char} :
    isOwnTarget cs = true ↔ ∃ name ∈ ownTargets, name.toList = cs := by
  simp [isOwnTarget]

theorem endsBelow_reverse_iff {target : String} :
    EndsBelow target.toList.reverse ↔ ∃ name ∈ ownTargets, LiesBelow name target := by
  constructor
  · rintro ⟨text, pairs, reversed, htext, hown, htarget⟩
    obtain ⟨name, hname, hreversed⟩ := isOwnTarget_iff.mp hown
    refine ⟨name, hname, 2 * pairs + 2, text.reverse, by omega, by omega, ?_, ?_⟩
    · simpa using htext
    · rw [hreversed, ← List.reverse_reverse target.toList, htarget]
      simp
  · rintro ⟨name, hname, colons, text, heven, hcolons, htext, htarget⟩
    refine ⟨text.reverse, colons / 2 - 1, name.toList.reverse, ?_, ?_, ?_⟩
    · simpa using htext
    · exact isOwnTarget_iff.mpr ⟨name, hname, by simp⟩
    · have hpairs : 2 * (colons / 2 - 1) + 2 = colons := by omega
      rw [htarget, hpairs]
      simp

/-- **Which targets the scan takes as own**: the names, and what lies below them. -/
theorem isOwn_iff {target : String} : isOwn target = true ↔ IsOwn target := by
  have hequal : isOwnTarget target.toList = true ↔ ∃ name ∈ ownTargets, target = name := by
    simp only [isOwnTarget_iff, String.toList_inj, eq_comm (a := target)]
  rw [isOwn, Bool.or_eq_true, hequal, scanBelow_iff, endsBelow_reverse_iff, ← exists_or]
  simp only [← and_or_left]
  rfl

/-! ## Paths of names -/

/-- A name in a path. -/
def IsSegment (s : String) : Prop := s ≠ "" ∧ ':' ∉ s.toList

/-- Names joined by double colons. -/
def path (first : String) (more : List String) : String := "::".intercalate (first :: more)

theorem path_cons (first second : String) (more : List String) :
    (path first (second :: more)).toList =
      first.toList ++ List.replicate 2 ':' ++ (path second more).toList := by
  simp [path, List.replicate]

/-- A path of segments begins with no colon. -/
theorem head?_path_ne {first : String} (h : IsSegment first) (more : List String) :
    (path first more).toList.head? ≠ some ':' := by
  obtain ⟨hne, hcolon⟩ := h
  obtain ⟨c, cs, hcs⟩ := List.exists_cons_of_ne_nil (mt String.toList_eq_nil_iff.mp hne)
  have hc : c ≠ ':' := by
    rintro rfl
    exact hcolon (hcs ▸ List.mem_cons_self)
  rcases more with _ | ⟨second, more⟩
  · simpa [path, hcs] using hc
  · simpa [path_cons, hcs] using hc

/-- A path is its first name, or lies below it. -/
theorem path_below {first : String} {more : List String} (h : ∀ s ∈ more, IsSegment s) :
    path first more = first ∨ LiesBelow first (path first more) := by
  rcases more with _ | ⟨second, more⟩
  · left
    simp [path]
  · right
    have hhead := head?_path_ne (h second List.mem_cons_self) more
    exact ⟨2, _, rfl, Nat.le_refl 2, hhead, path_cons first second more⟩

/-- What lies below a name shows the name in front of its first colon. -/
theorem takeWhile_of_below {name target : String} (hname : ':' ∉ name.toList)
    (h : target = name ∨ LiesBelow name target) :
    target.toList.takeWhile (· ≠ ':') = name.toList := by
  have hpos : ∀ c ∈ name.toList, decide (c ≠ ':') = true := by
    intro c hc
    refine decide_eq_true ?_
    rintro rfl
    exact hname hc
  rcases h with rfl | ⟨colons, text, -, hcolons, -, htarget⟩
  · exact List.takeWhile_eq_self_iff.mpr hpos
  · obtain ⟨n, rfl⟩ := Nat.exists_eq_add_of_le' hcolons
    rw [htarget, List.append_assoc, List.takeWhile_append_of_pos hpos]
    simp [List.replicate_succ]

theorem colon_notMem_of_mem_ownTargets {name : String} (h : name ∈ ownTargets) :
    ':' ∉ name.toList := by
  revert name
  decide

/-- Of a path made of names, the first name decides. -/
theorem isOwn_path_iff {first : String} {more : List String}
    (h : ∀ s ∈ first :: more, IsSegment s) :
    IsOwn (path first more) ↔ first ∈ ownTargets := by
  obtain ⟨hfirst, hmore⟩ := List.forall_mem_cons.mp h
  have hpath : path first more = first ∨ LiesBelow first (path first more) := path_below hmore
  constructor
  · rintro ⟨name, hname, hbelow⟩
    have hown := takeWhile_of_below (colon_notMem_of_mem_ownTargets hname) hbelow
    rw [takeWhile_of_below hfirst.2 hpath] at hown
    rwa [String.toList_inj.mp hown]
  · intro hname
    exact ⟨first, hname, hpath⟩

end Log

/-- **Which targets are the extension's own.** Take any logger. A record is held against the filter
for the extension's own targets if its target is one of three names, or one of them followed by
colons, of which there are as many as possible and an even number of at least two, and by any text.
In all other cases it is held against the other filter. So for a path, made of names that are not
empty and hold no colon, the first name decides. -/
theorem own_filter_for_own_names (d : Log.Dispatch) :
    (∀ target,
      (Log.IsOwn target → d.filterFor target = d.filters.app) ∧
      (¬ Log.IsOwn target → d.filterFor target = d.filters.other)) ∧
    ∀ first more, (∀ s ∈ first :: more, Log.IsSegment s) →
      (first ∈ ["gdscaffold", "gdscaffold_core", "gdscaffold_sys"] →
        d.filterFor (Log.path first more) = d.filters.app) ∧
      (first ∉ ["gdscaffold", "gdscaffold_core", "gdscaffold_sys"] →
        d.filterFor (Log.path first more) = d.filters.other) := by
  have hfilter : ∀ target,
      (Log.IsOwn target → d.filterFor target = d.filters.app) ∧
      (¬ Log.IsOwn target → d.filterFor target = d.filters.other) := by
    intro target
    rw [← Log.isOwn_iff]
    exact ⟨fun h => if_pos h, fun h => if_neg h⟩
  refine ⟨hfilter, fun first more h => ?_⟩
  have hown := Log.isOwn_path_iff h
  exact ⟨fun hfirst => (hfilter _).1 (hown.mpr hfirst),
    fun hfirst => (hfilter _).2 (mt hown.mp hfirst)⟩

/-- A logger that lets nothing of its own through. -/
def Log.Dispatch.selfless : Log.Dispatch := ⟨"demo", ⟨.off, .upTo .info⟩, none⟩

/-- Colons count: four of them are two pairs, and of three one is left over. -/
theorem own_filter_for_own_names_colons :
    Log.Dispatch.selfless.filterFor "gdscaffold::::far" = .off ∧
    Log.Dispatch.selfless.filterFor "gdscaffold:::far" = .upTo .info ∧
    Log.Dispatch.selfless.filterFor (Log.path "gdscaffold_core" ["binding"]) = .off ∧
    Log.Dispatch.selfless.filterFor (Log.path "gdscaffoldx" ["a"]) = .upTo .info := by
  obtain ⟨htargets, hpaths⟩ := own_filter_for_own_names .selfless
  have hfour : Log.IsOwn "gdscaffold::::far" :=
    ⟨"gdscaffold", by decide, .inr ⟨4, ['f', 'a', 'r'], rfl, by decide, by decide, by decide⟩⟩
  have hthree : ¬ Log.IsOwn "gdscaffold:::far" := by
    rw [← Log.isOwn_iff]
    decide
  have hcore := hpaths "gdscaffold_core" ["binding"] (by simp [Log.IsSegment])
  have hother := hpaths "gdscaffoldx" ["a"] (by simp [Log.IsSegment])
  exact ⟨(htargets _).1 hfour, (htargets _).2 hthree, hcore.1 (by decide), hother.2 (by decide)⟩

end EngineExtension
