import EngineExtension.Proofs.Registry
import Mathlib.Data.List.AList

/-!
# A registry is a map from names

A registry keeps its classes in a list, and finds, adds and removes them by walking through it. What
is meant is a map: under each name one class is held or none, and the names are in the order in
which they came. This module has that map, and shows that nobody can tell the two apart.

* `Operation` — what can be done to a registry, and `Operation.runAll`, a row of it;
* `Directory` — the map, with the same operations said in terms of what is held under a name;
* `Mirrors` — the list and the map hold the same. Each operation gives the same reply on both and
  leaves them so (`Mirrors.operate`), and so does a row of operations (`Operation.runAll_agree`);
* `lastEntered?` — the level that a row of operations turned to last.
-/

namespace EngineExtension

/-! ## Operations -/

/-- What can be done to a registry. -/
inductive Operation where
  | enter (level : Level)
  | register (c : ClassDecl)
  | unregister (level : Level)
  deriving DecidableEq, Repr

namespace Operation

variable {σ τ : Type}

/-- The level that an operation turns to. -/
def entered? : Operation → Option Level
  | enter level => some level
  | _ => none

/-- Carries out operations in order: the replies, and what is there after them. -/
def runAll (operate : σ → Operation → Reply × σ) (s : σ) : List Operation → List Reply × σ
  | [] => ([], s)
  | op :: rest =>
    let (reply, s) := operate s op
    let (replies, s) := runAll operate s rest
    (reply :: replies, s)

theorem runAll_cons (operate : σ → Operation → Reply × σ) (s : σ) (op : Operation)
    (rest : List Operation) :
    runAll operate s (op :: rest) =
      ((operate s op).1 :: (runAll operate (operate s op).2 rest).1,
        (runAll operate (operate s op).2 rest).2) := rfl

/-- Two ways to carry out operations that agree on each of them agree on every row. -/
theorem runAll_agree {R : σ → τ → Prop} {f : σ → Operation → Reply × σ}
    {g : τ → Operation → Reply × τ}
    (hstep : ∀ s t op, R s t → (f s op).1 = (g t op).1 ∧ R (f s op).2 (g t op).2)
    (ops : List Operation) {s : σ} {t : τ} (h : R s t) :
    (runAll f s ops).1 = (runAll g t ops).1 ∧ R (runAll f s ops).2 (runAll g t ops).2 := by
  induction ops generalizing s t with
  | nil => exact ⟨rfl, h⟩
  | cons op rest ih =>
    obtain ⟨hreply, hnext⟩ := hstep s t op h
    obtain ⟨hreplies, hlast⟩ := ih hnext
    exact ⟨congrArg₂ List.cons hreply hreplies, hlast⟩

end Operation

/-- The level that operations turned to last. -/
def lastEntered? (ops : List Operation) : Option Level :=
  (ops.filterMap Operation.entered?).getLast?

namespace Registry

/-- Carries out an operation. -/
def operate (r : Registry) : Operation → Reply × Registry
  | .enter level => (.none, r.enter level)
  | .register c =>
    match r.register c with
    | (.ok _, r) => (.registered, r)
    | (.error e, r) => (.refused e, r)
  | .unregister level => (.names ((r.unregister level).1.map (·.name)), (r.unregister level).2)

/-- The registry after operations on a new one. -/
def after (ops : List Operation) : Registry := (Operation.runAll operate {} ops).2

/-- The replies to operations on a new registry. -/
def replies (ops : List Operation) : List Reply := (Operation.runAll operate {} ops).1

end Registry

/-! ## Directories -/

/-- What is held under the name of a class. -/
structure Particulars where
  parent : String
  kind : ClassKind
  level : Level
  deriving DecidableEq, Repr

/-- The class that is held under a name. -/
def Particulars.entry (p : Particulars) (name : String) : ClassEntry :=
  ⟨⟨name, p.parent, p.kind⟩, p.level⟩

/-- A registry as a map. -/
structure Directory where
  /-- the level worked on last, if there was one -/
  level : Option Level := none
  /-- what is held under which name, the name that came last first -/
  held : AList fun _ : String => Particulars := ∅

namespace Directory

/-- The names that are held at a level, the last one first. -/
def namesAt (d : Directory) (level : Level) : List String :=
  d.held.keys.filter fun name => (d.held.lookup name).any (·.level = level)

/-- Forgets names. -/
def forget (d : Directory) (names : List String) : Directory :=
  { d with held := names.foldl (fun held name => held.erase name) d.held }

/-- Carries out an operation. -/
def operate (d : Directory) : Operation → Reply × Directory
  | .enter level => (.none, { d with level := some level })
  | .register c =>
    match d.level, d.held.lookup c.name with
    | none, _ => (.refused (.noLevel c.name), d)
    | some _, some p => (.refused (.taken c.name p.level), d)
    | some level, none =>
      (.registered, { d with held := d.held.insert c.name ⟨c.parent, c.kind, level⟩ })
  | .unregister level => (.names (d.namesAt level), d.forget (d.namesAt level))

/-- The directory after operations on an empty one. -/
def after (ops : List Operation) : Directory := (Operation.runAll operate {} ops).2

/-- The replies to operations on an empty directory. -/
def replies (ops : List Operation) : List Reply := (Operation.runAll operate {} ops).1

/-- The classes held, in the order in which their names came. -/
def listing (d : Directory) : List ClassEntry :=
  d.held.entries.reverse.map fun x => x.2.entry x.1

variable {d : Directory} {level : Level}

/-- The listing has the names in the order in which they were taken in. -/
theorem names_listing (d : Directory) : d.listing.map (·.name) = d.held.keys.reverse := by
  simp [listing, AList.keys, List.keys, Particulars.entry, Function.comp_def]

/-- A class is listed just if the directory has it under its name. -/
theorem mem_listing {e : ClassEntry} :
    e ∈ d.listing ↔ d.held.lookup e.name = some ⟨e.parent, e.kind, e.level⟩ := by
  rw [← Option.mem_def, AList.mem_lookup_iff]
  simp only [listing, List.mem_map, List.mem_reverse]
  constructor
  · rintro ⟨⟨name, p⟩, hmem, rfl⟩
    exact hmem
  · intro hmem
    exact ⟨_, hmem, rfl⟩

/-- An entry of the map is what is held under its name. -/
theorem any_lookup {x : Sigma fun _ : String => Particulars} (hx : x ∈ d.held.entries) :
    (d.held.lookup x.1).any (·.level = level) = decide (x.2.level = level) := by
  have hlookup : d.held.lookup x.1 = some x.2 := AList.mem_lookup_iff.mpr hx
  simp [hlookup]

/-- The names at a level are those of the classes that are held there. -/
theorem mem_namesAt {x : Sigma fun _ : String => Particulars} (hx : x ∈ d.held.entries) :
    x.1 ∈ d.namesAt level ↔ x.2.level = level := by
  have hkey : x.1 ∈ d.held.keys := List.mem_map_of_mem hx
  simp [namesAt, hkey, any_lookup hx]

/-- The names that are held at a level are those of its classes. -/
theorem namesAt_eq (d : Directory) (level : Level) :
    d.namesAt level = (d.listing.filter (·.level = level)).reverse.map (·.name) := by
  rw [namesAt, listing, AList.keys, List.keys, List.filter_map, List.filter_map,
    List.filter_reverse, ← List.map_reverse, List.reverse_reverse, List.map_map]
  exact congrArg _ (List.filter_congr fun x hx => any_lookup hx)

theorem erase_entries (m : AList fun _ : String => Particulars) (name : String) :
    (m.erase name).entries = m.entries.filter (·.1 ≠ name) := by
  obtain ⟨entries, hnodup⟩ := m
  change entries.kerase name = _
  induction entries with
  | nil => rfl
  | cons x entries ih =>
    obtain ⟨hx, hentries⟩ := List.nodupKeys_cons.mp hnodup
    by_cases hname : name = x.1
    · -- no other entry has this name, so none of them goes
      have hrest : entries.filter (·.1 ≠ name) = entries := by
        refine List.filter_eq_self.mpr fun y hy => ?_
        have hne : y.1 ≠ name := by
          rintro rfl
          exact hx (hname ▸ List.mem_map_of_mem hy)
        simpa using hne
      rw [List.kerase_cons_eq hname, List.filter_cons_of_neg (by simp [hname]), hrest]
    · rw [List.kerase_cons_ne hname, ih hentries,
        List.filter_cons_of_pos (by simpa using Ne.symm hname)]

/-- Forgetting names leaves the other classes, in their order. -/
theorem forget_entries (d : Directory) (names : List String) :
    (d.forget names).held.entries = d.held.entries.filter (·.1 ∉ names) := by
  obtain ⟨level, held⟩ := d
  change (names.foldl (fun held name => held.erase name) held).entries = _
  induction names generalizing held with
  | nil => simp
  | cons name names ih =>
    rw [List.foldl_cons, ih, erase_entries, List.filter_filter]
    simp [not_or, Bool.and_comm]

/-- Forgetting the names of a level leaves the classes of all others. -/
theorem listing_forget (d : Directory) (level : Level) :
    (d.forget (d.namesAt level)).listing = d.listing.filter (·.level ≠ level) := by
  have hkept : ∀ x ∈ d.held.entries,
      decide (x.1 ∉ d.namesAt level) = decide (x.2.level ≠ level) := by
    intro x hx
    simp [mem_namesAt hx]
  rw [listing, forget_entries, List.filter_congr hkept, listing, List.filter_map,
    List.filter_reverse]
  rfl

/-- A new class is listed last. -/
theorem listing_insert {name : String} (hfree : d.held.lookup name = none) (p : Particulars) :
    { d with held := d.held.insert name p }.listing = d.listing ++ [p.entry name] := by
  rw [listing, AList.entries_insert_of_notMem (AList.lookup_eq_none.mp hfree)]
  simp [listing]

end Directory

/-! ## The list and the map -/

/-- A registry holds what a directory says, in the same order. -/
structure Mirrors (r : Registry) (d : Directory) : Prop where
  level : r.level = d.level
  entries : r.entries = d.listing

namespace Mirrors

variable {r : Registry} {d : Directory}

/-- No name is held twice. -/
theorem nodup (h : Mirrors r d) : (r.entries.map (·.name)).Nodup := by
  rw [h.entries, d.names_listing, List.nodup_reverse]
  exact d.held.keys_nodup

/-- The class found by its name is the one that is held under it. -/
theorem find? (h : Mirrors r d) (name : String) :
    r.find? name = (d.held.lookup name).map (·.entry name) := by
  have hmem : ∀ e : ClassEntry, e ∈ r.entries ↔
      d.held.lookup e.name = some ⟨e.parent, e.kind, e.level⟩ := by
    intro e
    rw [h.entries, Directory.mem_listing]
  rcases hfound : r.find? name with _ | e
  · rcases hlookup : d.held.lookup name with _ | p
    · rfl
    · have hnone := List.find?_eq_none.mp hfound (p.entry name) ((hmem _).mpr hlookup)
      exact absurd (decide_eq_true rfl) hnone
  · obtain rfl : e.name = name := by simpa using List.find?_some hfound
    rw [(hmem e).mp (List.mem_of_find?_eq_some hfound)]
    rfl

/-- A registry has the names that the directory has. -/
theorem has (h : Mirrors r d) (name : String) : r.has name = (d.held.lookup name).isSome := by
  rw [Bool.eq_iff_iff, Registry.has, List.any_eq_true, ← List.find?_isSome]
  change (r.find? name).isSome ↔ _
  rw [h.find?, Option.isSome_map]

theorem size (h : Mirrors r d) : r.size = d.held.keys.length := by
  rw [Registry.size, ← List.length_map (·.name), h.entries, d.names_listing, List.length_reverse]

theorem isEmpty_iff (h : Mirrors r d) : r.isEmpty = true ↔ d.held = ∅ := by
  rw [Registry.isEmpty, List.isEmpty_iff, h.entries]
  constructor
  · intro hnone
    refine AList.ext ?_
    simpa [Directory.listing] using hnone
  · intro hnone
    simp [Directory.listing, hnone]

/-- What comes of a registration, by what is held under the name. -/
theorem register (h : Mirrors r d) (c : ClassDecl) :
    r.register c = match d.level, d.held.lookup c.name with
      | none, _ => (.error (.noLevel c.name), r)
      | some _, some p => (.error (.taken c.name p.level), r)
      | some level, none => (.ok ⟨c, level⟩, { r with entries := r.entries ++ [⟨c, level⟩] }) := by
  rw [Registry.register, Registry.place, h.level, h.find?]
  rcases d.level with _ | level
  · rfl
  · rcases d.held.lookup c.name with _ | p <;> rfl

/-- **One operation.** The replies are the same, and so is what is held after it. -/
theorem operate (h : Mirrors r d) (op : Operation) :
    (r.operate op).1 = (d.operate op).1 ∧ Mirrors (r.operate op).2 (d.operate op).2 := by
  cases op with
  | enter level => exact ⟨rfl, rfl, h.entries⟩
  | register c =>
    rw [Registry.operate, h.register, Directory.operate]
    rcases hlevel : d.level with _ | level
    · exact ⟨rfl, h⟩
    · rcases hlookup : d.held.lookup c.name with _ | p
      · refine ⟨rfl, h.level.trans hlevel, ?_⟩
        have hlisting := Directory.listing_insert hlookup ⟨c.parent, c.kind, level⟩
        rw [← h.entries] at hlisting
        exact hlisting.symm
      · exact ⟨rfl, h⟩
  | unregister level =>
    rw [Registry.operate, Directory.operate]
    refine ⟨?_, h.level, ?_⟩
    · rw [Registry.unregister_gone, d.namesAt_eq, h.entries]
    · rw [Registry.unregister_entries, d.listing_forget, h.entries]

/-- **All operations**, from the beginning on. -/
theorem after (ops : List Operation) :
    Registry.replies ops = Directory.replies ops ∧
      Mirrors (Registry.after ops) (Directory.after ops) :=
  Operation.runAll_agree (R := Mirrors) (fun _ _ op h => operate h op) ops ⟨rfl, rfl⟩

end Mirrors

/-! ## The level worked on -/

namespace Registry

/-- Registering a class enters no level. -/
theorem register_level (r : Registry) (c : ClassDecl) : (r.register c).2.level = r.level := by
  rw [register]
  split <;> rfl

/-- A registration that is refused changes nothing. -/
theorem register_of_error {r : Registry} {c : ClassDecl} {e : RegistrationError}
    (h : (r.register c).1 = .error e) : (r.register c).2 = r := by
  rw [register] at h ⊢
  split
  · next hplace =>
    rw [hplace] at h
    cases h
  · rfl

/-- An operation changes the level only by entering one. -/
theorem operate_level (r : Registry) (op : Operation) :
    (r.operate op).2.level = op.entered?.or r.level := by
  cases op with
  | enter level => rfl
  | register c =>
    rw [operate]
    have hlevel := r.register_level c
    split
    · next hr => rwa [hr] at hlevel
    · next hr => rwa [hr] at hlevel
  | unregister level => rfl

/-- After a row of operations, the level is the last one entered. -/
theorem runAll_level (r : Registry) (ops : List Operation) :
    (Operation.runAll operate r ops).2.level = (lastEntered? ops).or r.level := by
  induction ops generalizing r with
  | nil => rfl
  | cons op rest ih =>
    have hlast : lastEntered? (op :: rest) = (lastEntered? rest).or op.entered? := by
      rw [lastEntered?, List.filterMap_cons]
      rcases op.entered? with _ | level
      · exact Option.or_none.symm
      · simp [lastEntered?, List.getLast?_cons]
    rw [Operation.runAll_cons, ih, operate_level, hlast, Option.or_assoc]

/-- The level that a registry works on is the one it turned to last. -/
theorem after_level (ops : List Operation) : (after ops).level = lastEntered? ops := by
  rw [after, runAll_level]
  exact Option.or_none

/-- A new registry takes nothing in as long as it has no level to work on. -/
theorem operate_new {op : Operation} (h : op.entered? = none) :
    (({} : Registry).operate op).2 = {} := by
  cases op with
  | enter level => cases h
  | register c => rfl
  | unregister level => simp [operate, unregister_eq]

/-- A registry at which no level was entered is as it was made: nothing could be registered. -/
theorem after_of_never {ops : List Operation} (h : lastEntered? ops = none) : after ops = {} := by
  have hnever : ∀ op ∈ ops, op.entered? = none :=
    List.filterMap_eq_nil_iff.mp (List.getLast?_eq_none_iff.mp h)
  rw [after]
  clear h
  induction ops with
  | nil => rfl
  | cons op rest ih =>
    obtain ⟨hop, hrest⟩ := List.forall_mem_cons.mp hnever
    rw [Operation.runAll_cons, operate_new hop]
    exact ih hrest

end Registry

/-- **A registry is a map from names.** Take any row of operations on a new registry, and the same
on an empty directory. No two classes have the same name, every operation is answered alike by both,
and whatever is asked of the registry after them, the answer can be read in the directory.

A class is refused if the registry never turned to a level, and if its name is held, at whatever
level that is: the refusal names this level. Otherwise it comes last, at the level that the registry
turned to last. A refusal leaves everything as it was. So a registry that never turned to a level is
as new. -/
theorem registry_refines_directory (ops : List Operation) :
    ((Registry.after ops).entries.map (·.name)).Nodup ∧
    Registry.replies ops = Directory.replies ops ∧
    (Registry.after ops).level = lastEntered? ops ∧
    (Registry.after ops).entries = (Directory.after ops).listing ∧
    (∀ name, (Registry.after ops).has name = ((Directory.after ops).held.lookup name).isSome) ∧
    (Registry.after ops).size = (Directory.after ops).held.keys.length ∧
    ((Registry.after ops).isEmpty = true ↔ (Directory.after ops).held = ∅) ∧
    (∀ c, (Registry.after ops).register c =
      match lastEntered? ops, (Directory.after ops).held.lookup c.name with
      | none, _ => (.error (.noLevel c.name), Registry.after ops)
      | some _, some p => (.error (.taken c.name p.level), Registry.after ops)
      | some level, none => (.ok ⟨c, level⟩,
          { Registry.after ops with entries := (Registry.after ops).entries ++ [⟨c, level⟩] })) ∧
    (∀ c e, ((Registry.after ops).register c).1 = .error e →
      ((Registry.after ops).register c).2 = Registry.after ops) ∧
    (lastEntered? ops = none → Registry.after ops = {}) := by
  obtain ⟨hreplies, hmirrors⟩ := Mirrors.after ops
  refine ⟨hmirrors.nodup, hreplies, Registry.after_level ops, hmirrors.entries, hmirrors.has,
    hmirrors.size, hmirrors.isEmpty_iff, ?_, fun c e => Registry.register_of_error,
    Registry.after_of_never⟩
  intro c
  have hlevel : (Directory.after ops).level = lastEntered? ops :=
    hmirrors.level.symm.trans (Registry.after_level ops)
  rw [hmirrors.register, hlevel]

/-- A class that comes too early, then twice, and again at another level when the first is gone. -/
def Operation.registerAgain : List Operation :=
  [.register ⟨"Player", "Node", .concrete⟩, .enter .scene, .register ⟨"Player", "Node", .concrete⟩,
    .register ⟨"Enemy", "Player", .abstract⟩, .enter .editor,
    .register ⟨"Player", "Node", .runtime⟩, .unregister .scene,
    .register ⟨"Player", "Node", .runtime⟩]

/-- The directory says what the registry replied; a third attempt is refused with the new level. -/
theorem registry_refines_directory_registered_again :
    Registry.replies Operation.registerAgain =
      [.refused (.noLevel "Player"), .none, .registered, .registered, .none,
        .refused (.taken "Player" .scene), .names ["Enemy", "Player"], .registered] ∧
    ((Registry.after Operation.registerAgain).register ⟨"Player", "Node", .virtual⟩).1 =
      .error (.taken "Player" .editor) ∧
    lastEntered? [.register ⟨"Player", "Node", .concrete⟩, .unregister .core] = none ∧
    Registry.after [.register ⟨"Player", "Node", .concrete⟩, .unregister .core] = {} := by
  obtain ⟨-, hreplies, -, -, -, -, -, hregister, -, -⟩ :=
    registry_refines_directory Operation.registerAgain
  obtain ⟨-, -, -, -, -, -, -, -, -, hnever⟩ :=
    registry_refines_directory [.register ⟨"Player", "Node", .concrete⟩, .unregister .core]
  refine ⟨?_, ?_, rfl, hnever rfl⟩
  · rw [hreplies]
    rfl
  · rw [hregister]
    rfl

end EngineExtension
