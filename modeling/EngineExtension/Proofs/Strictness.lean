import EngineExtension.Proofs.Decoding
import Mathlib.Data.List.DropRight

/-!
# Stricter readers

Two readers of a record may differ in one thing only: of what is in a field, the lax reader takes
all, and the strict one puts it to a test. Then they go through a text side by side. The strict
reader finds what the lax one finds if it passes the test, and stops at it if it does not. All the
rest of the text plays no role, so that nothing has to be said about how it is written.

* `Settles` — the strict reader's answer to something found;
* `Reader.Screens`, `Shape.Screens` — a strict reader and a lax one, for a value and for the fields
  of a record;
* `readMembers_keeps` — a field that was read stays as it was read;
* `readMembers_settles`, `readElements_settles` — records as objects and as lists;
* `readRecord_screens` — if the fields of a record are put to a test, the record is.
-/

namespace EngineExtension.Json

variable {α β γ δ : Type}

/-! ## Answers to something found -/

/-- What becomes of something that was found in front of `rest`, given what a test made of it. -/
inductive Settles (rest : List Char) : Option α → Except Failure (α × List Char) → Prop where
  | passed (a : α) : Settles rest (some a) (.ok (a, rest))
  | refused (e : Failure) : Settles rest none (.error e)

/-- Whatever the lax reader finds, the strict reader puts to the test `p`. -/
def Reader.Screens (strict : Reader α) (lax : Reader γ) (p : γ → Option α) : Prop :=
  ∀ (cs rest : List Char) (x : γ), lax.read cs = .ok (x, rest) →
    Settles rest (p x) (strict.read cs)

/-- A reader puts what it finds to a test that lets all pass. -/
theorem Reader.screens_self (r : Reader α) : r.Screens r some := by
  intro cs rest x h
  rw [h]
  exact .passed x

/-- A colon in front of what is tested makes no difference. -/
theorem Reader.Screens.afterColon {strict : Reader α} {lax : Reader γ} {p : γ → Option α}
    (h : strict.Screens lax p) : strict.afterColon.Screens lax.afterColon p := by
  intro cs rest x hx
  rcases hcolon : readColon cs with e | text
  · simp only [Reader.afterColon, hcolon] at hx
    cases hx
  · simp only [Reader.afterColon, hcolon] at hx ⊢
    exact h text rest x hx

/-- Inversion for two steps that succeed: each of them does. -/
theorem eq_ok_of_bind_eq_ok {x : Except Failure α} {k : α → Except Failure β} {b : β}
    (h : x.bind k = .ok b) : ∃ a, x = .ok a ∧ k a = .ok b := by
  cases x with
  | error e => cases h
  | ok a => exact ⟨a, rfl, h⟩

/-- What comes after something found is read on, if the test lets it pass. -/
theorem Settles.bind {o : Option α} {x : Except Failure (α × List Char)} {o' : Option β}
    {text rest : List Char} {k : α × List Char → Except Failure (β × List Char)}
    (h : Settles text o x) (hpassed : ∀ a, o = some a → Settles rest o' (k (a, text)))
    (hrefused : o = none → o' = none) : Settles rest o' (x.bind k) := by
  cases h with
  | passed a => exact hpassed a rfl
  | refused e =>
    rw [hrefused rfl]
    exact .refused e

/-- Turning what passed into something else keeps what was settled. -/
theorem Settles.map {o : Option α} {x : Except Failure (α × List Char)} {rest : List Char}
    (h : Settles rest o x) (k : α → β) :
    Settles rest (o.map k) (x.map fun p => (k p.1, p.2)) := by
  cases h with
  | passed a => exact .passed (k a)
  | refused e => exact .refused e

/-- The test of a record: both its fields pass their own. -/
def testBoth (p : γ → Option α) (q : δ → Option β) (v : γ × δ) : Option (α × β) :=
  (p v.1).bind fun a => (q v.2).map (a, ·)

/-- A record passes if both of its fields do. -/
theorem testBoth_of_some {p : γ → Option α} {q : δ → Option β} {v : γ × δ} {a : α} {b : β}
    (ha : p v.1 = some a) (hb : q v.2 = some b) : testBoth p q v = some (a, b) := by
  rw [testBoth, ha, hb]
  rfl

/-- A record is refused if one of its fields is. -/
theorem testBoth_of_none {p : γ → Option α} {q : δ → Option β} {v : γ × δ}
    (h : p v.1 = none ∨ q v.2 = none) : testBoth p q v = none := by
  rw [testBoth]
  rcases h with h | h
  · rw [h, Option.bind_none]
  · simp only [h, Option.map_none, Option.bind_fun_none]

/-- What the two readers have of a field so far: nothing, or something that passed the test. -/
inductive Passed (p : γ → Option α) : Option γ → Option α → Prop where
  | none : Passed p none none
  | some {x : γ} {a : α} (h : p x = some a) : Passed p (some x) (some a)

/-- What the lax reader takes for a field, the strict reader takes. -/
def Meets (p : γ → Option α) (lax : Option γ) (strict : Option α) : Prop :=
  ∀ x, lax = some x → ∃ a, strict = some a ∧ p x = some a

/-- If the lax reader takes nothing for a field, nothing is asked of the strict one. -/
theorem meets_none {p : γ → Option α} {strict : Option α} : Meets p none strict := nofun

theorem meets_some {p : γ → Option α} {x : γ} {a : α} (h : p x = some a) :
    Meets p (some x) (some a) := by
  rintro _ ⟨⟩
  exact ⟨a, rfl, h⟩

/-- A field that was not there is taken to be what it is when it is left out. -/
theorem Passed.or {p : γ → Option α} {x x' : Option γ} {a a' : Option α} (h : Passed p x a)
    (h' : Meets p x' a') : Meets p (x.or x') (a.or a') := by
  cases h with
  | none => exact h'
  | some h => exact meets_some h

/-- The readers of a record of which the strict one puts each field to a test. -/
structure Shape.Screens (strict : Shape α β) (lax : Shape γ δ) (p : γ → Option α)
    (q : δ → Option β) : Prop where
  firstKey : strict.first.key = lax.first.key
  secondKey : strict.second.key = lax.second.key
  first : strict.first.value.Screens lax.first.value p
  second : strict.second.value.Screens lax.second.value q
  firstAbsent : Meets p lax.first.absent strict.first.absent
  secondAbsent : Meets q lax.second.absent strict.second.absent

/-! ## Records as objects -/

/-- Inversion for a record that is complete: each field was read, or may be left out. -/
theorem Shape.complete_eq_ok {s : Shape α β} {a : Option α} {b : Option β} {cs rest : List Char}
    {v : α × β} (h : s.complete a b cs = .ok (v, rest)) :
    a.or s.first.absent = some v.1 ∧ b.or s.second.absent = some v.2 ∧ cs = rest := by
  unfold complete at h
  split at h
  · cases h
  · cases h
  · next ha hb =>
    cases h
    exact ⟨ha, hb, rfl⟩

/-- **A field that was read stays as it was read.** The induction is on the members that are still
to come. -/
theorem readMembers_keeps {s : Shape α β} {isFirst : Bool} {a : Option α} {b : Option β}
    {cs rest : List Char} {v : α × β} (h : readMembers s isFirst a b cs = .ok (v, rest)) :
    (∀ x, a = some x → x = v.1) ∧ ∀ y, b = some y → y = v.2 := by
  fun_induction readMembers s isFirst a b cs with
  | case1 => cases h
  | case2 =>
    obtain ⟨ha, hb, -⟩ := s.complete_eq_ok h
    refine ⟨?_, ?_⟩
    · rintro x rfl
      exact Option.some.inj ha
    · rintro y rfl
      exact Option.some.inj hb
  | case3 => exact absurd h failDuplicate_ne_ok
  | case4 => cases h
  | case5 _ a b _ _ ha x _ _ _ ih =>
    obtain ⟨hx, hy⟩ := ih h
    refine ⟨?_, hy⟩
    rintro z rfl
    exact absurd rfl ha
  | case6 => exact absurd h failDuplicate_ne_ok
  | case7 => cases h
  | case8 _ a b _ _ hb _ _ _ _ _ ih =>
    obtain ⟨hx, hy⟩ := ih h
    refine ⟨hx, ?_⟩
    rintro z rfl
    exact absurd rfl hb
  | case9 => cases h
  | case10 _ _ _ _ _ _ _ _ _ _ _ _ ih => exact ih h

section

variable {strict : Shape α β} {lax : Shape γ δ} {p : γ → Option α} {q : δ → Option β}
  {v : γ × δ} {cs rest : List Char}

/-- At the end of an object, the strict reader has the fields that the lax reader has. -/
theorem Shape.Screens.complete_settles (hs : strict.Screens lax p q) {x : Option γ} {y : Option δ}
    {a : Option α} {b : Option β} (hx : Passed p x a) (hy : Passed q y b)
    (h : lax.complete x y cs = .ok (v, rest)) :
    Settles rest (testBoth p q v) (strict.complete a b cs) := by
  obtain ⟨hfirst, hsecond, rfl⟩ := lax.complete_eq_ok h
  obtain ⟨a', ha', hp⟩ := hx.or hs.firstAbsent _ hfirst
  obtain ⟨b', hb', hq⟩ := hy.or hs.secondAbsent _ hsecond
  rw [testBoth_of_some hp hq, Shape.complete, ha', hb']
  exact .passed (a', b')

/-- **Records as objects.** Both readers go through the members, and have found the same fields so
far, those of the strict reader after their tests. -/
theorem readMembers_settles (hs : strict.Screens lax p q) {isFirst : Bool} {x : Option γ}
    {y : Option δ} {a : Option α} {b : Option β} (hx : Passed p x a) (hy : Passed q y b)
    (h : readMembers lax isFirst x y cs = .ok (v, rest)) :
    Settles rest (testBoth p q v) (readMembers strict isFirst a b cs) := by
  fun_induction readMembers lax isFirst x y cs generalizing a b with
  | case1 => cases h
  | case2 _ _ _ _ _ hkey =>
    rw [readMembers_of_end hkey]
    exact hs.complete_settles hx hy h
  | case3 => exact absurd h failDuplicate_ne_ok
  | case4 => cases h
  | case5 _ x y _ _ hnew z _ hvalue hkey ih =>
    cases hx with
    | some => exact absurd rfl hnew
    | none =>
      rw [readMembers_of_key hkey, if_pos hs.firstKey.symm, if_neg (by simp)]
      refine (hs.first.afterColon _ _ z hvalue).bind (fun a hz => ih (.some hz) hy h) fun hz => ?_
      -- the lax reader goes on, but never lets go of what the strict reader refused
      obtain ⟨hkept, -⟩ := readMembers_keeps h
      exact testBoth_of_none (.inl (hkept z rfl ▸ hz))
  | case6 => exact absurd h failDuplicate_ne_ok
  | case7 => cases h
  | case8 _ x y _ _ hnew z _ hvalue hkey hfirst ih =>
    cases hy with
    | some => exact absurd rfl hnew
    | none =>
      rw [readMembers_of_key hkey, if_neg (hs.firstKey ▸ hfirst), if_pos hs.secondKey.symm,
        if_neg (by simp)]
      refine (hs.second.afterColon _ _ z hvalue).bind (fun b hz => ih hx (.some hz) h) fun hz => ?_
      obtain ⟨-, hkept⟩ := readMembers_keeps h
      exact testBoth_of_none (.inr (hkept z rfl ▸ hz))
  | case9 => cases h
  | case10 _ x y _ _ _ hkey hfirst hsecond _ _ hvalue ih =>
    rw [readMembers_of_key hkey, if_neg (hs.firstKey ▸ hfirst), if_neg (hs.secondKey ▸ hsecond),
      hvalue]
    exact ih hx hy h

/-! ## Records as lists -/

/-- Inversion for a record whose list ends early: the first field was read, and the second may be
left out. -/
theorem Shape.cut_eq_ok {s : Shape α β} {length : Nat} {a : Option α} {v : α × β}
    (h : s.cut length a cs = .ok (v, rest)) :
    a = some v.1 ∧ s.second.absent = some v.2 ∧ cs = rest := by
  unfold cut at h
  split at h
  · next hb =>
    cases h
    exact ⟨rfl, hb, rfl⟩
  · cases h
  · cases h

/-- Where a list ends early, the strict reader has what the lax reader has, if the first field
passed. -/
theorem Shape.Screens.cut_settles (hs : strict.Screens lax p q) {length : Nat} {x : Option γ}
    {a : Option α} (hx : Meets p x a) (h : lax.cut length x cs = .ok (v, rest)) :
    Settles rest (testBoth p q v) (strict.cut length a cs) := by
  obtain ⟨hfirst, hsecond, rfl⟩ := Shape.cut_eq_ok h
  obtain ⟨a', rfl, hp⟩ := hx _ hfirst
  obtain ⟨b', hb', hq⟩ := hs.secondAbsent _ hsecond
  rw [testBoth_of_some hp hq]
  simp only [Shape.cut, hb']
  exact .passed (a', b')

/-- A list that is read ends behind the first field, or an item follows. -/
theorem readSecond_cases {s : Shape α β} {a : α} {v : α × β}
    (h : readSecond s a cs = .ok (v, rest)) :
    (∃ text, skipBlanks cs = ']' :: text) ∨
      ∃ text c item, skipBlanks cs = ',' :: text ∧ skipBlanks text = c :: item ∧ c ≠ ']' := by
  unfold readSecond at h
  split at h
  · cases h
  · next hend => exact .inl ⟨_, hend⟩
  · next text hcomma =>
    refine .inr ⟨text, ?_⟩
    split at h
    · cases h
    · cases h
    · next hnil hend =>
      rcases hitem : skipBlanks text with _ | ⟨c, item⟩
      · exact absurd hitem hnil
      · refine ⟨c, item, hcomma, rfl, ?_⟩
        rintro rfl
        exact hend item hitem
  · cases h

/-- Inversion for a list that is read: it ends at once, or an item stands at its front. -/
theorem readElements_cases {s : Shape α β} {v : α × β} (h : readElements s cs = .ok (v, rest)) :
    (∃ text, skipBlanks cs = ']' :: text) ∨ ∃ c item, skipBlanks cs = c :: item ∧ c ≠ ']' := by
  unfold readElements at h
  split at h
  · cases h
  · next hend => exact .inl ⟨_, hend⟩
  · next hnil hend =>
    rcases hitem : skipBlanks cs with _ | ⟨c, item⟩
    · exact absurd hitem hnil
    · refine .inr ⟨c, item, rfl, ?_⟩
      rintro rfl
      exact hend item hitem

/-- Reading the rest of a list does not change the first field. -/
theorem readSecond_keeps {s : Shape α β} {a : α} {v : α × β}
    (h : readSecond s a cs = .ok (v, rest)) : a = v.1 := by
  rcases readSecond_cases h with ⟨text, hend⟩ | ⟨text, c, item, hcomma, hitem, hc⟩
  · simp only [readSecond, hend] at h
    exact Option.some.inj (Shape.cut_eq_ok h).1
  · rw [readSecond_of_item hcomma hitem hc] at h
    obtain ⟨⟨b, text⟩, -, hend⟩ := eq_ok_of_bind_eq_ok h
    obtain ⟨last, -, hlast⟩ := eq_ok_of_map_eq_ok hend
    cases hlast
    rfl

/-- The rest of a list is put to the test of the second field, once the first has passed. -/
theorem readSecond_settles (hs : strict.Screens lax p q) {x : γ} {a : α} (hx : p x = some a)
    (h : readSecond lax x cs = .ok (v, rest)) :
    Settles rest (testBoth p q v) (readSecond strict a cs) := by
  rcases readSecond_cases h with ⟨text, hend⟩ | ⟨text, c, item, hcomma, hitem, hc⟩
  · simp only [readSecond, hend] at h ⊢
    exact hs.cut_settles (meets_some hx) h
  · rw [readSecond_of_item hcomma hitem hc] at h ⊢
    obtain ⟨⟨y, text⟩, hvalue, hend⟩ := eq_ok_of_bind_eq_ok h
    obtain ⟨last, hlast, he⟩ := eq_ok_of_map_eq_ok hend
    cases he
    refine (hs.second _ _ y hvalue).bind (fun b hb => ?_) fun hy => testBoth_of_none (.inr hy)
    have hboth : testBoth p q (x, y) = some (a, b) := testBoth_of_some hx hb
    simp only [hboth, hlast]
    exact .passed (a, b)

/-- **Records as lists.** -/
theorem readElements_settles (hs : strict.Screens lax p q)
    (h : readElements lax cs = .ok (v, rest)) :
    Settles rest (testBoth p q v) (readElements strict cs) := by
  rcases readElements_cases h with ⟨text, hend⟩ | ⟨c, item, hitem, hc⟩
  · simp only [readElements, hend] at h ⊢
    exact hs.cut_settles hs.firstAbsent h
  · rw [readElements_of_item hitem hc] at h ⊢
    obtain ⟨⟨x, text⟩, hvalue, hsecond⟩ := eq_ok_of_bind_eq_ok h
    refine (hs.first _ _ x hvalue).bind (fun a ha => readSecond_settles hs ha hsecond) fun hx => ?_
    exact testBoth_of_none (.inl (readSecond_keeps hsecond ▸ hx))

end

/-! ## Records -/

/-- Blanks in front of a record make no difference to its reader. -/
theorem readRecord_skipBlanks (s : Shape α β) (cs : List Char) :
    (readRecord s).read (skipBlanks cs) = (readRecord s).read cs := by
  simp only [readRecord, skipBlanks, List.dropWhile_idempotent]

/-- A record that is read begins with a bracket. -/
theorem readRecord_begins {s : Shape α β} {v : α × β} {cs rest : List Char}
    (h : (readRecord s).read cs = .ok (v, rest)) :
    ∃ c text, skipBlanks cs = c :: text ∧ (c = '[' ∨ c = '\x7b') := by
  simp only [readRecord] at h
  split at h
  · cases h
  · next text hlist => exact ⟨_, text, hlist, .inl rfl⟩
  · next text hobject => exact ⟨_, text, hobject, .inr rfl⟩
  · exact absurd h wrongType_ne_ok

/-- **If the fields of a record are put to a test, the record is.** -/
theorem readRecord_screens {strict : Shape α β} {lax : Shape γ δ} {p : γ → Option α}
    {q : δ → Option β} (hs : strict.Screens lax p q) :
    (readRecord strict).Screens (readRecord lax) (testBoth p q) := by
  intro cs rest v h
  simp only [readRecord] at h ⊢
  split at h
  · cases h
  · exact readElements_settles hs h
  · exact readMembers_settles hs .none .none h
  · exact absurd h wrongType_ne_ok

end EngineExtension.Json
