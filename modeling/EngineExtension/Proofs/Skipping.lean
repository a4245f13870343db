import EngineExtension.Proofs.Lexing

/-!
# Skipping a value takes that value

The value of a key that nobody asked for is skipped by counting brackets, without a look at what it
says. This module shows that the count is right: whatever the value, and however it is written and
nested, exactly its text is taken.

* `SkippedBy` — tokens that are skipped as a whole, whatever brackets are open around them;
* `skipItems_of_parts` — if the parts in a bracket are, so is the rest of the bracket;
* `skippedBy_tokens` — all values are, by induction on the value;
* `skipValue_of_spaced` — so a value is skipped up to its end.
-/

namespace EngineExtension.Json

/-! ## Inside a bracket -/

section

variable {b : Bracket} {outer : List Bracket} {isFirst : Bool} {cs rest : List Char}

/-- A closing bracket ends the innermost list or object, and what is around it goes on. -/
theorem skipItems_of_close (h : skipBlanks cs = b.closer :: rest) :
    skipItems (b :: outer) isFirst cs = skipItems outer false rest := by
  rw [skipItems]
  split
  · next h' => cases h.symm.trans h'
  · next h' =>
    obtain ⟨rfl, rfl⟩ := List.cons.inj (h.symm.trans h')
    rw [if_pos rfl]

/-- An item is taken, and the bracket goes on; if the item opens a bracket of its own, that one is
gone through first. -/
theorem skipItems_of_item {c : Char} {text mid : List Char} {o : Option Bracket}
    (h : skipBlanks cs = c :: rest) (hc : c ≠ b.closer)
    (hseparator : skipSeparator b isFirst (c :: rest) = .ok text)
    (hitem : skipItem b text = .ok (o, mid)) :
    skipItems (b :: outer) isFirst cs = skipItems (o.toList ++ b :: outer) o.isSome mid := by
  rw [skipItems]
  split
  · next h' => cases h.symm.trans h'
  next h' =>
  obtain ⟨rfl, rfl⟩ := List.cons.inj (h.symm.trans h')
  rw [if_neg hc]
  split
  · next hs => cases hseparator.symm.trans hs
  next hs =>
  obtain rfl := Except.ok.inj (hseparator.symm.trans hs)
  split
  · next hi => cases hitem.symm.trans hi
  · next hi =>
    obtain ⟨rfl, rfl⟩ := Prod.mk.inj (Except.ok.inj (hitem.symm.trans hi))
    rfl
  · next hi =>
    obtain ⟨rfl, rfl⟩ := Prod.mk.inj (Except.ok.inj (hitem.symm.trans hi))
    rfl

end

/-! ## Parts that are skipped -/

/-- Tokens that `skip` takes the start of, so that what is open afterwards ends with them. -/
def SkippedBy (skip : List Char → Except Failure (Option Bracket × List Char))
    (part : List Token) : Prop :=
  ∀ (ts : List Token) (cs : List Char) (outer : List Bracket), Spaced (part ++ ts) cs → Ends ts →
    ∃ o mid rest, skip cs = .ok (o, mid) ∧ Spaced ts rest ∧
      skipItems (o.toList ++ outer) o.isSome mid = skipItems outer false rest

/-- The tokens of parts that follow each other, the first of them without a comma if nothing stands
in front of it. -/
def following (isFirst : Bool) (parts : List (List Token)) : List Token :=
  if isFirst then (listed parts).tail else listed parts

/-- What follows a value inside a list or an object is a comma or the closing bracket. -/
theorem ends_listed (parts : List (List Token)) (b : Bracket) (ts : List Token) :
    Ends (listed parts ++ .closes b :: ts) := by
  cases parts with
  | nil => exact ends_cons rfl _
  | cons p parts => exact ends_cons rfl _

/-- If nothing stands in front of a part, it begins at once, else behind a comma. -/
theorem skipSeparator_of_following {b : Bracket} {isFirst : Bool} {p : List Token}
    {parts : List (List Token)} {ts : List Token} {cs : List Char}
    (hp : ∃ t rest, p = t :: rest ∧ t.begins = true)
    (h : Spaced (following isFirst (p :: parts) ++ ts) cs) :
    ∃ c rest text, skipBlanks cs = c :: rest ∧ c ≠ b.closer ∧
      skipSeparator b isFirst (c :: rest) = .ok text ∧ Spaced (p ++ (listed parts ++ ts)) text := by
  cases isFirst with
  | true =>
    rw [following, if_pos rfl, tail_listed_cons] at h
    obtain ⟨t, more, rfl, ht⟩ := hp
    obtain ⟨c, rest, hskip, hc⟩ := h.skip_begins ht
    refine ⟨c, rest, c :: rest, hskip, hc b, rfl, ?_⟩
    rw [← hskip]
    exact h.trim
  | false =>
    rw [following, if_neg Bool.false_ne_true, listed_cons] at h
    obtain ⟨rest, hskip, hrest⟩ := h.skip_mark rfl
    exact ⟨',', rest, rest, hskip, by cases b <;> decide, rfl, hrest⟩

/-- A bracket whose parts are skipped is skipped. -/
theorem skipItems_of_parts {b : Bracket} {parts : List (List Token)}
    (hparts : ∀ p ∈ parts, (∃ t rest, p = t :: rest ∧ t.begins = true) ∧ SkippedBy (skipItem b) p)
    (isFirst : Bool) {ts : List Token} {cs : List Char} (outer : List Bracket)
    (h : Spaced (following isFirst parts ++ .closes b :: ts) cs) :
    ∃ rest, Spaced ts rest ∧ skipItems (b :: outer) isFirst cs = skipItems outer false rest := by
  induction parts generalizing isFirst cs with
  | nil =>
    have h : Spaced (.closes b :: ts) cs := by cases isFirst <;> exact h
    obtain ⟨rest, hskip, hrest⟩ := h.skip_mark rfl
    exact ⟨rest, hrest, skipItems_of_close hskip⟩
  | cons p parts ih =>
    obtain ⟨⟨hbegins, hskipped⟩, hothers⟩ := List.forall_mem_cons.mp hparts
    obtain ⟨c, rest, text, hskip, hc, hseparator, htext⟩ := skipSeparator_of_following hbegins h
    obtain ⟨o, mid, after, hitem, hafter, hopen⟩ :=
      hskipped _ text (b :: outer) htext (ends_listed parts b ts)
    obtain ⟨last, hlast, hrest⟩ := ih hothers false hafter
    refine ⟨last, hlast, ?_⟩
    rw [skipItems_of_item hskip hc hseparator hitem, hopen, hrest]

/-! ## Values -/

/-- A number is skipped up to its end. -/
theorem skipStart_of_digit {c : Char} {cs body : List Char} (h : skipBlanks cs = c :: body)
    (hc : isDigit c = true) :
    skipStart cs = (readNumeral .invalidNumber (c :: body)).map (none, ·.2) := by
  rw [skipStart, h]
  split
  · next h' => cases h'
  iterate 7
    · next h' =>
      obtain ⟨rfl, -⟩ := List.cons.inj h'
      cases hc
  · next h' =>
    obtain ⟨rfl, rfl⟩ := List.cons.inj h'
    rw [if_pos hc]

/-- **Values are skipped as a whole.** -/
theorem skippedBy_tokens (v : Value) : SkippedBy skipStart v.tokens := by
  induction v using Value.induction with
  | null =>
    intro ts cs outer h _
    obtain ⟨w, rest, hskip, hw, hrest⟩ := h.skip
    cases hw
    refine ⟨none, rest, rest, ?_, hrest, rfl⟩
    rw [skipStart, hskip]
    rfl
  | bool b =>
    intro ts cs outer h _
    obtain ⟨w, rest, hskip, hw, hrest⟩ := h.skip
    refine ⟨none, rest, rest, ?_, hrest, rfl⟩
    cases hw <;> rw [skipStart, hskip] <;> rfl
  | integer n =>
    intro ts cs outer h hends
    obtain ⟨c, body, numeral, rest, hskip, hread, hrest⟩ := h.skip_integer hends
    refine ⟨none, rest, rest, ?_, hrest, rfl⟩
    rcases hread with ⟨rfl, hread⟩ | ⟨hc, hread⟩
    · simp only [skipStart, hskip, hread]
      rfl
    · rw [skipStart_of_digit hskip hc, hread]
      rfl
  | string s =>
    intro ts cs outer h _
    obtain ⟨body, rest, hskip, -, hbody, hrest⟩ := h.skip_string
    refine ⟨none, rest, rest, ?_, hrest, rfl⟩
    simp only [skipStart, hskip, hbody]
    rfl
  | list items ih =>
    intro ts cs outer h _
    obtain ⟨mid, hskip, hmid⟩ := h.skip_list
    have hparts : ∀ p ∈ items.map Value.tokens,
        (∃ t rest, p = t :: rest ∧ t.begins = true) ∧ SkippedBy (skipItem .list) p := by
      intro p hp
      obtain ⟨v, hv, rfl⟩ := List.mem_map.mp hp
      exact ⟨v.tokens_begins, ih v hv⟩
    obtain ⟨rest, hrest, hitems⟩ := skipItems_of_parts hparts true outer hmid
    refine ⟨some .list, mid, rest, ?_, hrest, hitems⟩
    rw [skipStart, hskip]
    rfl
  | object members ih =>
    intro ts cs outer h _
    obtain ⟨mid, hskip, hmid⟩ := h.skip_object
    have hparts : ∀ p ∈ members.map memberPart,
        (∃ t rest, p = t :: rest ∧ t.begins = true) ∧ SkippedBy (skipItem .object) p := by
      intro p hp
      obtain ⟨m, hm, rfl⟩ := List.mem_map.mp hp
      refine ⟨⟨_, _, rfl, rfl⟩, fun ts cs outer h hends => ?_⟩
      -- behind its key and colon, a member is a value
      obtain ⟨body, rest, hskip, -, hbody, hrest⟩ := h.skip_string
      obtain ⟨text, hcolon, htext⟩ := hrest.readColon
      obtain ⟨o, mid, last, hstart, hlast, hopen⟩ := ih m hm ts text outer htext hends
      refine ⟨o, mid, last, ?_, hlast, hopen⟩
      simp only [skipItem, skipKey, hskip, hbody, hcolon, hstart]
    obtain ⟨rest, hrest, hitems⟩ := skipItems_of_parts hparts true outer hmid
    refine ⟨some .object, mid, rest, ?_, hrest, hitems⟩
    rw [skipStart, hskip]
    rfl

/-- **Skipping takes one value**, whatever is nested in it, and leaves the tokens after it. -/
theorem skipValue_of_spaced {v : Value} {ts : List Token} {cs : List Char}
    (h : Spaced (v.tokens ++ ts) cs) (hends : Ends ts) :
    ∃ rest, skipValue.read cs = .ok ((), rest) ∧ Spaced ts rest := by
  obtain ⟨o, mid, rest, hstart, hrest, hopen⟩ := skippedBy_tokens v ts cs [] h hends
  refine ⟨rest, ?_, hrest⟩
  have hitems : skipItems o.toList true mid = .ok rest := by
    cases o with
    | none =>
      rw [Option.toList_none, List.nil_append, skipItems, skipItems] at hopen
      rw [Option.toList_none, skipItems, hopen]
    | some b =>
      rw [List.append_nil, Option.isSome_some] at hopen
      rw [hopen, skipItems]
  simp only [skipValue, hstart, hitems]
  rfl

end EngineExtension.Json
