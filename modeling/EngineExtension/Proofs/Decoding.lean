import EngineExtension.Json.Record
import EngineExtension.Proofs.Skipping

/-!
# Reading is decoding

A reader sees a text and goes through it from left to right. A decoder sees the value that the text
stands for. This module shows that reading a record is decoding it, however its text is written:
the reader finds what the decoder finds, takes exactly the text of the value, and fails where the
decoder has nothing.

* `Answers`, `Reader.Decodes` — a reader agrees with a decoder;
* `valuesOf` — the values that an object has under a key;
* `Field.decode`, `Shape.decode` — a field is there once or left out, and a record has two of them;
* `readMembers_answers` — the loop over the members of an object;
* `readRecord_decodes` — if the fields of a record are decoded, the record is.
-/

namespace EngineExtension.Json

/-! ## Readers and decoders -/

variable {α β : Type}

/-- What a reader that has to leave a text of `ts` answers, given what there is to find. -/
inductive Answers (ts : List Token) : Option α → Except Failure (α × List Char) → Prop where
  | found {a : α} {rest : List Char} (h : Spaced ts rest) : Answers ts (some a) (.ok (a, rest))
  | failed (e : Failure) : Answers ts none (.error e)

/-- Whatever value stands in front of it, and however it is written, a reader finds in the text what
`f` finds in the value. -/
def Reader.Decodes (r : Reader α) (f : Value → Option α) : Prop :=
  ∀ (v : Value) (ts : List Token) (cs : List Char), Spaced (v.tokens ++ ts) cs → Ends ts →
    Answers ts (f v) (r.read cs)

/-- Where the first of two readers agrees with its decoder and the second does on what is left, the
two in a row agree. -/
theorem Answers.bind {ts us : List Token} {o : Option α} {x : Except Failure (α × List Char)}
    {k : α → Option β} {g : α × List Char → Except Failure (β × List Char)} (h : Answers ts o x)
    (hg : ∀ a rest, Spaced ts rest → Answers us (k a) (g (a, rest))) :
    Answers us (o.bind k) (x.bind g) := by
  cases h with
  | found h => exact hg _ _ h
  | failed e => exact .failed e

/-- Turning what was found into something else keeps the agreement. -/
theorem Answers.map {ts : List Token} {o : Option α} {x : Except Failure (α × List Char)}
    (h : Answers ts o x) (k : α → β) :
    Answers ts (o.map k) (x.map fun p => (k p.1, p.2)) := by
  cases h with
  | found h => exact .found h
  | failed e => exact .failed e

/-- A reader that never succeeds where there is nothing fails there. -/
theorem answers_none {ts : List Token} {x : Except Failure (α × List Char)} (h : ∀ a, x ≠ .ok a) :
    Answers ts none x := by
  cases x with
  | error e => exact .failed e
  | ok a => exact absurd rfl (h a)

/-- A reader agrees with its decoder also where a colon stands in front of the value. -/
theorem Reader.Decodes.afterColon {r : Reader α} {f : Value → Option α} (h : r.Decodes f)
    {v : Value} {ts : List Token} {cs : List Char}
    (hcs : Spaced (.colon :: (v.tokens ++ ts)) cs) (hends : Ends ts) :
    Answers ts (f v) (r.afterColon.read cs) := by
  obtain ⟨rest, hcolon, hrest⟩ := hcs.readColon
  simp only [Reader.afterColon, hcolon]
  exact h v ts rest hrest hends

/-- Skipping finds nothing of interest in any value. -/
theorem skipValue_decodes : skipValue.Decodes fun _ => some () := by
  intro v ts cs h hends
  obtain ⟨rest, hread, hrest⟩ := skipValue_of_spaced h hends
  rw [hread]
  exact .found hrest

/-! ## The first character of a value -/

/-- What the first character of a text tells about the value that the text stands for. -/
structure Value.Shows (v : Value) (c : Char) : Prop where
  null : c = 'n' → v = .null
  string : c = '"' → ∃ s, v = .string s
  list : c = '[' → ∃ items, v = .list items
  object : c = '\x7b' → ∃ members, v = .object members

/-- The first character behind the blanks shows what kind of value stands there. -/
theorem Spaced.front {v : Value} {ts : List Token} {cs : List Char} (h : Spaced (v.tokens ++ ts) cs)
    (hends : Ends ts) : ∃ c rest, skipBlanks cs = c :: rest ∧ v.Shows c := by
  cases v with
  | integer n =>
    obtain ⟨c, body, numeral, rest, hskip, hread, -⟩ := h.skip_integer hends
    have hc : c = '-' ∨ isDigit c = true := hread.imp And.left And.left
    refine ⟨c, body, hskip, ?_, ?_, ?_, ?_⟩ <;> rintro rfl <;> rcases hc with hc | hc <;> cases hc
  | string s =>
    obtain ⟨body, rest, hskip, -⟩ := h.skip_string
    refine ⟨'"', body, hskip, ?_, fun _ => ⟨s, rfl⟩, ?_, ?_⟩ <;> rintro ⟨⟩
  | null =>
    obtain ⟨w, rest, hskip, hw, -⟩ := h.skip
    cases hw
    refine ⟨'n', _, hskip, fun _ => rfl, ?_, ?_, ?_⟩ <;> rintro ⟨⟩
  | bool b =>
    obtain ⟨w, rest, hskip, hw, -⟩ := h.skip
    cases hw <;> refine ⟨_, _, hskip, ?_, ?_, ?_, ?_⟩ <;> rintro ⟨⟩
  | list items =>
    obtain ⟨rest, hskip, -⟩ := h.skip_list
    refine ⟨'[', rest, hskip, ?_, ?_, fun _ => ⟨items, rfl⟩, ?_⟩ <;> rintro ⟨⟩
  | object members =>
    obtain ⟨rest, hskip, -⟩ := h.skip_object
    refine ⟨'\x7b', rest, hskip, ?_, ?_, ?_, fun _ => ⟨members, rfl⟩⟩ <;> rintro ⟨⟩

/-! ## Records as objects -/

/-- The values under a key, in the order in which they stand. -/
def valuesOf (key : String) (members : List (String × Value)) : List Value :=
  members.filterMap fun m => if m.1 = key then some m.2 else none

theorem valuesOf_cons_self (key : String) (v : Value) (members : List (String × Value)) :
    valuesOf key ((key, v) :: members) = v :: valuesOf key members := by
  simp [valuesOf]

theorem valuesOf_cons_of_ne {key other : String} (h : other ≠ key) (v : Value)
    (members : List (String × Value)) :
    valuesOf key ((other, v) :: members) = valuesOf key members := by
  simp [valuesOf, h]

/-- The value of a field, given what was read of it before and the values that are still there under
its key: it is there once at most, and may be left out if it has a value for that case. -/
def Field.decode (field : Field α) (f : Value → Option α) (before : Option α)
    (values : List Value) : Option α :=
  match before, values with
  | before, [] => before.or field.absent
  | none, [v] => f v
  | _, _ => none

section

variable {field : Field α} {f : Value → Option α} {v : Value} {vs : List Value}

/-- A field that was read before may not stand there again. -/
theorem Field.decode_again (a : α) : field.decode f (some a) (v :: vs) = none := by
  cases vs <;> rfl

/-- Decoding a field takes the value under its key, and has none left under it. -/
theorem Field.decode_cons :
    field.decode f none (v :: vs) = (f v).bind fun a => field.decode f (some a) vs := by
  cases vs with
  | nil =>
    rw [decode]
    cases f v <;> rfl
  | cons w vs =>
    simp only [decode_again, Option.bind_fun_none]
    rfl

/-- A field that stands there twice is not decoded. -/
theorem Field.decode_of_lt_length {before : Option α} (h : 1 < vs.length) :
    field.decode f before vs = none := by
  rcases vs with _ | ⟨v, _ | ⟨w, vs⟩⟩
  · cases h
  · exact absurd h (Nat.lt_irrefl _)
  · cases before <;> rfl

end

/-- A record of the members of an object. -/
def Shape.decodeMembers (s : Shape α β) (f : Value → Option α) (g : Value → Option β)
    (a : Option α) (b : Option β) (members : List (String × Value)) : Option (α × β) :=
  (s.first.decode f a (valuesOf s.first.key members)).bind fun a =>
    (s.second.decode g b (valuesOf s.second.key members)).map (a, ·)

section

variable {s : Shape α β} {isFirst : Bool} {a : Option α} {b : Option β} {cs rest : List Char}

/-- At the end of an object, the record is what its fields are so far. -/
theorem readMembers_of_end (h : readNextKey isFirst cs = .ok (none, rest)) :
    readMembers s isFirst a b cs = s.complete a b rest := by
  rw [readMembers]
  split
  · next h' => cases h.symm.trans h'
  · next h' =>
    obtain ⟨-, rfl⟩ := Prod.mk.inj (Except.ok.inj (h.symm.trans h'))
    rfl
  · next h' => cases h.symm.trans h'

/-- A key is looked up, and its value is read or skipped. -/
theorem readMembers_of_key {key : String} (h : readNextKey isFirst cs = .ok (some key, rest)) :
    readMembers s isFirst a b cs =
      if key = s.first.key then
        if a.isSome then failDuplicate key rest
        else (s.first.value.afterColon.read rest).bind fun (v, rest) =>
          readMembers s false (some v) b rest
      else if key = s.second.key then
        if b.isSome then failDuplicate key rest
        else (s.second.value.afterColon.read rest).bind fun (v, rest) =>
          readMembers s false a (some v) rest
      else (skipValue.afterColon.read rest).bind fun (_, rest) => readMembers s false a b rest := by
  rw [readMembers]
  split
  · next h' => cases h.symm.trans h'
  · next h' => cases h.symm.trans h'
  next h' =>
  obtain ⟨hkey, rfl⟩ := Prod.mk.inj (Except.ok.inj (h.symm.trans h'))
  obtain rfl := Option.some.inj hkey
  congr 1
  · congr 1
    split
    · next hv => rw [hv]; rfl
    · next hv => rw [hv]; rfl
  · congr 1
    · congr 1
      split
      · next hv => rw [hv]; rfl
      · next hv => rw [hv]; rfl
    · split
      · next hv => rw [hv]; rfl
      · next hv => rw [hv]; rfl

/-- Behind the last member, the object ends. -/
theorem readNextKey_of_closes {ts : List Token} (h : Spaced (.closes .object :: ts) cs) :
    ∃ rest, readNextKey isFirst cs = .ok (none, rest) ∧ Spaced ts rest := by
  obtain ⟨rest, hskip, hrest⟩ := h.skip_mark rfl
  exact ⟨rest, by simp only [readNextKey, hskip, Bracket.closer], hrest⟩

/-- Otherwise the key of the next member follows, behind a comma unless it is the first. -/
theorem readNextKey_of_following {key : String} {part : List Token} {parts : List (List Token)}
    {ts : List Token} (h : Spaced (following isFirst ((.string key :: part) :: parts) ++ ts) cs) :
    ∃ rest, readNextKey isFirst cs = .ok (some key, rest) ∧
      Spaced (part ++ (listed parts ++ ts)) rest := by
  cases isFirst with
  | true =>
    rw [following, if_pos rfl, tail_listed_cons] at h
    obtain ⟨body, rest, hskip, hread, -, hrest⟩ := h.skip_string
    refine ⟨rest, ?_, hrest⟩
    simp [readNextKey, hskip, readKey, hread, Except.map]
  | false =>
    rw [following, if_neg Bool.false_ne_true, listed_cons] at h
    obtain ⟨text, hcomma, htext⟩ := h.skip_mark rfl
    obtain ⟨body, rest, hskip, hread, -, hrest⟩ := htext.skip_string
    refine ⟨rest, ?_, hrest⟩
    simp [readNextKey, hcomma, hskip, readKey, hread, Except.map]

/-- At the end of an object, fields that were not there take the value they have for that case. -/
theorem Shape.complete_answers {ts : List Token} (h : Spaced ts rest) (f : Value → Option α)
    (g : Value → Option β) : Answers ts (s.decodeMembers f g a b []) (s.complete a b rest) := by
  have hdecode : s.decodeMembers f g a b [] =
      (a.or s.first.absent).bind fun a => (b.or s.second.absent).map (a, ·) := rfl
  rw [hdecode, complete]
  rcases a.or s.first.absent with _ | a
  · exact .failed _
  rcases b.or s.second.absent with _ | b
  · exact .failed _
  · exact .found h

end

section

variable {s : Shape α β} {f : Value → Option α} {g : Value → Option β} {a : Option α} {b : Option β}
  {v : Value} {members : List (String × Value)}

/-- The value under the key of the first field is the field, if it can be. -/
theorem Shape.decodeMembers_first (hkeys : s.first.key ≠ s.second.key) :
    s.decodeMembers f g none b ((s.first.key, v) :: members) =
      (f v).bind fun a => s.decodeMembers f g (some a) b members := by
  rw [decodeMembers, valuesOf_cons_self, valuesOf_cons_of_ne hkeys, Field.decode_cons,
    Option.bind_assoc]
  rfl

theorem Shape.decodeMembers_first_again (a : α) :
    s.decodeMembers f g (some a) b ((s.first.key, v) :: members) = none := by
  rw [decodeMembers, valuesOf_cons_self, Field.decode_again]
  rfl

/-- The value under the key of the second field is the field, if it can be. -/
theorem Shape.decodeMembers_second (hkeys : s.first.key ≠ s.second.key) :
    s.decodeMembers f g a none ((s.second.key, v) :: members) =
      (g v).bind fun b => s.decodeMembers f g a (some b) members := by
  rw [decodeMembers, valuesOf_cons_self, valuesOf_cons_of_ne hkeys.symm, Field.decode_cons]
  cases g v with
  | none => simp
  | some b => rfl

theorem Shape.decodeMembers_second_again (b : β) :
    s.decodeMembers f g a (some b) ((s.second.key, v) :: members) = none := by
  simp [decodeMembers, valuesOf_cons_self, Field.decode_again]

/-- A member under any other key is nothing to the record. -/
theorem Shape.decodeMembers_other {key : String} (hfirst : key ≠ s.first.key)
    (hsecond : key ≠ s.second.key) :
    s.decodeMembers f g a b ((key, v) :: members) = s.decodeMembers f g a b members := by
  rw [decodeMembers, valuesOf_cons_of_ne hfirst, valuesOf_cons_of_ne hsecond]
  rfl

end

/-- **A record written as an object is decoded**, its fields in any order and among any unknown
keys. The induction is on the members that are still to come; `a` and `b` are the fields that were
among those before. -/
theorem readMembers_answers {s : Shape α β} {f : Value → Option α} {g : Value → Option β}
    (hkeys : s.first.key ≠ s.second.key) (hf : s.first.value.Decodes f)
    (hg : s.second.value.Decodes g) {ts : List Token} (members : List (String × Value))
    (isFirst : Bool) (a : Option α) (b : Option β) (cs : List Char)
    (h : Spaced (following isFirst (members.map memberPart) ++ .closes .object :: ts) cs) :
    Answers ts (s.decodeMembers f g a b members) (readMembers s isFirst a b cs) := by
  induction members generalizing isFirst a b cs with
  | nil =>
    have h : Spaced (.closes .object :: ts) cs := by cases isFirst <;> exact h
    obtain ⟨rest, hkey, hrest⟩ := readNextKey_of_closes h
    rw [readMembers_of_end hkey]
    exact s.complete_answers hrest f g
  | cons m members ih =>
    obtain ⟨key, v⟩ := m
    obtain ⟨rest, hkey, hrest⟩ := readNextKey_of_following h
    have hends := ends_listed (members.map memberPart) .object ts
    rw [readMembers_of_key hkey]
    split
    · next hfirst =>
      subst hfirst
      cases a with
      | some a =>
        rw [Shape.decodeMembers_first_again]
        exact answers_none fun _ => failDuplicate_ne_ok
      | none =>
        rw [Shape.decodeMembers_first hkeys]
        exact (hf.afterColon hrest hends).bind fun a rest hrest => ih false (some a) b rest hrest
    split
    · next hsecond =>
      subst hsecond
      cases b with
      | some b =>
        rw [Shape.decodeMembers_second_again]
        exact answers_none fun _ => failDuplicate_ne_ok
      | none =>
        rw [Shape.decodeMembers_second hkeys]
        exact (hg.afterColon hrest hends).bind fun b rest hrest => ih false a (some b) rest hrest
    · next hfirst hsecond =>
      rw [Shape.decodeMembers_other hfirst hsecond]
      exact (skipValue_decodes.afterColon hrest hends).bind
        (k := fun _ => s.decodeMembers f g a b members) fun _ rest hrest => ih false a b rest hrest

/-! ## Records as lists -/

/-- A record whose first field is known, of the items of a list behind it. -/
def Shape.decodeSecond (s : Shape α β) (g : Value → Option β) (a : α) : List Value → Option (α × β)
  | [] => s.second.absent.map (a, ·)
  | [v] => (g v).map (a, ·)
  | _ => none

/-- A record of the items of a list: its fields in order, of which the last may be left out. -/
def Shape.decodeItems (s : Shape α β) (f : Value → Option α) (g : Value → Option β) :
    List Value → Option (α × β)
  | [] => s.first.absent.bind fun a => s.second.absent.map (a, ·)
  | v :: items => (f v).bind fun a => s.decodeSecond g a items

section

variable {s : Shape α β} {f : Value → Option α} {g : Value → Option β} {ts : List Token}
  {cs : List Char}

/-- A list that ends before its second field gives a record only if that field may be left out. -/
theorem Shape.cut_answers {rest : List Char} (h : Spaced ts rest) (length : Nat) (a : Option α) :
    Answers ts (a.bind fun a => s.second.absent.map (a, ·)) (s.cut length a rest) := by
  rw [cut.eq_def]
  rcases a with _ | a
  · exact .failed _
  rcases s.second.absent with _ | b
  · exact .failed _
  · exact .found h

/-- A list that has to end here does, or fails. -/
theorem readListEnd_answers {γ : Type} (c : γ) {parts : List (List Token)}
    (h : Spaced (listed parts ++ .closes .list :: ts) cs) :
    Answers ts (if parts = [] then some c else none) ((readListEnd cs).map (c, ·)) := by
  cases parts with
  | nil =>
    obtain ⟨rest, hskip, hrest⟩ := h.skip_mark rfl
    simp only [readListEnd, hskip, Bracket.closer]
    exact .found hrest
  | cons p parts =>
    obtain ⟨rest, hskip, -⟩ := Spaced.skip_mark h rfl
    rw [if_neg (List.cons_ne_nil _ _)]
    simp only [readListEnd, hskip]
    split <;> exact .failed _

/-- Behind the comma, an item is read as the second field, and then the list has to end. -/
theorem readSecond_of_item {a : α} {c : Char} {text rest : List Char}
    (hcomma : skipBlanks cs = ',' :: text) (hitem : skipBlanks text = c :: rest) (hc : c ≠ ']') :
    readSecond s a cs = (s.second.value.read (c :: rest)).bind fun (b, rest) =>
      (readListEnd rest).map ((a, b), ·) := by
  simp only [readSecond, hcomma, hitem]
  split
  · next h => cases h
  · next h => exact absurd (List.cons.inj h).1 hc
  · split
    · next hv => rw [hv]; rfl
    · next hv => rw [hv]; rfl

/-- In front of an item, a list is read as the first field and what follows it. -/
theorem readElements_of_item {c : Char} {rest : List Char} (hitem : skipBlanks cs = c :: rest)
    (hc : c ≠ ']') :
    readElements s cs = (s.first.value.read (c :: rest)).bind fun (a, rest) =>
      readSecond s a rest := by
  simp only [readElements, hitem]
  split
  · next h => cases h
  · next h => exact absurd (List.cons.inj h).1 hc
  · split
    · next hv => rw [hv]; rfl
    · next hv => rw [hv]; rfl

/-- In front of an item, a list does not end. -/
theorem Spaced.skip_item {v : Value} (h : Spaced (v.tokens ++ ts) cs) :
    ∃ c rest, skipBlanks cs = c :: rest ∧ c ≠ ']' ∧ Spaced (v.tokens ++ ts) (c :: rest) := by
  obtain ⟨t, more, htokens, ht⟩ := v.tokens_begins
  rw [htokens] at h ⊢
  obtain ⟨c, rest, hskip, hc⟩ := h.skip_begins ht
  refine ⟨c, rest, hskip, hc .list, ?_⟩
  rw [← hskip]
  exact h.trim

/-- Reading the rest of a list agrees with decoding the items behind the first. -/
theorem readSecond_answers (hg : s.second.value.Decodes g) (a : α) (items : List Value)
    (h : Spaced (listed (items.map Value.tokens) ++ .closes .list :: ts) cs) :
    Answers ts (s.decodeSecond g a items) (readSecond s a cs) := by
  cases items with
  | nil =>
    obtain ⟨rest, hskip, hrest⟩ := h.skip_mark rfl
    simp only [readSecond, hskip, Bracket.closer]
    exact s.cut_answers hrest 1 (some a)
  | cons v items =>
    rw [List.map_cons, listed_cons] at h
    obtain ⟨text, hcomma, htext⟩ := h.skip_mark rfl
    obtain ⟨c, rest, hskip, hc, hrest⟩ := htext.skip_item
    have hdecode : s.decodeSecond g a (v :: items) =
        (g v).bind fun b => if items.map Value.tokens = [] then some (a, b) else none := by
      cases items <;> cases hv : g v <;> simp [Shape.decodeSecond, hv]
    rw [readSecond_of_item hcomma hskip hc, hdecode]
    exact (hg v _ _ hrest (ends_listed _ .list ts)).bind fun b rest hrest =>
      readListEnd_answers (a, b) hrest

/-- **A record written as a list is decoded.** -/
theorem readElements_answers (hf : s.first.value.Decodes f) (hg : s.second.value.Decodes g)
    (items : List Value)
    (h : Spaced ((listed (items.map Value.tokens)).tail ++ .closes .list :: ts) cs) :
    Answers ts (s.decodeItems f g items) (readElements s cs) := by
  cases items with
  | nil =>
    obtain ⟨rest, hskip, hrest⟩ := h.skip_mark rfl
    simp only [readElements, hskip, Bracket.closer]
    exact s.cut_answers hrest 0 s.first.absent
  | cons v items =>
    rw [List.map_cons, tail_listed_cons] at h
    obtain ⟨c, rest, hskip, hc, hrest⟩ := h.skip_item
    rw [readElements_of_item hskip hc]
    exact (hf v _ _ hrest (ends_listed _ .list ts)).bind fun a rest hrest =>
      readSecond_answers hg a items hrest

end

/-! ## Records -/

/-- A record of a value: a list or an object, and nothing else. -/
def Shape.decode (s : Shape α β) (f : Value → Option α) (g : Value → Option β) :
    Value → Option (α × β)
  | .list items => s.decodeItems f g items
  | .object members => s.decodeMembers f g none none members
  | _ => none

section

variable {s : Shape α β} {f : Value → Option α} {g : Value → Option β}
  {members : List (String × Value)}

/-- An object is decoded if both of its fields are. -/
theorem Shape.decode_object_eq_some {a : α} {b : β}
    (ha : s.first.decode f none (valuesOf s.first.key members) = some a)
    (hb : s.second.decode g none (valuesOf s.second.key members) = some b) :
    s.decode f g (.object members) = some (a, b) := by
  rw [decode, decodeMembers, ha, hb]
  rfl

/-- An object is not decoded if one of its fields is not. -/
theorem Shape.decode_object_eq_none
    (h : s.first.decode f none (valuesOf s.first.key members) = none ∨
      s.second.decode g none (valuesOf s.second.key members) = none) :
    s.decode f g (.object members) = none := by
  rw [decode, decodeMembers]
  rcases h with h | h
  · rw [h, Option.bind_none]
  · simp only [h, Option.map_none, Option.bind_fun_none]

end

/-- What is neither a list nor an object is no record. -/
theorem readRecord_of_other {s : Shape α β} {cs rest : List Char} {c : Char}
    (h : skipBlanks cs = c :: rest) (hlist : c ≠ '[') (hobject : c ≠ '\x7b') :
    (readRecord s).read cs = wrongType (.record s.name) (c :: rest) := by
  simp only [readRecord, h]

/-- **Reading a record is decoding it**, if reading its fields is. -/
theorem readRecord_decodes {s : Shape α β} {f : Value → Option α} {g : Value → Option β}
    (hkeys : s.first.key ≠ s.second.key) (hf : s.first.value.Decodes f)
    (hg : s.second.value.Decodes g) : (readRecord s).Decodes (s.decode f g) := by
  intro v ts cs h hends
  cases v with
  | list items =>
    obtain ⟨rest, hskip, hrest⟩ := h.skip_list
    simp only [readRecord, hskip]
    exact readElements_answers hf hg items hrest
  | object members =>
    obtain ⟨rest, hskip, hrest⟩ := h.skip_object
    simp only [readRecord, hskip]
    exact readMembers_answers hkeys hf hg members true none none rest hrest
  | _ =>
    obtain ⟨c, rest, hskip, hc⟩ := h.front hends
    rw [readRecord_of_other hskip (fun h => nomatch hc.list h) (fun h => nomatch hc.object h)]
    exact answers_none fun _ => wrongType_ne_ok

end EngineExtension.Json
