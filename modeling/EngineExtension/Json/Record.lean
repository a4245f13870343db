import EngineExtension.Json.Skip

/-!
# Records of two fields

A record is written as an object, its fields in any order and unknown keys allowed, or as a list of
its fields in order. A field may be left out if it has a value for that case.

* `Field`, `Shape` — what a record looks like;
* `readMembers` — a record written as an object;
* `readElements` — a record written as a list;
* `readRecord` — either.
-/

namespace EngineExtension.Json

/-- A field of a record. -/
structure Field (α : Type) where
  key : String
  value : Reader α
  /-- the value of a field that is left out -/
  absent : Option α := none

/-- A record of two fields. -/
structure Shape (α β : Type) where
  name : String
  first : Field α
  second : Field β

variable {α β : Type}

/-! ## Objects -/

/-- A value after a colon. -/
def Reader.afterColon (r : Reader α) : Reader α where
  read cs :=
    match readColon cs with
    | .error e => .error e
    | .ok rest => r.read rest
  shorter h := by
    split at h
    · cases h
    · next hc => exact Nat.lt_trans (r.shorter h) (length_of_readColon hc)

/-- Takes a key. -/
def readKey (cs : List Char) : Except Failure (Option String × List Char) :=
  match cs with
  | '"' :: rest => (readString rest).map fun (s, rest) => (some s, rest)
  | _ => failPast .keyNotString cs

theorem length_of_readKey {cs rest : List Char} {key : Option String}
    (h : readKey cs = .ok (key, rest)) : rest.length < cs.length := by
  unfold readKey at h
  split at h
  · obtain ⟨⟨s, r⟩, hr, he⟩ := eq_ok_of_map_eq_ok h
    cases he
    exact Nat.lt_succ_of_lt (length_of_readString hr)
  · cases h

/-- Takes the next key of an object, or the bracket that closes it. -/
def readNextKey (isFirst : Bool) (cs : List Char) : Except Failure (Option String × List Char) :=
  match skipBlanks cs with
  | [] => fail .endInObject []
  | '\x7d' :: rest => .ok (none, rest)
  | c :: rest =>
    if isFirst then readKey (c :: rest)
    else if c = ',' then
      match skipBlanks rest with
      | [] => fail .endInValue []
      | '\x7d' :: rest => failPast .trailingComma ('\x7d' :: rest)
      | rest => readKey rest
    else failPast .expectedObjectSeparator (c :: rest)

theorem length_of_readNextKey {isFirst : Bool} {cs rest : List Char} {key : Option String}
    (h : readNextKey isFirst cs = .ok (key, rest)) : rest.length < cs.length := by
  unfold readNextKey at h
  split at h
  · cases h
  · next hc =>
    cases h
    exact length_of_skipBlanks_eq hc
  · next c tail _ hc =>
    split at h
    · have := length_of_readKey h
      rw [← hc] at this
      exact Nat.lt_of_lt_of_le this (length_skipBlanks cs)
    · split at h
      · split at h
        · cases h
        · cases h
        · have := length_of_readKey h
          have := length_skipBlanks tail
          have := length_of_skipBlanks_eq hc
          omega
      · cases h

/-- The record of the fields read up to the end of an object, whose rest follows. -/
def Shape.complete (s : Shape α β) (a : Option α) (b : Option β) (rest : List Char) :
    Except Failure ((α × β) × List Char) :=
  match a.or s.first.absent, b.or s.second.absent with
  | none, _ => fail (.missingField s.first.key) rest
  | some _, none => fail (.missingField s.second.key) rest
  | some a, some b => .ok ((a, b), rest)

/-- Stops at a key that was there before. The complaint stands behind the blanks that follow, and
behind the end of the object if that is next. -/
def failDuplicate (key : String) (rest : List Char) : Except Failure α :=
  match skipBlanks rest with
  | '\x7d' :: rest => fail (.duplicateField key) rest
  | rest => fail (.duplicateField key) rest

/-- Reads a record written as an object, after the opening bracket. `a` and `b` are the fields
read so far. -/
def readMembers (s : Shape α β) (isFirst : Bool) (a : Option α) (b : Option β) (cs : List Char) :
    Except Failure ((α × β) × List Char) :=
  match _hk : readNextKey isFirst cs with
  | .error e => .error e
  | .ok (none, rest) => s.complete a b rest
  | .ok (some key, rest) =>
    if key = s.first.key then
      if a.isSome then failDuplicate key rest
      else match _hv : s.first.value.afterColon.read rest with
        | .error e => .error e
        | .ok (v, rest) => readMembers s false (some v) b rest
    else if key = s.second.key then
      if b.isSome then failDuplicate key rest
      else match _hv : s.second.value.afterColon.read rest with
        | .error e => .error e
        | .ok (v, rest) => readMembers s false a (some v) rest
    else match _hv : skipValue.afterColon.read rest with
      | .error e => .error e
      | .ok (_, rest) => readMembers s false a b rest
termination_by cs.length
decreasing_by
  · exact Nat.lt_trans (s.first.value.afterColon.shorter _hv) (length_of_readNextKey _hk)
  · exact Nat.lt_trans (s.second.value.afterColon.shorter _hv) (length_of_readNextKey _hk)
  · exact Nat.lt_trans (skipValue.afterColon.shorter _hv) (length_of_readNextKey _hk)

theorem Shape.length_of_complete {s : Shape α β} {a : Option α} {b : Option β}
    {cs rest : List Char} {v : α × β} (h : s.complete a b cs = .ok (v, rest)) :
    rest = cs := by
  unfold complete at h
  split at h
  · cases h
  · cases h
  · cases h; rfl

theorem failDuplicate_ne_ok {key : String} {rest : List Char} {a : α} :
    failDuplicate key rest ≠ .ok a := by
  intro h
  unfold failDuplicate at h
  split at h <;> cases h

theorem length_of_readMembers {s : Shape α β} {isFirst : Bool} {a : Option α} {b : Option β}
    {cs rest : List Char} {v : α × β} (h : readMembers s isFirst a b cs = .ok (v, rest)) :
    rest.length < cs.length := by
  fun_induction readMembers s isFirst a b cs with
  | case1 => cases h
  | case2 _ _ _ _ _ hk =>
    rw [s.length_of_complete h]
    exact length_of_readNextKey hk
  | case3 => exact absurd h failDuplicate_ne_ok
  | case4 => cases h
  | case5 _ _ _ _ _ _ _ _ hv hk ih =>
    have := ih h
    have := s.first.value.afterColon.shorter hv
    have := length_of_readNextKey hk
    omega
  | case6 => exact absurd h failDuplicate_ne_ok
  | case7 => cases h
  | case8 _ _ _ _ _ _ _ _ hv hk _ ih =>
    have := ih h
    have := s.second.value.afterColon.shorter hv
    have := length_of_readNextKey hk
    omega
  | case9 => cases h
  | case10 isFirst a b cs key _ hk _ _ _ _ hv ih =>
    have := ih h
    have := skipValue.afterColon.shorter hv
    have := length_of_readNextKey hk
    omega

/-! ## Lists -/

/-- Takes the bracket that closes a list. -/
def readListEnd (cs : List Char) : Except Failure (List Char) :=
  match skipBlanks cs with
  | [] => fail .endInList []
  | ']' :: rest => .ok rest
  | ',' :: rest =>
    match skipBlanks rest with
    | ']' :: rest => failPast .trailingComma (']' :: rest)
    | rest => failPast .trailingCharacters rest
  | c :: rest => failPast .trailingCharacters (c :: rest)

theorem length_of_readListEnd {cs rest : List Char} (h : readListEnd cs = .ok rest) :
    rest.length < cs.length := by
  unfold readListEnd at h
  split at h
  · cases h
  · next hc =>
    cases h
    exact length_of_skipBlanks_eq hc
  · split at h <;> cases h
  · cases h

/-- The record of a list that ends after `length` fields; the rest of the text follows. -/
def Shape.cut (s : Shape α β) (length : Nat) (a : Option α) (rest : List Char) :
    Except Failure ((α × β) × List Char) :=
  match a, s.second.absent with
  | some a, some b => .ok ((a, b), rest)
  | some _, none => fail (.invalidLength (max length 1) s.name) rest
  | none, _ => fail (.invalidLength length s.name) rest

/-- Reads a record written as a list, after the first field. -/
def readSecond (s : Shape α β) (a : α) (cs : List Char) : Except Failure ((α × β) × List Char) :=
  match skipBlanks cs with
  | [] => fail .endInList []
  | ']' :: rest => s.cut 1 (some a) rest
  | ',' :: rest =>
    match skipBlanks rest with
    | [] => fail .endInValue []
    | ']' :: rest => failPast .trailingComma (']' :: rest)
    | rest =>
      match s.second.value.read rest with
      | .error e => .error e
      | .ok (b, rest) => (readListEnd rest).map ((a, b), ·)
  | c :: rest => failPast .expectedListSeparator (c :: rest)

/-- Reads a record written as a list, after the opening bracket. -/
def readElements (s : Shape α β) (cs : List Char) : Except Failure ((α × β) × List Char) :=
  match skipBlanks cs with
  | [] => fail .endInList []
  | ']' :: rest => s.cut 0 s.first.absent rest
  | rest =>
    match s.first.value.read rest with
    | .error e => .error e
    | .ok (a, rest) => readSecond s a rest

theorem Shape.length_of_cut {s : Shape α β} {n : Nat} {a : Option α} {cs rest : List Char}
    {v : α × β} (h : s.cut n a cs = .ok (v, rest)) : rest = cs := by
  unfold cut at h
  split at h
  · cases h; rfl
  · cases h
  · cases h

theorem length_of_readSecond {s : Shape α β} {a : α} {cs rest : List Char} {v : α × β}
    (h : readSecond s a cs = .ok (v, rest)) : rest.length < cs.length := by
  unfold readSecond at h
  split at h
  · cases h
  · next hc =>
    rw [s.length_of_cut h]
    exact length_of_skipBlanks_eq hc
  · next tail hc =>
    split at h
    · cases h
    · cases h
    · split at h
      · cases h
      · next hv =>
        obtain ⟨r, hr, he⟩ := eq_ok_of_map_eq_ok h
        cases he
        have := length_of_readListEnd hr
        have := s.second.value.shorter hv
        have := length_skipBlanks tail
        have := length_of_skipBlanks_eq hc
        omega
  · cases h

theorem length_of_readElements {s : Shape α β} {cs rest : List Char} {v : α × β}
    (h : readElements s cs = .ok (v, rest)) : rest.length < cs.length := by
  unfold readElements at h
  split at h
  · cases h
  · next hc =>
    rw [s.length_of_cut h]
    exact length_of_skipBlanks_eq hc
  · split at h
    · cases h
    · next hv =>
      have := length_of_readSecond h
      have := s.first.value.shorter hv
      have := length_skipBlanks cs
      omega

/-! ## Either -/

/-- Reads a record. -/
def readRecord (s : Shape α β) : Reader (α × β) where
  read cs :=
    match skipBlanks cs with
    | [] => fail .endInValue []
    | '[' :: rest => readElements s rest
    | '\x7b' :: rest => readMembers s true none none rest
    | c :: rest => wrongType (.record s.name) (c :: rest)
  shorter h := by
    split at h
    · cases h
    · next hc => exact Nat.lt_trans (length_of_readElements h) (length_of_skipBlanks_eq hc)
    · next hc => exact Nat.lt_trans (length_of_readMembers h) (length_of_skipBlanks_eq hc)
    · exact absurd h wrongType_ne_ok

end EngineExtension.Json
