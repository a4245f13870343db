import EngineExtension.Proofs.Grammar

/-!
# Taking tokens off a text

What the readers do with the front of a text whose next token is known: they pass over the blanks,
take exactly the token, and leave a text of the tokens after it.

* `Spaced.skip` — behind the blanks stands the next token;
* `readString_of_spellsAll`, `skipChars_of_spellsAll` — a string is read for what it says, and
  skipped up to its end, however it is written;
* `readNumeral_toDigits` — a number is taken up to its last digit, if what follows does not go on
  with it (`Stops`);
* `Ends` — the tokens in front of which a value ends;
* `Token.begins` — the tokens that a value begins with.
-/

namespace EngineExtension.Json

/-! ## Blanks -/

/-- The blanks that may stand between tokens are those that the readers pass over. -/
theorem isBlank_of_allBlank {cs : List Char} (h : AllBlank cs) : ∀ c ∈ cs, isBlank c = true := by
  intro c hc
  rcases h c hc with rfl | rfl | rfl | rfl <;> rfl

/-- Blanks at the front do not change where the next token begins. -/
theorem skipBlanks_append {blanks : List Char} (h : AllBlank blanks) (cs : List Char) :
    skipBlanks (blanks ++ cs) = skipBlanks cs :=
  List.dropWhile_append_of_pos (isBlank_of_allBlank h)

/-- In a text of blanks there is no next token. -/
theorem skipBlanks_of_allBlank {cs : List Char} (h : AllBlank cs) : skipBlanks cs = [] := by
  have hskip := skipBlanks_append h []
  rw [List.append_nil] at hskip
  exact hskip

theorem skipBlanks_cons {c : Char} (h : isBlank c = false) (cs : List Char) :
    skipBlanks (c :: cs) = c :: cs := by
  simp [skipBlanks, h]

/-- A digit is not passed over. -/
theorem isBlank_of_isDigit {c : Char} (h : isDigit c = true) : isBlank c = false := by
  rcases hblank : isBlank c with _ | _
  · rfl
  · simp only [isBlank, Bool.or_eq_true, beq_iff_eq] at hblank
    rcases hblank with ((rfl | rfl) | rfl) | rfl <;> cases h

/-! ## Numbers -/

/-- A number is written in the digits that the readers know. -/
theorem isDigit_of_mem_toDigits {n : Nat} {c : Char} (h : c ∈ Nat.toDigits 10 n) :
    isDigit c = true := by
  have hdigit := Nat.isDigit_of_mem_toDigits (by decide) (by decide) h
  simpa [Char.isDigit, isDigit, Char.le_def] using hdigit

/-- The digits of a positive number do not begin with a zero. -/
theorem toDigits_of_pos {n : Nat} (h : 0 < n) :
    ∃ d ds, Nat.toDigits 10 n = d :: ds ∧ d ≠ '0' := by
  have hchar : ∀ n < 10, 0 < n → Nat.digitChar n ≠ '0' := by decide
  induction n using Nat.strongRecOn with
  | ind n ih =>
    rcases Nat.lt_or_ge n 10 with hlt | hge
    · exact ⟨Nat.digitChar n, [], Nat.toDigits_of_lt_base hlt, hchar n hlt h⟩
    · obtain ⟨d, ds, hds, hd⟩ := ih (n / 10) (by omega) (by omega)
      refine ⟨d, ds ++ [(n % 10).digitChar], ?_, hd⟩
      rw [Nat.toDigits_of_base_le (by decide) hge, hds, List.cons_append]

/-- A text that does not go on with a number in front of it. -/
def Stops (cs : List Char) : Prop :=
  ∀ c rest, cs = c :: rest → isDigit c = false ∧ c ≠ '.' ∧ c ≠ 'e' ∧ c ≠ 'E'

variable {rest : List Char}

/-- No digit is at the front of a text that stops a number. -/
theorem Stops.dropWhile (h : Stops rest) : rest.dropWhile isDigit = rest := by
  cases rest with
  | nil => rfl
  | cons c rest => simp [(h c rest rfl).1]

/-- A row of digits is taken up to the text that stops it. -/
theorem readDigits_append {d : Char} {ds : List Char} (hd : ∀ c ∈ d :: ds, isDigit c = true)
    (h : Stops rest) (atEnd : Cause) :
    ∃ taken, readDigits atEnd (d :: ds ++ rest) = .ok (taken, rest) := by
  obtain ⟨hfirst, hothers⟩ := List.forall_mem_cons.mp hd
  refine ⟨d :: (ds ++ rest).takeWhile isDigit, ?_⟩
  rw [List.cons_append, readDigits, if_pos hfirst, List.dropWhile_append_of_pos hothers,
    h.dropWhile]

/-- The whole part of a number is taken up to its last digit. A zero is taken alone, and no other
number begins with one. -/
theorem readWhole_toDigits (n : Nat) (h : Stops rest) (atEnd : Cause) :
    ∃ taken, readWhole atEnd (Nat.toDigits 10 n ++ rest) = .ok (taken, rest) := by
  rcases Nat.eq_zero_or_pos n with rfl | hpos
  · -- a zero stands alone
    cases rest with
    | nil => exact ⟨['0'], rfl⟩
    | cons c rest =>
      refine ⟨['0'], ?_⟩
      rw [Nat.toDigits_zero]
      simp [readWhole, (h c rest rfl).1]
  · obtain ⟨d, ds, hds, hd⟩ := toDigits_of_pos hpos
    have hall : ∀ c ∈ d :: ds, isDigit c = true := fun c hc => isDigit_of_mem_toDigits (hds ▸ hc)
    obtain ⟨taken, htaken⟩ := readDigits_append hall h atEnd
    refine ⟨taken, ?_⟩
    rw [hds, ← htaken, readWhole]
    intro e es he
    exact hd (List.cons.inj he).1

/-- No fraction is read off a text that stops a number. -/
theorem Stops.readFraction (h : Stops rest) (atEnd : Cause) :
    readFraction atEnd rest = .ok ([], rest) := by
  rw [Json.readFraction]
  rintro cs rfl
  exact (h '.' cs rfl).2.1 rfl

/-- No exponent either. -/
theorem Stops.readExponent (h : Stops rest) (atEnd : Cause) :
    readExponent atEnd rest = .ok (none, rest) := by
  cases rest with
  | nil => rfl
  | cons c rest =>
    obtain ⟨-, -, he, hE⟩ := h c rest rfl
    rw [Json.readExponent, if_neg (by simp [he, hE])]

/-- A number is taken up to its last digit. -/
theorem readNumeral_toDigits (n : Nat) (h : Stops rest) (atEnd : Cause) :
    ∃ numeral, readNumeral atEnd (Nat.toDigits 10 n ++ rest) = .ok (numeral, rest) := by
  obtain ⟨taken, htaken⟩ := readWhole_toDigits n h atEnd
  refine ⟨⟨taken, [], none⟩, ?_⟩
  simp only [readNumeral, htaken, h.readFraction, h.readExponent]

/-! ## Strings -/

/-- A hexadecimal digit has its value in either case. -/
theorem hexValue?_of_isHexDigit {d : Char} {n : Nat} (h : IsHexDigit d n) :
    hexValue? d = some n := by
  rcases h with h | h
  · obtain ⟨hn, rfl⟩ := List.getElem?_eq_some_iff.mp h
    have hvalue : ∀ n : Fin 16, hexValue? (['0', '1', '2', '3', '4', '5', '6', '7', '8', '9', 'a',
      'b', 'c', 'd', 'e', 'f'].get n) = some n.val := by decide
    exact hvalue ⟨n, hn⟩
  · obtain ⟨hn, rfl⟩ := List.getElem?_eq_some_iff.mp h
    have hvalue : ∀ n : Fin 16, hexValue? (['0', '1', '2', '3', '4', '5', '6', '7', '8', '9', 'A',
      'B', 'C', 'D', 'E', 'F'].get n) = some n.val := by decide
    exact hvalue ⟨n, hn⟩

/-- Four hexadecimal digits are read as their number. -/
theorem readHex4_of_isHex4 {ds : List Char} {n : Nat} (h : IsHex4 ds n) (rest : List Char) :
    readHex4 (ds ++ rest) = .ok (n, rest) := by
  cases h with
  | @digits a b c d i j k l ha hb hc hd =>
    have hsum : ((i * 16 + j) * 16 + k) * 16 + l =
        i * 0x1000 + j * 0x100 + k * 0x10 + l := by omega
    simp only [List.cons_append, List.nil_append, readHex4, hexValue?_of_isHexDigit ha,
      hexValue?_of_isHexDigit hb, hexValue?_of_isHexDigit hc, hexValue?_of_isHexDigit hd, hsum]

/-- No character is one half of another. -/
theorem not_isSurrogate (c : Char) :
    isLowSurrogate c.toNat = false ∧ isHighSurrogate c.toNat = false := by
  have hvalid : c.toNat < 0xD800 ∨ 0xDFFF < c.toNat ∧ c.toNat < 0x110000 := c.valid
  simp only [isLowSurrogate, isHighSurrogate, Bool.and_eq_false_iff, decide_eq_false_iff_not]
  omega

/-- A character that is escaped by its number alone is read as itself: its number is no half. -/
theorem readCodePoint_of_isHex4 {c : Char} {ds : List Char} (h : IsHex4 ds c.toNat)
    (rest : List Char) : readCodePoint (ds ++ rest) = .ok (c, rest) := by
  obtain ⟨hlow, hhigh⟩ := not_isSurrogate c
  simp [readCodePoint, readHex4_of_isHex4 h, hlow, hhigh]

/-- A character that is escaped by two halves is put together from them. -/
theorem readCodePoint_of_halves {c : Char} {hs ls : List Char} {high low : Nat}
    (hh : IsHex4 hs high) (hl : IsHex4 ls low) (hhigh : 0xD800 ≤ high ∧ high ≤ 0xDBFF)
    (hlow : 0xDC00 ≤ low ∧ low ≤ 0xDFFF)
    (hc : c.toNat = (high - 0xD800) * 0x400 + (low - 0xDC00) + 0x10000) (rest : List Char) :
    readCodePoint (hs ++ '\\' :: 'u' :: (ls ++ rest)) = .ok (c, rest) := by
  have hfirst : isLowSurrogate high = false ∧ isHighSurrogate high = true := by
    simp only [isLowSurrogate, isHighSurrogate, Bool.and_eq_false_iff, decide_eq_false_iff_not,
      Bool.and_eq_true, decide_eq_true_eq]
    omega
  have hsecond : isLowSurrogate low = true := by simpa [isLowSurrogate] using hlow
  have hcombine : combineSurrogates high low = c := by
    rw [combineSurrogates, ← hc, Char.ofNat_toNat]
  simp [readCodePoint, readLowSurrogate, readHex4_of_isHex4 hh, readHex4_of_isHex4 hl, hfirst.1,
    hfirst.2, hsecond, hcombine]

/-- The letter of an escape is no `u`, which would start a number. -/
theorem shortEscape?_of_mem {l c : Char} (h : (l, c) ∈ escapeLetters) :
    l ≠ 'u' ∧ shortEscape? l = some c := by
  simp only [escapeLetters, List.mem_cons, Prod.mk.injEq, List.not_mem_nil, or_false] at h
  rcases h with ⟨rfl, rfl⟩ | ⟨rfl, rfl⟩ | ⟨rfl, rfl⟩ | ⟨rfl, rfl⟩ | ⟨rfl, rfl⟩ | ⟨rfl, rfl⟩ |
    ⟨rfl, rfl⟩ | ⟨rfl, rfl⟩ <;> exact ⟨by decide, rfl⟩

/-- A plain character is read as itself. -/
theorem readChars_plain {c : Char} (hquote : c ≠ '"') (hslash : c ≠ '\\')
    (hcontrol : isControl c = false) (taken rest : List Char) :
    readChars taken (c :: rest) = readChars (c :: taken) rest := by
  rw [readChars.eq_def]
  split
  · next h => cases h
  · next h => exact absurd (List.cons.inj h).1 hquote
  · next h => exact absurd (List.cons.inj h).1 hslash
  · next h =>
    obtain ⟨rfl, rfl⟩ := List.cons.inj h
    rw [hcontrol]
    rfl

/-- An escape is read as the character that it stands for. -/
theorem readChars_escape {c : Char} {cs rest : List Char} (h : readEscape cs = .ok (c, rest))
    (taken : List Char) : readChars taken ('\\' :: cs) = readChars (c :: taken) rest := by
  rw [readChars]
  split
  · next h' => cases h.symm.trans h'
  · next h' =>
    obtain ⟨rfl, rfl⟩ := Prod.mk.inj (Except.ok.inj (h.symm.trans h'))
    rfl

/-- A plain character is skipped. -/
theorem skipChars_plain {c : Char} (hquote : c ≠ '"') (hslash : c ≠ '\\')
    (hcontrol : isControl c = false) (rest : List Char) :
    skipChars (c :: rest) = skipChars rest := by
  rw [skipChars.eq_def]
  split
  · next h => cases h
  · next h => exact absurd (List.cons.inj h).1 hquote
  · next h => exact absurd (List.cons.inj h).1 hslash
  · next h =>
    obtain ⟨rfl, rfl⟩ := List.cons.inj h
    rw [hcontrol]
    rfl

/-- An escape is skipped as a whole. -/
theorem skipChars_escape {cs rest : List Char} (h : skipEscape cs = .ok rest) :
    skipChars ('\\' :: cs) = skipChars rest := by
  rw [skipChars]
  split
  · next h' => cases h.symm.trans h'
  · next h' =>
    obtain rfl := Except.ok.inj (h.symm.trans h')
    rfl

/-- An escape by a letter is read as the character that the letter stands for. -/
theorem readEscape_letter {l c : Char} (h : (l, c) ∈ escapeLetters) (rest : List Char) :
    readEscape (l :: rest) = .ok (c, rest) := by
  obtain ⟨hl, hescape⟩ := shortEscape?_of_mem h
  simp [readEscape, hescape]

theorem readEscape_number (cs : List Char) : readEscape ('u' :: cs) = readCodePoint cs := rfl

theorem skipEscape_letter {l c : Char} (h : (l, c) ∈ escapeLetters) (rest : List Char) :
    skipEscape (l :: rest) = .ok rest := by
  obtain ⟨hl, hescape⟩ := shortEscape?_of_mem h
  simp [skipEscape, hescape]

/-- An escape by a number is skipped behind its four digits, whether they are a half or not. -/
theorem skipEscape_of_isHex4 {ds : List Char} {n : Nat} (h : IsHex4 ds n) (rest : List Char) :
    skipEscape ('u' :: (ds ++ rest)) = .ok rest := by
  simp [skipEscape, readHex4_of_isHex4 h]

theorem isControl_of_le {c : Char} (h : 0x20 ≤ c.toNat) : isControl c = false := by
  simp [isControl, h]

/-- However a character is written, it is read as itself. -/
theorem readChars_of_spells {c : Char} {w : List Char} (h : Spells c w) (taken rest : List Char) :
    readChars taken (w ++ rest) = readChars (c :: taken) rest := by
  cases h with
  | plain hquote hslash hcontrol =>
    exact readChars_plain hquote hslash (isControl_of_le hcontrol) taken rest
  | letter h => exact readChars_escape (readEscape_letter h rest) taken
  | number h =>
    simp only [List.cons_append]
    refine readChars_escape ?_ taken
    rw [readEscape_number]
    exact readCodePoint_of_isHex4 h rest
  | @halves _ hs ls high low hh hl hhigh hlow hc =>
    simp only [List.cons_append, List.append_assoc]
    refine readChars_escape ?_ taken
    rw [readEscape_number]
    exact readCodePoint_of_halves hh hl hhigh hlow hc rest

/-- However a character is written, it is skipped as a whole. -/
theorem skipChars_of_spells {c : Char} {w : List Char} (h : Spells c w) (rest : List Char) :
    skipChars (w ++ rest) = skipChars rest := by
  cases h with
  | plain hquote hslash hcontrol =>
    exact skipChars_plain hquote hslash (isControl_of_le hcontrol) rest
  | letter h => exact skipChars_escape (skipEscape_letter h rest)
  | number h => exact skipChars_escape (skipEscape_of_isHex4 h rest)
  | halves hh hl =>
    -- the two halves are skipped one after the other
    simp only [List.cons_append, List.append_assoc]
    rw [skipChars_escape (skipEscape_of_isHex4 hh _), skipChars_escape (skipEscape_of_isHex4 hl _)]

/-- Reading goes on to the quote at the end, and gives what was read before it as well. -/
theorem readChars_of_spellsAll {s ws : List Char} (h : SpellsAll s ws) (taken rest : List Char) :
    readChars taken (ws ++ '"' :: rest) = .ok (taken.reverse ++ s, rest) := by
  induction h generalizing taken with
  | nil => rw [List.nil_append, readChars, List.append_nil]
  | cons h _ ih => rw [List.append_assoc, readChars_of_spells h, ih]; simp

/-- **Strings are read for what they say.** -/
theorem readString_of_spellsAll {s : String} {ws : List Char} (h : SpellsAll s.toList ws)
    (rest : List Char) : readString (ws ++ '"' :: rest) = .ok (s, rest) := by
  simp [readString, readChars_of_spellsAll h]

/-- **Strings are skipped up to their end.** -/
theorem skipChars_of_spellsAll {s ws : List Char} (h : SpellsAll s ws) (rest : List Char) :
    skipChars (ws ++ '"' :: rest) = .ok rest := by
  induction h with
  | nil => rw [List.nil_append, skipChars]
  | cons h _ ih => rw [List.append_assoc, skipChars_of_spells h, ih]

/-! ## The next token -/

/-- A token begins with something that is no blank, so it is not passed over. -/
theorem Token.Written.front {t : Token} {w : List Char} (h : t.Written w) :
    ∃ c cs, w = c :: cs ∧ isBlank c = false := by
  cases h with
  | opens b => cases b <;> exact ⟨_, _, rfl, rfl⟩
  | closes b => cases b <;> exact ⟨_, _, rfl, rfl⟩
  | natural n =>
    obtain ⟨d, ds, hds⟩ := List.exists_cons_of_ne_nil (Nat.toDigits_ne_nil (n := n) (b := 10))
    refine ⟨d, ds, hds, isBlank_of_isDigit (isDigit_of_mem_toDigits (n := n) ?_)⟩
    rw [hds]
    exact List.mem_cons_self
  | _ => exact ⟨_, _, rfl, rfl⟩

variable {t : Token} {ts : List Token} {cs : List Char}

/-- Behind the blanks stands the next token. -/
theorem Spaced.skip (h : Spaced (t :: ts) cs) :
    ∃ w rest, skipBlanks cs = w ++ rest ∧ t.Written w ∧ Spaced ts rest := by
  cases h with
  | @cons _ _ blanks w rest hblanks hw hrest =>
    obtain ⟨c, w', rfl, hc⟩ := hw.front
    refine ⟨c :: w', rest, ?_, hw, hrest⟩
    rw [skipBlanks_append hblanks, List.cons_append, skipBlanks_cons hc]

/-- Behind the last token stand blanks only. -/
theorem Spaced.skip_nil (h : Spaced [] cs) : skipBlanks cs = [] := by
  cases h with
  | nil h => exact skipBlanks_of_allBlank h

/-- Passing over the blanks changes nothing else. -/
theorem Spaced.trim (h : Spaced ts cs) : Spaced ts (skipBlanks cs) := by
  cases ts with
  | nil =>
    rw [h.skip_nil]
    exact .nil (List.forall_mem_nil _)
  | cons t ts =>
    obtain ⟨w, rest, hskip, hw, hrest⟩ := h.skip
    rw [hskip]
    exact .cons (List.forall_mem_nil _) hw hrest

/-- The character of a token that has just one. -/
def Token.mark? : Token → Option Char
  | opens b => some b.opener
  | closes b => some b.closer
  | comma => some ','
  | colon => some ':'
  | _ => none

/-- Behind the blanks stands the character of a token that has just one. -/
theorem Spaced.skip_mark {c : Char} (h : Spaced (t :: ts) cs) (hc : t.mark? = some c) :
    ∃ rest, skipBlanks cs = c :: rest ∧ Spaced ts rest := by
  obtain ⟨w, rest, hskip, hw, hrest⟩ := h.skip
  cases hw with
  | opens b => exact ⟨rest, Option.some.inj hc ▸ hskip, hrest⟩
  | closes b => exact ⟨rest, Option.some.inj hc ▸ hskip, hrest⟩
  | comma => exact ⟨rest, Option.some.inj hc ▸ hskip, hrest⟩
  | colon => exact ⟨rest, Option.some.inj hc ▸ hskip, hrest⟩
  | _ => cases hc

/-- A list begins with its bracket; behind it stand the items, the first without a comma. -/
theorem Spaced.skip_list {items : List Value} (h : Spaced ((Value.list items).tokens ++ ts) cs) :
    ∃ rest, skipBlanks cs = '[' :: rest ∧
      Spaced ((listed (items.map Value.tokens)).tail ++ .closes .list :: ts) rest := by
  rw [Value.tokens, itemTokens_eq, List.cons_append, List.cons_append, List.append_assoc] at h
  exact h.skip_mark rfl

/-- An object begins with its bracket; behind it stand the members, the first without a comma. -/
theorem Spaced.skip_object {members : List (String × Value)}
    (h : Spaced ((Value.object members).tokens ++ ts) cs) :
    ∃ rest, skipBlanks cs = '\x7b' :: rest ∧
      Spaced ((listed (members.map memberPart)).tail ++ .closes .object :: ts) rest := by
  rw [Value.tokens, memberTokens_eq, List.cons_append, List.cons_append, List.append_assoc] at h
  exact h.skip_mark rfl

/-- A string is read and skipped to the same place, that of the tokens after it. -/
theorem Spaced.skip_string {s : String} (h : Spaced (.string s :: ts) cs) :
    ∃ body rest, skipBlanks cs = '"' :: body ∧ readString body = .ok (s, rest) ∧
      skipChars body = .ok rest ∧ Spaced ts rest := by
  obtain ⟨w, rest, hskip, hw, hrest⟩ := h.skip
  cases hw with
  | @string _ ws hs =>
    refine ⟨ws ++ '"' :: rest, rest, ?_, readString_of_spellsAll hs rest,
      skipChars_of_spellsAll hs rest, hrest⟩
    simpa using hskip

/-- The colon between a key and its value is taken. -/
theorem Spaced.readColon (h : Spaced (.colon :: ts) cs) :
    ∃ rest, readColon cs = .ok rest ∧ Spaced ts rest := by
  obtain ⟨rest, hskip, hrest⟩ := h.skip_mark rfl
  refine ⟨rest, ?_, hrest⟩
  simp only [Json.readColon, hskip]

/-! ## The end of a value -/

/-- A token that can stand behind a value in a list or an object. -/
def Token.endsValue : Token → Bool
  | comma => true
  | closes _ => true
  | _ => false

/-- Tokens in front of which a value ends. -/
def Ends (ts : List Token) : Prop := ∀ t rest, ts = t :: rest → t.endsValue = true

theorem ends_nil : Ends [] := fun _ _ h => nomatch h

theorem ends_cons (h : t.endsValue = true) (ts : List Token) : Ends (t :: ts) := by
  rintro _ _ ⟨⟩
  exact h

/-- A number ends in front of blanks, a comma or a closing bracket, and at the end of the text. -/
theorem Spaced.stops (h : Spaced ts cs) (hends : Ends ts) : Stops cs := by
  have hblank : ∀ c : Char, (c = ' ' ∨ c = '\t' ∨ c = '\n' ∨ c = '\r') →
      isDigit c = false ∧ c ≠ '.' ∧ c ≠ 'e' ∧ c ≠ 'E' := by
    rintro c (rfl | rfl | rfl | rfl) <;> decide
  cases h with
  | nil h =>
    rintro c rest rfl
    exact hblank c (h c List.mem_cons_self)
  | @cons t ts blanks w rest hblanks hw hrest =>
    rintro c more hcs
    cases blanks with
    | cons b blanks =>
      obtain ⟨rfl, -⟩ := List.cons.inj hcs
      exact hblank _ (hblanks _ List.mem_cons_self)
    | nil =>
      have hend := hends t ts rfl
      cases hw with
      | comma =>
        obtain ⟨rfl, -⟩ := List.cons.inj hcs
        decide
      | closes b =>
        obtain ⟨rfl, -⟩ := List.cons.inj hcs
        cases b <;> decide
      | _ => cases hend

/-- A number is taken as a whole, with or without a minus in front of it. -/
theorem Spaced.skip_integer {n : Int} (h : Spaced (.integer n :: ts) cs) (hends : Ends ts) :
    ∃ c body numeral rest, skipBlanks cs = c :: body ∧
      (c = '-' ∧ readNumeral .invalidNumber body = .ok (numeral, rest) ∨
        isDigit c = true ∧ readNumeral .invalidNumber (c :: body) = .ok (numeral, rest)) ∧
      Spaced ts rest := by
  obtain ⟨w, rest, hskip, hw, hrest⟩ := h.skip
  have hstops := hrest.stops hends
  cases hw with
  | natural n =>
    obtain ⟨numeral, hread⟩ := readNumeral_toDigits n hstops .invalidNumber
    obtain ⟨d, ds, hds⟩ := List.exists_cons_of_ne_nil (Nat.toDigits_ne_nil (n := n) (b := 10))
    have hd : isDigit d = true := isDigit_of_mem_toDigits (n := n) (by simp [hds])
    rw [hds] at hskip hread
    exact ⟨d, ds ++ rest, numeral, rest, hskip, .inr ⟨hd, hread⟩, hrest⟩
  | negative n =>
    obtain ⟨numeral, hread⟩ := readNumeral_toDigits n hstops .invalidNumber
    exact ⟨'-', _, numeral, rest, hskip, .inl ⟨rfl, hread⟩, hrest⟩

/-! ## The first token of a value -/

/-- A token that a value or a key can begin with. -/
def Token.begins : Token → Bool
  | opens _ => true
  | null => true
  | bool _ => true
  | integer _ => true
  | string _ => true
  | _ => false

/-- What begins is no end. -/
theorem Spaced.skip_begins (h : Spaced (t :: ts) cs) (ht : t.begins = true) :
    ∃ c rest, skipBlanks cs = c :: rest ∧ ∀ b : Bracket, c ≠ b.closer := by
  obtain ⟨w, rest, hskip, hw, -⟩ := h.skip
  cases hw with
  | opens b => exact ⟨_, _, hskip, by cases b <;> rintro ⟨⟩ <;> decide⟩
  | null => exact ⟨_, _, hskip, by rintro ⟨⟩ <;> decide⟩
  | yes => exact ⟨_, _, hskip, by rintro ⟨⟩ <;> decide⟩
  | no => exact ⟨_, _, hskip, by rintro ⟨⟩ <;> decide⟩
  | natural n =>
    obtain ⟨d, ds, hds⟩ := List.exists_cons_of_ne_nil (Nat.toDigits_ne_nil (n := n) (b := 10))
    have hd : isDigit d = true := isDigit_of_mem_toDigits (n := n) (by simp [hds])
    rw [hds] at hskip
    refine ⟨d, ds ++ rest, hskip, ?_⟩
    rintro (_ | _) rfl <;> cases hd
  | negative n => exact ⟨_, _, hskip, by rintro ⟨⟩ <;> decide⟩
  | string hs => exact ⟨_, _, hskip, by rintro ⟨⟩ <;> decide⟩
  | _ => cases ht

/-- A value begins with a token that no list or object ends with. -/
theorem Value.tokens_begins (v : Value) : ∃ t ts, v.tokens = t :: ts ∧ t.begins = true := by
  cases v with
  | list items => exact ⟨_, _, by rw [tokens, List.cons_append], rfl⟩
  | object members => exact ⟨_, _, by rw [tokens, List.cons_append], rfl⟩
  | _ => exact ⟨_, _, by rw [tokens], rfl⟩

end EngineExtension.Json
