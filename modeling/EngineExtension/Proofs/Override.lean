import EngineExtension.Proofs.Boundary
import EngineExtension.Proofs.ConfigText
import Mathlib.Data.List.DropRight
import Mathlib.Data.List.Forall2

/-!
# Overriding the filter for the own targets

The filter for the own targets can be overridden time and again, by values that may name a filter or
not. Of all of them, the last one that names a filter counts. A value names a filter if it is the
filter's name up to the case of its letters, once the blanks at its ends are gone.

* `Text.SameWord` — equal texts but for the case of the letters A to Z;
* `Text.Trims` — a text without the blanks at its ends, said without taking them off one by one;
* `Log.Filter.AskedBy` — the filter that a value names, in these terms;
* `Text.decode?_eq_some_iff` — which bytes are text;
* `Log.Config.last_named_filter_holds` — a row of overrides, and the one from the environment.
-/

namespace EngineExtension

namespace Text

/-! ## Upper and lower case -/

/-- The same character, or the upper and the lower case of a letter from A to Z. Other letters have
no second case here. -/
inductive SameLetter : Char → Char → Prop where
  | same (a : Char) : SameLetter a a
  | lower {a b : Char} (ha : 'A' ≤ a ∧ a ≤ 'Z') (h : b.toNat = a.toNat + 32) : SameLetter a b
  | upper {a b : Char} (hb : 'A' ≤ b ∧ b ≤ 'Z') (h : a.toNat = b.toNat + 32) : SameLetter a b

/-- Two texts that are equal but for the case of their letters. -/
def SameWord (s t : String) : Prop := List.Forall₂ SameLetter s.toList t.toList

/-- Raising a character to upper case takes the code points of a to z down by 32 and leaves the
others. -/
theorem toNat_toUpper (c : Char) :
    c.toUpper.toNat = if 97 ≤ c.toNat ∧ c.toNat ≤ 122 then c.toNat - 32 else c.toNat := by
  have hletter : ('a'.val ≤ c.val ∧ c.val ≤ 'z'.val) ↔ 97 ≤ c.toNat ∧ c.toNat ≤ 122 := Iff.rfl
  by_cases h : 97 ≤ c.toNat ∧ c.toNat ≤ 122
  · have hupper : c.toUpper = _ := dif_pos (hletter.mpr h)
    have hval : c.toUpper.toNat = (c.toNat + (2 ^ 32 - 32)) % 2 ^ 32 := by
      rw [hupper]
      exact UInt32.toNat_add ..
    rw [if_pos h]
    omega
  · have hupper : c.toUpper = c := dif_neg (mt hletter.mp h)
    rw [if_neg h, hupper]

/-- Letters are the same up to case if they have one upper case. -/
theorem sameLetter_iff {a b : Char} : SameLetter a b ↔ a.toUpper = b.toUpper := by
  rw [← Char.toNat_inj, toNat_toUpper, toNat_toUpper]
  constructor
  · intro h
    cases h with
    | same => rfl
    | lower ha h =>
      have hletter : 65 ≤ a.toNat ∧ a.toNat ≤ 90 := ha
      split <;> split <;> omega
    | upper hb h =>
      have hletter : 65 ≤ b.toNat ∧ b.toNat ≤ 90 := hb
      split <;> split <;> omega
  · intro h
    by_cases hsame : a.toNat = b.toNat
    · rw [Char.toNat_inj.mp hsame]
      exact .same b
    -- two different characters have one upper case only if one of them is it
    split at h <;> split at h
    · omega
    · have hletter : 65 ≤ b.toNat ∧ b.toNat ≤ 90 := by omega
      exact .upper hletter (by omega)
    · have hletter : 65 ≤ a.toNat ∧ a.toNat ≤ 90 := by omega
      exact .lower hletter (by omega)
    · omega

/-- So two texts are the same word if raising every letter makes them equal. -/
theorem sameWord_iff {s t : String} :
    SameWord s t ↔ s.toList.map Char.toUpper = t.toList.map Char.toUpper := by
  rw [SameWord, ← List.forall₂_eq_eq_eq, List.forall₂_map_left_iff, List.forall₂_map_right_iff]
  exact ⟨.imp fun _ _ => sameLetter_iff.mp, .imp fun _ _ => sameLetter_iff.mpr⟩

/-! ## Blanks at the ends -/

/-- A text `t` that is left of `s` when the blanks at its ends are gone. -/
structure Trims (s t : String) : Prop where
  /-- around it there are blanks only -/
  around : ∃ front back : List Char, s.toList = front ++ (t.toList ++ back) ∧
    (∀ c ∈ front, isBlank c = true) ∧ ∀ c ∈ back, isBlank c = true
  /-- it begins with no blank -/
  start : ∀ c ∈ t.toList.head?, isBlank c = false
  /-- it ends with no blank -/
  finish : ∀ c ∈ t.toList.getLast?, isBlank c = false

/-- Blanks in front of a text that begins with none are what is taken off at its start. -/
theorem trimStart_append {front cs : List Char} (hfront : ∀ c ∈ front, isBlank c = true)
    (hcs : ∀ c ∈ cs.head?, isBlank c = false) : trimStart (front ++ cs) = cs := by
  rw [trimStart, List.dropWhile_append_of_pos hfront]
  cases cs with
  | nil => rfl
  | cons c cs => exact List.dropWhile_cons_of_neg (by simp [hcs c rfl])

/-- Blanks behind a text that ends with none are what is taken off at its end. -/
theorem trimEnd_append {cs back : List Char} (hback : ∀ c ∈ back, isBlank c = true)
    (hcs : ∀ c ∈ cs.getLast?, isBlank c = false) : trimEnd (cs ++ back) = cs := by
  rw [trimEnd, List.reverse_append, trimStart_append, List.reverse_reverse]
  · simpa using hback
  · simpa using hcs

/-- What is left without the blanks at both ends is unique: it is what trimming gives. -/
theorem Trims.trim_eq {s t : String} (h : Trims s t) : trim s = t := by
  obtain ⟨front, back, hs, hfront, hback⟩ := h.around
  have hend : trimEnd (trimStart s.toList) = t.toList := by
    rw [hs]
    rcases ht : t.toList with _ | ⟨c, cs⟩
    · -- nothing is left, so the blanks in front and behind are one row of blanks
      have hall : ∀ c ∈ front ++ back, isBlank c = true := by
        intro c hc
        exact (List.mem_append.mp hc).elim (hfront c) (hback c)
      have hnone : trimStart (front ++ back ++ []) = [] := trimStart_append hall (by simp)
      rw [List.nil_append, ← List.append_nil (front ++ back), hnone]
      rfl
    · rw [trimStart_append hfront, ← ht, trimEnd_append hback h.finish]
      exact fun d hd => h.start d (by simpa [ht] using hd)
  rw [trim, hend, String.ofList_toList]

/-- A text whose start is trimmed begins with no blank. -/
theorem not_blank_of_mem_head?_trimStart (cs : List Char) {c : Char}
    (h : c ∈ (trimStart cs).head?) : isBlank c = false := by
  have hhead := List.head?_dropWhile_not isBlank cs
  rw [trimStart] at h
  rwa [Option.mem_def.mp h] at hhead

/-- Trimming takes off the blanks at both ends, and nothing else. -/
theorem trims_trim (s : String) : Trims s (trim s) := by
  have hleft : (trim s).toList = trimEnd (trimStart s.toList) := String.toList_ofList
  have hback : trimEnd (trimStart s.toList) ++ (trimStart s.toList).rtakeWhile isBlank =
      trimStart s.toList := List.rdropWhile_append_rtakeWhile
  refine ⟨⟨s.toList.takeWhile isBlank, (trimStart s.toList).rtakeWhile isBlank, ?_, ?_, ?_⟩, ?_, ?_⟩
  · rw [hleft, hback]
    exact List.takeWhile_append_dropWhile.symm
  · exact fun c => List.mem_takeWhile_imp
  · exact fun c => List.mem_rtakeWhile_imp
  · intro c hc
    refine not_blank_of_mem_head?_trimStart s.toList ?_
    rw [← hback, ← hleft, List.head?_append, Option.mem_def.mp hc]
    rfl
  · intro c hc
    refine not_blank_of_mem_head?_trimStart (trimStart s.toList).reverse ?_
    rwa [hleft, trimEnd, List.getLast?_reverse] at hc

theorem trims_iff {s t : String} : Trims s t ↔ trim s = t := by
  refine ⟨Trims.trim_eq, ?_⟩
  rintro rfl
  exact trims_trim s

/-! ## Bytes that are text -/

/-- Pieces give a whole if none of them is missing, and then the whole is the pieces in order. -/
theorem mapM_id_eq_some_iff {ps : List (Option Char)} {cs : List Char} :
    ps.mapM id = some cs ↔ ps = cs.map some := by
  induction ps generalizing cs with
  | nil => cases cs <;> simp
  | cons p ps ih => cases p <;> cases cs <;> simp [Option.bind_eq_some_iff, ih, and_comm]

/-- Bytes that are read as characters without a gap are the bytes of these characters. -/
theorem eq_encode_of_pieces {bs : List UInt8} {cs : List Char} (h : pieces bs = cs.map some) :
    bs = encode cs := by
  induction cs generalizing bs with
  | nil =>
    cases bs with
    | nil => rfl
    | cons b bs => simp [pieces] at h
  | cons ch cs ih =>
    cases bs with
    | nil => simp [pieces] at h
    | cons b bs =>
      rw [pieces, List.map_cons, List.cons.injEq] at h
      have hfront : decodeChar b bs = (some ch, encode cs) := Prod.ext h.1 (ih h.2)
      rw [eq_encode_of_decodeChar hfront]
      rfl

/-- **Which bytes are text**: those of some characters, and as these they are read. -/
theorem decode?_eq_some_iff {bs : List UInt8} {cs : List Char} :
    decode? bs = some cs ↔ bs = encode cs := by
  rw [decode?, mapM_id_eq_some_iff]
  refine ⟨eq_encode_of_pieces, ?_⟩
  rintro rfl
  exact pieces_encode cs

end Text

namespace Log

/-! ## The filter that a value names -/

/-- A value that names a filter: it is there, and without the blanks at its ends it is the name of
the filter, in any mix of upper and lower case. -/
def Filter.AskedBy (f : Filter) (value : Option String) : Prop :=
  ∃ s t, value = some s ∧ Text.Trims s t ∧ Text.SameWord f.name t

/-- The names of filters are in upper case, so only the case of the text has to be raised to
compare. -/
theorem Filter.isNamed_iff_sameWord {f : Filter} {s : String} :
    f.IsNamed s ↔ Text.SameWord f.name s := by
  have hupper : f.name.toList.map Char.toUpper = f.name.toList := f.isNamed_name.symm
  rw [Text.sameWord_iff, hupper, IsNamed]

theorem Filter.ofName?_eq_some_iff_sameWord {f : Filter} {s : String} :
    ofName? s = some f ↔ Text.SameWord f.name s :=
  ofName?_eq_some_iff.trans isNamed_iff_sameWord

/-- What a value asks for is what the override reads in it: the name in the trimmed value. -/
theorem Filter.askedBy_iff {f : Filter} {value : Option String} :
    f.AskedBy value ↔ (value.bind fun s => ofName? (Text.trim s)) = some f := by
  simp only [AskedBy, Text.trims_iff, ← ofName?_eq_some_iff_sameWord]
  cases value <;> simp

/-- A value asks for no filter if the override reads no name in it. -/
theorem Filter.forall_not_askedBy_iff {value : Option String} :
    (∀ f : Filter, ¬ f.AskedBy value) ↔ (value.bind fun s => ofName? (Text.trim s)) = none := by
  simp only [askedBy_iff, ← Option.eq_none_iff_forall_ne_some]

instance (f : Filter) (value : Option String) : Decidable (f.AskedBy value) :=
  decidable_of_iff _ Filter.askedBy_iff.symm

namespace Config

variable {c : Config} {value : Option String} {values : List (Option String)} {f : Filter}

/-! ## One override -/

/-- A value that names a filter makes it the filter for the own targets. -/
theorem withOverride_of_asked (h : f.AskedBy value) :
    c.withOverride value = { c with app := f } := by
  rw [withOverride, Filter.askedBy_iff.mp h]

/-- A value that names no filter changes nothing. -/
theorem withOverride_of_not_asked (h : ∀ f : Filter, ¬ f.AskedBy value) :
    c.withOverride value = c := by
  rw [withOverride, Filter.forall_not_askedBy_iff.mp h]

/-- No value touches the filter for foreign targets. -/
theorem withOverride_other (c : Config) (value : Option String) :
    (c.withOverride value).other = c.other := by
  rw [withOverride]
  split <;> rfl

/-! ## A row of overrides -/

theorem foldl_withOverride_other (values : List (Option String)) (c : Config) :
    (values.foldl withOverride c).other = c.other := by
  induction values generalizing c with
  | nil => rfl
  | cons value values ih => rw [List.foldl_cons, ih, withOverride_other]

/-- Values that name no filter leave no trace. -/
theorem foldl_withOverride_of_not_asked (h : ∀ value ∈ values, ∀ f : Filter, ¬ f.AskedBy value) :
    values.foldl withOverride c = c := by
  induction values with
  | nil => rfl
  | cons value values ih =>
    rw [List.foldl_cons, withOverride_of_not_asked (h value (List.mem_cons_self ..))]
    exact ih fun later hlater => h later (List.mem_cons_of_mem value hlater)

/-- A value that names a filter holds if none of the later ones does, whatever came before. -/
theorem foldl_withOverride_of_last {before after : List (Option String)} (h : f.AskedBy value)
    (hafter : ∀ later ∈ after, ∀ g : Filter, ¬ g.AskedBy later) :
    ((before ++ value :: after).foldl withOverride c).app = f := by
  rw [List.foldl_append, List.foldl_cons, withOverride_of_asked h,
    foldl_withOverride_of_not_asked hafter]

/-! ## The environment -/

/-- Bytes of a text are the override by that text. -/
theorem withEnvironment_encode (c : Config) (s : String) :
    c.withEnvironment (some (Text.encode s.toList)) = c.withOverride (some s) := by
  rw [withEnvironment, Option.bind_some, Text.decode?_eq_some_iff.mpr rfl, Option.map_some,
    String.ofList_toList]

/-- Bytes that are no text override nothing. -/
theorem withEnvironment_of_not_text {bs : List UInt8}
    (h : ∀ s : String, bs ≠ Text.encode s.toList) : c.withEnvironment (some bs) = c := by
  have hnone : Text.decode? bs = none := by
    refine Option.eq_none_iff_forall_ne_some.mpr fun cs hcs => h (String.ofList cs) ?_
    rw [String.toList_ofList]
    exact Text.decode?_eq_some_iff.mp hcs
  rw [withEnvironment, Option.bind_some, hnone]
  rfl

/-- **The last value that names a filter counts.** Overriding time and again never touches the
filter for foreign targets. The filter for the own targets is in the end the one that the last value
with a name in it names; if there is none among the values, it is as it was.

The variable of the environment counts as the text in it, if what is in it is text. Other bytes, and
a variable that is not set, change nothing. -/
theorem last_named_filter_holds (c : Config) :
    (∀ values : List (Option String),
      (values.foldl withOverride c).other = c.other ∧
      (∀ (before after : List (Option String)) (value : Option String) (f : Filter),
        values = before ++ value :: after → f.AskedBy value →
        (∀ later ∈ after, ∀ g : Filter, ¬ g.AskedBy later) →
        (values.foldl withOverride c).app = f) ∧
      ((∀ value ∈ values, ∀ f : Filter, ¬ f.AskedBy value) →
        (values.foldl withOverride c).app = c.app)) ∧
    (∀ s : String, c.withEnvironment (some (Text.encode s.toList)) = c.withOverride (some s)) ∧
    (∀ bs : List UInt8, (∀ s : String, bs ≠ Text.encode s.toList) →
      c.withEnvironment (some bs) = c) ∧
    c.withEnvironment none = c := by
  refine ⟨fun values => ⟨foldl_withOverride_other values c, ?_, fun hnone => ?_⟩,
    c.withEnvironment_encode, fun bs => withEnvironment_of_not_text, rfl⟩
  · rintro before after value f rfl hvalue hafter
    exact foldl_withOverride_of_last hvalue hafter
  · rw [foldl_withOverride_of_not_asked hnone]

/-- Values that name no filter: one that is missing, one with a letter that is no I, and one with a
blank inside. -/
def idleValues : List (Option String) := [none, some "\u0131NFO", some "war n"]

/-- A name in mixed case between wide blanks holds over an earlier one, through values that name
nothing, and bytes that break off inside a character override nothing. -/
theorem last_named_filter_holds_idle :
    (([some "TRACE", some "\u3000dEbUg\x85"] ++ idleValues).foldl withOverride
      ⟨.off, .upTo .warn⟩).app = .upTo .debug ∧
    (([some "TRACE", some "\u3000dEbUg\x85"] ++ idleValues).foldl withOverride
      ⟨.off, .upTo .warn⟩).other = .upTo .warn ∧
    (idleValues.foldl withOverride ⟨.off, .upTo .warn⟩).app = .off ∧
    withEnvironment ⟨.off, .upTo .warn⟩ (some [0x6F, 0x66, 0x66, 0xC3]) = ⟨.off, .upTo .warn⟩ := by
  obtain ⟨hrow, -, hbytes, -⟩ := last_named_filter_holds ⟨.off, .upTo .warn⟩
  have hidle : ∀ value ∈ idleValues, ∀ f : Filter, ¬ f.AskedBy value := by
    simp only [Filter.forall_not_askedBy_iff]
    decide +kernel
  refine ⟨?_, (hrow _).1, (hrow idleValues).2.2 hidle, hbytes _ fun s hs => ?_⟩
  · exact (hrow _).2.1 [some "TRACE"] idleValues _ _ rfl (by decide +kernel) hidle
  · have hbroken : Text.decode? [0x6F, 0x66, 0x66, 0xC3] = none := by decide +kernel
    cases hbroken.symm.trans (Text.decode?_eq_some_iff.mpr hs)

end Config

end Log

end EngineExtension
