import EngineExtension.Proofs.Override
import EngineExtension.Proofs.Strictness

/-!
# Two ways to name a filter

The filter for the own targets can be named in the text of a configuration, and it can be named by
an override. A text takes the name as it is and is refused if it names no filter; an override takes
it without the blanks at its ends and is ignored if it names none. That is all the difference: the
names are the same, and they stand for the same filters.

* `Config.AppGivenAs` — a text in which a string stands for the filter of the own targets, whatever
  else is in it;
* `Config.NamesApp`, `Config.AppGivenAs.of_written` — among them are all texts for objects and lists
  in which it does;
* `Config.AppGivenAs.read_iff` — what such a text is read as;
* `Log.Config.exists_forall_withOverride_iff` — when an override sets the filter;
* `Config.filter_names_mean_the_same` — the two ways agree.
-/

namespace EngineExtension

open Json

/-! ## Values in which a string stands for the filter -/

/-- A value for a record of two fields: an object with either key once, among any others and in any
order, or a list of the two. -/
inductive Json.RecordOf (key key' : String) (a b : Value) : Value → Prop where
  | object {members : List (String × Value)} (ha : valuesOf key members = [a])
    (hb : valuesOf key' members = [b]) : RecordOf key key' a b (.object members)
  | list : RecordOf key key' a b (.list [a, b])

/-- Whether as an object or as a list, such a value is decoded by its two fields. -/
theorem Json.RecordOf.decode {α β : Type} {s : Shape α β} {a b v : Value}
    (h : RecordOf s.first.key s.second.key a b v) (f : Value → Option α) (g : Value → Option β) :
    s.decode f g v = (f a).bind fun x => (g b).map (x, ·) := by
  cases h with
  | object ha hb =>
    rw [Shape.decode, Shape.decodeMembers, ha, hb]
    rfl
  | list => rfl

namespace Config

/-- A value that stands for a filter: its name, alone or as the only key of an object. -/
inductive FilterOf (f : Log.Filter) : Value → Prop where
  | name {s : String} (h : Text.SameWord f.name s) : FilterOf f (.string s)
  | key {s : String} (h : Text.SameWord f.name s) : FilterOf f (.object [(s, .null)])

/-- A value that stands for a filter is decoded as that filter. -/
theorem FilterOf.asFilter {f : Log.Filter} {v : Value} (h : FilterOf f v) :
    asFilter v = some f := by
  cases h with
  | name h => exact Log.Filter.ofName?_eq_some_iff_sameWord.mpr h
  | key h => exact Log.Filter.ofName?_eq_some_iff_sameWord.mpr h

/-- A value for a configuration in which the string `s` stands for the filter of the own targets. It
has a name, and a filter for foreign targets. -/
inductive NamesApp (s : String) (v : Value) : Prop where
  | intro {filters w : Value} {name : String} {other : Log.Filter}
    (config : RecordOf nameKey loggerKey (.string name) filters v)
    (logger : RecordOf appKey otherKey (.string s) w filters) (hother : FilterOf other w)

/-! ## Texts in which a string stands for the filter -/

/-- The record of a logger's filters with any string for the own targets. -/
def openLoggerShape : Shape String Log.Filter where
  name := loggerShape.name
  first := { key := appKey, value := readText }
  second := loggerShape.second

/-- The record of a configuration with any string for the own targets. It has a logger. -/
def openShape : Shape String (String × Log.Filter) where
  name := shape.name
  first := shape.first
  second := { key := loggerKey, value := readRecord openLoggerShape }

/-- A text in which the string `s` stands for the filter of the own targets: if any string will do
for it, the text is read, and there it has `s`. -/
def AppGivenAs (s text : String) : Prop :=
  ∃ (name : String) (other : Log.Filter) (rest : List Char),
    (readRecord openShape).read text.toList = .ok ((name, s, other), rest) ∧ skipBlanks rest = []

/-- Reading with any string for the filter is decoding too. -/
theorem readOpen_decodes : (readRecord openShape).Decodes
    (openShape.decode asText (openLoggerShape.decode asText asFilter)) := by
  have hlogger : (readRecord openLoggerShape).Decodes (openLoggerShape.decode asText asFilter) :=
    readRecord_decodes (by decide) readText_decodes readFilter_decodes
  exact readRecord_decodes (by decide) readText_decodes hlogger

/-- In every text of such a value the string stands for the filter. -/
theorem AppGivenAs.of_written {s text : String} {v : Value} (h : NamesApp s v)
    (htext : v.WrittenAs text) : AppGivenAs s text := by
  obtain @⟨filters, w, name, other, config, logger, hother⟩ := h
  have hdecode : openShape.decode asText (openLoggerShape.decode asText asFilter) v =
      some (name, s, other) := by
    rw [RecordOf.decode (s := openShape) config, RecordOf.decode (s := openLoggerShape) logger,
      hother.asFilter]
    rfl
  have htokens : Spaced (v.tokens ++ []) text.toList := by
    rw [List.append_nil]
    exact htext
  have hanswer := readOpen_decodes v [] text.toList htokens ends_nil
  rw [hdecode] at hanswer
  generalize hread : (readRecord openShape).read text.toList = x at hanswer
  cases hanswer with
  | @found _ rest hrest => exact ⟨name, other, rest, hread, hrest.skip_nil⟩

/-! ## Reading such a text -/

/-- Wherever a string stands, reading a filter is asking which one the string names. -/
theorem readFilter_screens : readFilter.Screens readText Log.Filter.ofName? := by
  intro cs rest s h
  simp only [readText, readFilter] at h ⊢
  split at h
  · cases h
  · next hskip =>
    simp only [hskip, readFilterName, h]
    rcases Log.Filter.ofName? s with _ | f
    · exact .refused _
    · exact .passed f
  · exact absurd h wrongType_ne_ok

theorem loggerShape_screens : loggerShape.Screens openLoggerShape Log.Filter.ofName? some where
  firstKey := rfl
  secondKey := rfl
  first := readFilter_screens
  second := Reader.screens_self _
  firstAbsent := meets_none
  secondAbsent := meets_none

/-- The filters of a logger, if the string names one. -/
def loggerOf? (v : String × Log.Filter) : Option (Option Log.Config) :=
  (Log.Filter.ofName? v.1).map fun f => some ⟨f, v.2⟩

/-- Wherever the filters of a logger are read with any string, they are read if the string names
one. -/
theorem readLogger_screens : readLogger.Screens (readRecord openLoggerShape) loggerOf? := by
  intro cs rest v h
  obtain ⟨c, text, hskip, hc⟩ := readRecord_begins h
  have hn : c ≠ 'n' := by rcases hc with rfl | rfl <;> decide
  have htest : loggerOf? v =
      (testBoth Log.Filter.ofName? some v).map fun p => some ⟨p.1, p.2⟩ := by
    rw [loggerOf?, testBoth]
    cases Log.Filter.ofName? v.1 <;> rfl
  rw [readLogger_of_ne hskip hn, ← hskip, readRecord_skipBlanks, htest]
  exact (readRecord_screens loggerShape_screens _ _ v h).map fun p => some (Log.Config.mk p.1 p.2)

/-- A configuration differs from one with any string for the filter in the test of that string
alone. -/
theorem shape_screens : shape.Screens openShape some loggerOf? where
  firstKey := rfl
  secondKey := rfl
  first := Reader.screens_self _
  second := readLogger_screens
  firstAbsent := meets_none
  secondAbsent := meets_none

/-- A text is read as the configuration whose filter the string names, and it is refused if the
string names none. -/
theorem AppGivenAs.read_iff {s text : String} (h : AppGivenAs s text) :
    ∃ (name : String) (other : Log.Filter), ∀ c : Config, read text = .ok c ↔
      ∃ f : Log.Filter, Text.SameWord f.name s ∧ ⟨name, some ⟨f, other⟩⟩ = c := by
  obtain ⟨name, other, rest, hopen, hend⟩ := h
  have hread := readRecord_screens shape_screens _ _ _ hopen
  have htest : testBoth some loggerOf? (name, s, other) =
      (Log.Filter.ofName? s).map fun f => (name, some ⟨f, other⟩) := by
    rw [testBoth, Option.bind_some, loggerOf?, Option.map_map]
    rfl
  refine ⟨name, other, fun c => ?_⟩
  simp only [← Log.Filter.ofName?_eq_some_iff_sameWord]
  rw [htest] at hread
  rw [Config.read, readAll]
  generalize (readRecord shape).read text.toList = x at hread
  generalize Log.Filter.ofName? s = o at hread ⊢
  rcases o with _ | f
  · cases hread
    simp
  · cases hread
    simp [hend]

/-- A text with a string for the filter is read just if the string names a filter. -/
theorem AppGivenAs.exists_read_iff {s text : String} (h : AppGivenAs s text) :
    (∃ c, read text = .ok c) ↔ ∃ f : Log.Filter, Text.SameWord f.name s := by
  obtain ⟨name, other, hread⟩ := h.read_iff
  constructor
  · rintro ⟨c, hc⟩
    obtain ⟨f, hf, -⟩ := (hread c).mp hc
    exact ⟨f, hf⟩
  · rintro ⟨f, hf⟩
    exact ⟨_, (hread _).mpr ⟨f, hf, rfl⟩⟩

end Config

/-! ## Overriding with them -/

/-- A blank has no second case. -/
theorem Text.toUpper_of_isBlank {c : Char} (h : isBlank c = true) : c.toUpper = c := by
  rw [← Char.toNat_inj, toNat_toUpper, if_neg]
  simp only [isBlank, Bool.or_eq_true, Bool.and_eq_true, decide_eq_true_eq, beq_iff_eq] at h
  omega

namespace Log

/-- No filter has a blank in its name. -/
theorem Filter.not_blank_of_mem_name (f : Filter) :
    ∀ c ∈ f.name.toList, Text.isBlank c = false := by
  have hall : (f.name.toList.all fun c => !Text.isBlank c) = true := by
    rcases f with _ | ⟨_ | _ | _ | _ | _⟩ <;> decide
  simpa using hall

/-- Nor has a text that is its name up to case. -/
theorem Filter.not_blank_of_sameWord {f : Filter} {s : String} (h : Text.SameWord f.name s) :
    ∀ c ∈ s.toList, Text.isBlank c = false := by
  intro c hc
  by_contra hblank
  rw [Bool.not_eq_false] at hblank
  -- a blank is no letter, so that it would stand in the name as it is
  have hmem : c ∈ f.name.toList := by
    rw [isNamed_iff_sameWord.mpr h, ← Text.toUpper_of_isBlank hblank]
    exact List.mem_map_of_mem hc
  exact absurd hblank (by simp [f.not_blank_of_mem_name c hmem])

/-- A text that is the name of a filter has no blanks to lose, so it asks for that filter. -/
theorem Filter.askedBy_of_sameWord {f : Filter} {s : String} (h : Text.SameWord f.name s) :
    f.AskedBy (some s) := by
  have hblank := not_blank_of_sameWord h
  refine ⟨s, s, rfl, ⟨⟨[], [], by simp, by simp, by simp⟩, ?_, ?_⟩, h⟩
  · exact fun c hc => hblank c (List.mem_of_mem_head? hc)
  · exact fun c hc => hblank c (List.mem_of_mem_getLast? hc)

/-- A text asks for the filter that it names without the blanks at its ends. -/
theorem Filter.askedBy_iff_of_trims {f : Filter} {s t : String} (h : Text.Trims s t) :
    f.AskedBy (some s) ↔ Text.SameWord f.name t := by
  refine ⟨?_, fun hname => ⟨s, t, rfl, h, hname⟩⟩
  rintro ⟨_, u, ⟨⟩, hu, hname⟩
  rwa [← h.trim_eq, hu.trim_eq]

/-- An override sets the filter, no matter what it was before, if it names one. -/
theorem Config.exists_forall_withOverride_iff {value : Option String} :
    (∃ f, ∀ d : Config, (d.withOverride value).app = f) ↔ ∃ f : Filter, f.AskedBy value := by
  constructor
  · rintro ⟨f, hf⟩
    by_contra hnone
    have hsame : ∀ d : Config, d.withOverride value = d :=
      fun d => withOverride_of_not_asked (not_exists.mp hnone)
    -- two configurations that differ would have one filter
    have hoff := hf ⟨.off, .off⟩
    have herror := hf ⟨.upTo .error, .off⟩
    rw [hsame] at hoff herror
    cases hoff.trans herror.symm
  · rintro ⟨f, hf⟩
    exact ⟨f, fun d => by rw [withOverride_of_asked hf]⟩

end Log

namespace Config

/-- **A filter is named alike in a text and by an override.** Every string can be given as the
filter for the own targets in the text of a configuration, in every way of writing it. Such a text
is read if and only if the string as it stands is the name of a filter, in any mix of upper and
lower case, and the filter that is read is the one that an override by the string sets on any
configuration.

In the other direction, an override by a string sets one and the same filter on all configurations
if and only if a text is read that gives the string without the blanks at its ends. -/
theorem filter_names_mean_the_same (s : String) :
    (∀ v text, NamesApp s v → v.WrittenAs text → AppGivenAs s text) ∧
    (∀ text, AppGivenAs s text →
      ((∃ c, read text = .ok c) ↔ ∃ f : Log.Filter, Text.SameWord f.name s) ∧
      ∀ c, read text = .ok c → ∃ filters, c.logger = some filters ∧
        ∀ d : Log.Config, (d.withOverride (some s)).app = filters.app) ∧
    ∀ t text, Text.Trims s t → AppGivenAs t text →
      ((∃ f, ∀ d : Log.Config, (d.withOverride (some s)).app = f) ↔ ∃ c, read text = .ok c) := by
  refine ⟨fun v text => .of_written, fun text h => ⟨h.exists_read_iff, fun c hc => ?_⟩,
    fun t text ht h => ?_⟩
  · obtain ⟨name, other, hread⟩ := h.read_iff
    obtain ⟨f, hf, rfl⟩ := (hread c).mp hc
    refine ⟨⟨f, other⟩, rfl, fun d => ?_⟩
    rw [Log.Config.withOverride_of_asked (Log.Filter.askedBy_of_sameWord hf)]
  · rw [Log.Config.exists_forall_withOverride_iff, h.exists_read_iff]
    simp only [Log.Filter.askedBy_iff_of_trims ht]

/-- A plain configuration with a string for the filter of the own targets. -/
def naming (s : String) : Value :=
  .object [(nameKey, .string ""),
    (loggerKey, .object [(appKey, .string s), (otherKey, .string "OFF")])]

/-- A text for it, with no blanks outside of strings. -/
def namingText (s : String) : String :=
  String.ofList ((naming s).tokens.flatMap fun t => [] ++ t.text)

theorem naming_writtenAs (s : String) : (naming s).WrittenAs (namingText s) :=
  (naming s).writtenAs_spread (List.forall_mem_nil _)

/-- With blanks around it a name is refused in a text, while an override takes it for the filter
that the text has with the blanks gone. -/
theorem filter_names_mean_the_same_padded :
    (¬ ∃ c, read (namingText "\tWarn\u2003") = .ok c) ∧
    read (namingText "Warn") = .ok ⟨"", some ⟨.upTo .warn, .off⟩⟩ ∧
    (∀ d : Log.Config, (d.withOverride (some "Warn")).app = .upTo .warn) ∧
    ∃ f, ∀ d : Log.Config, (d.withOverride (some "\tWarn\u2003")).app = f := by
  obtain ⟨hpaddedText, hpadded, hpaddedBack⟩ := filter_names_mean_the_same "\tWarn\u2003"
  obtain ⟨hplainText, hplain, -⟩ := filter_names_mean_the_same "Warn"
  have hother : FilterOf .off (.string "OFF") := .name (Text.sameWord_iff.mpr rfl)
  have hnames : ∀ s, NamesApp s (naming s) :=
    fun s => .intro (.object rfl rfl) (.object rfl rfl) hother
  have htext := hpaddedText _ _ (hnames _) (naming_writtenAs _)
  have hplainText := hplainText _ _ (hnames _) (naming_writtenAs _)
  have hread : read (namingText "Warn") = .ok ⟨"", some ⟨.upTo .warn, .off⟩⟩ :=
    read_of_decode (naming_writtenAs "Warn") (by decide +kernel)
  have htrims : Text.Trims "\tWarn\u2003" "Warn" := Text.trims_iff.mpr (by decide +kernel)
  refine ⟨?_, hread, ?_, ?_⟩
  · rw [(hpadded _ htext).1]
    rintro ⟨f, hf⟩
    have hnone : Log.Filter.ofName? "\tWarn\u2003" = none := by decide +kernel
    cases hnone.symm.trans (Log.Filter.ofName?_eq_some_iff_sameWord.mpr hf)
  · obtain ⟨filters, hfilters, hset⟩ := (hplain _ hplainText).2 _ hread
    cases hfilters
    exact hset
  · exact (hpaddedBack "Warn" _ htrims hplainText).mpr ⟨_, hread⟩

end Config

end EngineExtension
