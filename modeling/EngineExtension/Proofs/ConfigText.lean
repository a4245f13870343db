import EngineExtension.Config.Reader
import EngineExtension.Config.Writer
import EngineExtension.Proofs.Decoding

/-!
# Configurations and their texts

A configuration is read from a text, and written to one. Reading goes by the values that the text
has under the four keys: their order, everything around them and the way the text is written do not
matter.

* `Log.Filter.ofName?_eq_some_iff` — which strings name which filter;
* `decode` — the configuration that a value describes;
* `toOption_read` — reading a text is decoding its value;
* `read_object` — which objects are read, and as what;
* `read_inverts_write` — what was written is read back.
-/

namespace EngineExtension

open Json

/-! ## Names of filters -/

/-- A string that is the name of a filter up to the case of its letters. -/
def Log.Filter.IsNamed (f : Log.Filter) (s : String) : Prop :=
  f.name.toList = s.toList.map Char.toUpper

instance (f : Log.Filter) (s : String) : Decidable (f.IsNamed s) :=
  inferInstanceAs (Decidable (_ = _))

theorem Log.Filter.isNamed_name (f : Log.Filter) : f.IsNamed f.name := by
  rcases f with _ | ⟨_ | _ | _ | _ | _⟩ <;> decide

theorem Log.Filter.mem_all (f : Log.Filter) : f ∈ all := by
  rcases f with _ | ⟨_ | _ | _ | _ | _⟩ <;> decide

/-- No two filters have one name. -/
theorem Log.Filter.eq_of_name {f g : Log.Filter} (h : f.name.toList = g.name.toList) : f = g := by
  have hall : ∀ f ∈ all, ∀ g ∈ all, f.name.toList = g.name.toList → f = g := by decide
  exact hall f f.mem_all g g.mem_all h

/-- **Which strings name which filter**: those that are its name up to case. No string names two. -/
theorem Log.Filter.ofName?_eq_some_iff {f : Log.Filter} {s : String} :
    ofName? s = some f ↔ f.IsNamed s := by
  constructor
  · intro h
    simpa [IsNamed] using List.find?_some h
  · intro h
    have hfound : (ofName? s).isSome := by
      rw [ofName?, List.find?_isSome]
      exact ⟨f, f.mem_all, by simpa [IsNamed] using h⟩
    obtain ⟨g, hg⟩ := Option.isSome_iff_exists.mp hfound
    have hname : g.name.toList = s.toList.map Char.toUpper := by simpa using List.find?_some hg
    rw [hg, eq_of_name (hname.trans h.symm)]

namespace Config

/-! ## What a value describes -/

/-- A text. -/
def asText : Value → Option String
  | .string s => some s
  | _ => none

/-- A filter: its name, or an object with its name as the only key and no value. -/
def asFilter : Value → Option Log.Filter
  | .string s => Log.Filter.ofName? s
  | .object [(key, .null)] => Log.Filter.ofName? key
  | _ => none

/-- The filters of a logger, or none. -/
def asLogger : Value → Option (Option Log.Config)
  | .null => some none
  | v => (loggerShape.decode asFilter asFilter v).map fun p => some ⟨p.1, p.2⟩

/-- A configuration. -/
def decode (v : Value) : Option Config :=
  (shape.decode asText asLogger v).map fun p => ⟨p.1, p.2⟩

/-! ## Reading is decoding -/

/-- Texts are read where a string stands, and nowhere else. -/
theorem readText_decodes : readText.Decodes asText := by
  intro v ts cs h hends
  cases v with
  | string s =>
    obtain ⟨body, rest, hskip, hread, -, hrest⟩ := h.skip_string
    simp only [readText, hskip, hread]
    exact .found hrest
  | _ =>
    obtain ⟨c, rest, hskip, hc⟩ := h.front hends
    have hquote : c ≠ '"' := fun h => nomatch hc.string h
    simp only [readText, hskip]
    exact answers_none fun _ => wrongType_ne_ok

section

variable {v : Value} {ts : List Token} {cs : List Char}

/-- A string is read as the filter that it names, if it names one. -/
theorem readFilterName_answers {s : String} (h : Spaced (.string s :: ts) cs) :
    ∃ body, skipBlanks cs = '"' :: body ∧
      Answers ts (Log.Filter.ofName? s) (readFilterName body) := by
  obtain ⟨body, rest, hskip, hread, -, hrest⟩ := h.skip_string
  refine ⟨body, hskip, ?_⟩
  simp only [readFilterName, hread]
  rcases Log.Filter.ofName? s with _ | f
  · exact .failed _
  · exact .found hrest

/-- Where a null stands, it is taken. -/
theorem readNull_of_null (h : Spaced (Value.null.tokens ++ ts) cs) :
    ∃ rest, readNull cs = .ok rest ∧ Spaced ts rest := by
  obtain ⟨w, rest, hskip, hw, hrest⟩ := h.skip
  cases hw
  refine ⟨rest, ?_, hrest⟩
  rw [readNull, hskip]
  rfl

/-- Where any other value stands, no null is read. -/
theorem readNull_of_ne_null (h : Spaced (v.tokens ++ ts) cs) (hends : Ends ts) (hv : v ≠ .null) :
    ∃ e, readNull cs = .error e := by
  obtain ⟨c, rest, hskip, hc⟩ := h.front hends
  have hn : c ≠ 'n' := fun h => hv (hc.null h)
  simp only [readNull, hskip]
  cases hwrong : (wrongType .unit (c :: rest) : Except Failure (List Char)) with
  | error e => exact ⟨e, rfl⟩
  | ok rest => exact absurd hwrong wrongType_ne_ok

/-- Behind the value of its only key, the object around a filter ends. -/
theorem readFilterEnd_answers {γ : Type} (c : γ) {parts : List (List Token)}
    (h : Spaced (listed parts ++ .closes .object :: ts) cs) :
    Answers ts (if parts = [] then some c else none) ((readFilterEnd cs).map (c, ·)) := by
  cases parts with
  | nil =>
    obtain ⟨rest, hskip, hrest⟩ := h.skip_mark rfl
    simp only [readFilterEnd, hskip, Bracket.closer]
    exact .found hrest
  | cons p parts =>
    obtain ⟨rest, hskip, -⟩ := Spaced.skip_mark h rfl
    rw [if_neg (List.cons_ne_nil _ _)]
    simp only [readFilterEnd, hskip]
    exact .failed _

/-- No object is a filter if its first key names none. -/
theorem asFilter_of_unknown {key : String} {members : List (String × Value)}
    (h : Log.Filter.ofName? key = none) : asFilter (.object ((key, v) :: members)) = none := by
  cases members <;> cases v <;> simp [asFilter, h]

/-- No object is a filter if its first key has a value. -/
theorem asFilter_of_ne_null {key : String} {members : List (String × Value)} (h : v ≠ .null) :
    asFilter (.object ((key, v) :: members)) = none := by
  cases members <;> cases v <;> simp_all [asFilter]

/-- An object is read as a filter if it has one key, which names it, with no value. -/
theorem readFilterObject_answers (members : List (String × Value))
    (h : Spaced ((listed (members.map memberPart)).tail ++ .closes .object :: ts) cs) :
    Answers ts (asFilter (.object members)) (readFilterObject cs) := by
  cases members with
  | nil =>
    obtain ⟨rest, hskip, -⟩ := h.skip_mark rfl
    simp only [readFilterObject, hskip, Bracket.closer]
    exact .failed _
  | cons m members =>
    obtain ⟨key, v⟩ := m
    rw [List.map_cons, tail_listed_cons] at h
    obtain ⟨body, hskip, hname⟩ := readFilterName_answers h
    simp only [readFilterObject, hskip, readFilterKey]
    generalize hfilter : Log.Filter.ofName? key = o at hname
    generalize readFilterName body = x at hname
    cases hname with
    | failed e =>
      rw [asFilter_of_unknown hfilter]
      exact .failed e
    | @found f rest hrest =>
      obtain ⟨text, hcolon, htext⟩ := hrest.readColon
      simp only [hcolon]
      by_cases hv : v = .null
      · subst hv
        obtain ⟨last, hnull, hlast⟩ := readNull_of_null htext
        have hdecode : asFilter (.object ((key, .null) :: members)) =
            if members.map memberPart = [] then some f else none := by
          cases members <;> simp [asFilter, hfilter]
        rw [hdecode]
        simp only [hnull]
        exact readFilterEnd_answers f hlast
      · obtain ⟨e, hnull⟩ := readNull_of_ne_null htext (ends_listed _ .object ts) hv
        rw [asFilter_of_ne_null hv]
        simp only [hnull]
        exact .failed e

end

/-- Filters are read as the values describe them, by a string or by an object. -/
theorem readFilter_decodes : readFilter.Decodes asFilter := by
  intro v ts cs h hends
  cases v with
  | string s =>
    obtain ⟨body, hskip, hname⟩ := readFilterName_answers h
    simp only [readFilter, hskip]
    exact hname
  | object members =>
    obtain ⟨rest, hskip, hrest⟩ := h.skip_object
    simp only [readFilter, hskip]
    exact readFilterObject_answers members hrest
  | _ =>
    obtain ⟨c, rest, hskip, hc⟩ := h.front hends
    have hquote : c ≠ '"' := fun h => nomatch hc.string h
    have hobject : c ≠ '\x7b' := fun h => nomatch hc.object h
    simp only [readFilter, hskip]
    exact .failed _

/-- What does not begin as a null is read as the filters of a logger. -/
theorem readLogger_of_ne {cs rest : List Char} {c : Char} (h : skipBlanks cs = c :: rest)
    (hc : c ≠ 'n') :
    readLogger.read cs =
      ((readRecord loggerShape).read (c :: rest)).map fun p => (some ⟨p.1.1, p.1.2⟩, p.2) := by
  simp only [readLogger, h]
  split
  · next h' => exact absurd (List.cons.inj h').1 hc
  · rfl

/-- The filters of a logger are read as the value describes them, or as none where a null stands. -/
theorem readLogger_decodes : readLogger.Decodes asLogger := by
  intro v ts cs h hends
  have hrecord := readRecord_decodes (s := loggerShape) (by decide) readFilter_decodes
    readFilter_decodes v ts (skipBlanks cs) h.trim hends
  cases v with
  | null =>
    obtain ⟨w, rest, hskip, hw, hrest⟩ := h.skip
    cases hw
    simp only [readLogger, hskip]
    exact .found hrest
  | _ =>
    obtain ⟨c, rest, hskip, hc⟩ := h.front hends
    have hn : c ≠ 'n' := fun h => nomatch hc.null h
    rw [readLogger_of_ne hskip hn, ← hskip]
    exact hrecord.map fun p => some (Log.Config.mk p.1 p.2)

/-- **Reading a text is decoding the value that it stands for**: however the value is written, the
configuration that it describes is read, and if it describes none, reading fails. -/
theorem toOption_read {v : Value} {text : String} (h : v.WrittenAs text) :
    (read text).toOption = decode v := by
  have htext : Spaced (v.tokens ++ []) text.toList := by
    rw [List.append_nil]
    exact h
  have hrecord := readRecord_decodes (s := shape) (by decide) readText_decodes readLogger_decodes
    v [] text.toList htext ends_nil
  rw [read, readAll, decode]
  generalize shape.decode asText asLogger v = o at hrecord
  generalize (readRecord shape).read text.toList = x at hrecord
  cases hrecord with
  | found hrest =>
    simp only [hrest.skip_nil]
    rfl
  | failed e => rfl

/-- A text for a value that describes a configuration is read as that configuration. -/
theorem read_of_decode {v : Value} {text : String} {c : Config} (h : v.WrittenAs text)
    (hc : decode v = some c) : read text = .ok c := by
  have hread := toOption_read h
  rw [hc] at hread
  cases hresult : read text with
  | error e => rw [hresult] at hread; cases hread
  | ok d => rw [hresult] at hread; rw [Option.some.inj hread]

/-- A text for a value that describes none is not read. -/
theorem read_of_decode_none {v : Value} {text : String} (h : v.WrittenAs text)
    (hv : decode v = none) : ∃ e, read text = .error e := by
  have hread := toOption_read h
  rw [hv] at hread
  cases hresult : read text with
  | error e => exact ⟨e, rfl⟩
  | ok d => rw [hresult] at hread; cases hread

/-! ## Which objects are read -/

/-- What is asked for by the values under the key of the logger. -/
inductive LoggerFrom : List Value → Option Log.Config → Prop where
  | absent : LoggerFrom [] none
  | null : LoggerFrom [.null] none
  | filters {members : List (String × Value)} {app other : String} {c : Log.Config}
    (happ : valuesOf appKey members = [.string app])
    (hother : valuesOf otherKey members = [.string other])
    (hc : c.app.IsNamed app ∧ c.other.IsNamed other) : LoggerFrom [.object members] (some c)

/-- What is asked for under the key of the logger is what is decoded. -/
theorem LoggerFrom.decode {vs : List Value} {logger : Option Log.Config}
    (h : LoggerFrom vs logger) : shape.second.decode asLogger none vs = some logger := by
  cases h with
  | absent => rfl
  | null => rfl
  | @filters members app other c happ hother hc =>
    have hrecord : loggerShape.decode asFilter asFilter (.object members) =
        some (c.app, c.other) := by
      apply Shape.decode_object_eq_some
      · change loggerShape.first.decode asFilter none (valuesOf appKey members) = some c.app
        rw [happ]
        exact Log.Filter.ofName?_eq_some_iff.mpr hc.1
      · change loggerShape.second.decode asFilter none (valuesOf otherKey members) = some c.other
        rw [hother]
        exact Log.Filter.ofName?_eq_some_iff.mpr hc.2
    exact congrArg (Option.map _) hrecord

/-- An object describes the configuration with its name and with the logger that it asks for,
whatever else it holds. -/
theorem decode_of_values {members : List (String × Value)} {name : String}
    {logger : Option Log.Config} (hname : valuesOf nameKey members = [.string name])
    (hlogger : LoggerFrom (valuesOf loggerKey members) logger) :
    decode (.object members) = some ⟨name, logger⟩ := by
  have htext : shape.first.decode asText none (valuesOf nameKey members) = some name := by
    rw [hname]
    rfl
  exact congrArg (Option.map _) (Shape.decode_object_eq_some htext hlogger.decode)

/-- **Which objects are read, and as what.** An object, however it is written, is read if it has the
name once and asks for a logger at most once; neither the order of its members nor any other member
matters. It is not read if it has no name, or two names, or asks for a logger twice. -/
theorem read_object (members : List (String × Value)) (text : String)
    (h : (Value.object members).WrittenAs text) :
    (∀ (name : String) (logger : Option Log.Config), valuesOf nameKey members = [.string name] →
      LoggerFrom (valuesOf loggerKey members) logger → read text = .ok ⟨name, logger⟩) ∧
    (valuesOf nameKey members = [] ∨ 1 < (valuesOf nameKey members).length ∨
      1 < (valuesOf loggerKey members).length → ∃ e, read text = .error e) := by
  refine ⟨fun name logger hname hlogger => ?_, fun hwrong => ?_⟩
  · exact read_of_decode h (decode_of_values hname hlogger)
  · have hfield : shape.first.decode asText none (valuesOf nameKey members) = none ∨
        shape.second.decode asLogger none (valuesOf loggerKey members) = none := by
      rcases hwrong with hname | hname | hlogger
      · rw [hname]
        exact .inl rfl
      · exact .inl (Field.decode_of_lt_length hname)
      · exact .inr (Field.decode_of_lt_length hlogger)
    exact read_of_decode_none h (congrArg (Option.map _) (Shape.decode_object_eq_none hfield))

/-- Members of which the known ones stand among others, the last of them first. -/
def crowded : List (String × Value) :=
  [("x", .list [.object [("", .integer 7)]]),
    (loggerKey, .object [(otherKey, .string "warn"), ("y", .list []), (appKey, .string "Off")]),
    (nameKey, .string "\"a\"")]

/-- A text for them. -/
def crowdedText : String :=
  " \x7b \"x\" : [ \x7b \"\" : 7 \x7d ] , \"logger_config\" : \x7b \"level_filter\" : \"warn\" , " ++
    "\"y\" : [ ] , \"app_level_filter\" : \"Off\" \x7d , \"extension_name\" : \"\\\"a\\\"\" \x7d"

/-- Known members among others, the last of them first, are read; a name given twice is not. -/
theorem read_object_crowded :
    read crowdedText = .ok ⟨"\"a\"", some ⟨.off, .upTo .warn⟩⟩ ∧
    ∃ e, read " \x7b \"extension_name\" : \"a\" , \"extension_name\" : [ ] \x7d" = .error e := by
  have hblank : AllBlank [' '] := fun c hc => .inl (List.mem_singleton.mp hc)
  have hcrowded := Value.writtenAs_spread hblank (.object crowded)
  have htwice := Value.writtenAs_spread hblank
    (.object [(nameKey, .string "a"), (nameKey, .list [])])
  rw [show String.ofList _ = crowdedText by decide +kernel] at hcrowded
  exact ⟨(read_object crowded crowdedText hcrowded).1 _ _ rfl
      (.filters rfl rfl ⟨by decide, by decide⟩),
    (read_object _ _ htwice).2 (.inr (.inl (by decide)))⟩

/-! ## Writing and reading back -/

/-- A configuration as a value. -/
def toValue (c : Config) : Value :=
  .object [(nameKey, .string c.name),
    (loggerKey, match c.logger with
      | some filters => .object [(appKey, .string filters.app.name),
          (otherKey, .string filters.other.name)]
      | none => .null)]

/-- A configuration is written as the tokens of its value, with no blanks. -/
theorem writeChars_eq (c : Config) :
    c.writeChars = c.toValue.tokens.flatMap fun t => [] ++ t.text := by
  rcases c with ⟨name, _ | filters⟩
  · simp [writeChars, toValue, Value.tokens, memberTokens, Token.text, Bracket.opener,
      Bracket.closer]
  · simp [writeChars, writeLogger, toValue, Value.tokens, memberTokens, Token.text, Bracket.opener,
      Bracket.closer]

/-- What is written is a text for the value of the configuration. -/
theorem toValue_writtenAs_write (c : Config) : c.toValue.WrittenAs c.write := by
  rw [write, writeChars_eq]
  exact c.toValue.writtenAs_spread (List.forall_mem_nil _)

/-- The value of a configuration describes it. -/
theorem decode_toValue (c : Config) : decode c.toValue = some c := by
  rcases c with ⟨name, _ | filters⟩
  · exact decode_of_values rfl .null
  · exact decode_of_values rfl
      (.filters rfl rfl ⟨filters.app.isNamed_name, filters.other.isNamed_name⟩)

/-- **What was written is read back**, so different configurations are written differently. -/
theorem read_inverts_write :
    (∀ c : Config, read c.write = .ok c) ∧ Function.Injective write := by
  have hread : ∀ c : Config, read c.write = .ok c :=
    fun c => read_of_decode c.toValue_writtenAs_write c.decode_toValue
  refine ⟨hread, fun c d h => ?_⟩
  have hsame := hread c
  rw [h, hread d] at hsame
  exact (Except.ok.inj hsame).symm

end Config

end EngineExtension
