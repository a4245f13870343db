import EngineExtension.Config.Basic
import EngineExtension.Json.Record

/-!
# Reading a configuration

A configuration is a record of a name and, optionally, the filters of a logger. Filters are given
by name, alone or as the only key of an object with the value null.
-/

namespace EngineExtension.Config

open Json

/-- Reads a text. -/
def readText : Reader String where
  read cs :=
    match skipBlanks cs with
    | [] => fail .endInValue []
    | '"' :: rest => readString rest
    | c :: rest => wrongType .string (c :: rest)
  shorter h := by
    split at h
    · cases h
    · next hc => exact Nat.lt_trans (length_of_readString h) (length_of_skipBlanks_eq hc)
    · exact absurd h wrongType_ne_ok

/-- Reads the value null. -/
def readNull (cs : List Char) : Except Failure (List Char) :=
  match skipBlanks cs with
  | [] => fail .endInValue []
  | 'n' :: rest => expect ['u', 'l', 'l'] rest
  | c :: rest => wrongType .unit (c :: rest)

theorem length_of_readNull {cs rest : List Char} (h : readNull cs = .ok rest) :
    rest.length < cs.length := by
  unfold readNull at h
  split at h
  · cases h
  · next hc => exact Nat.lt_of_le_of_lt (length_of_expect h) (length_of_skipBlanks_eq hc)
  · exact absurd h wrongType_ne_ok

/-- Reads the name of a filter, after the opening quote. -/
def readFilterName (cs : List Char) : Except Failure (Log.Filter × List Char) :=
  match readString cs with
  | .error e => .error e
  | .ok (s, rest) =>
    match Log.Filter.ofName? s with
    | some f => .ok (f, rest)
    | none => fail (.unknownFilter s) rest

theorem length_of_readFilterName {cs rest : List Char} {f : Log.Filter}
    (h : readFilterName cs = .ok (f, rest)) : rest.length < cs.length := by
  unfold readFilterName at h
  split at h
  · cases h
  · next hs =>
    split at h
    · cases h
      exact length_of_readString hs
    · cases h

/-- Takes the bracket that closes the object around a filter. -/
def readFilterEnd (cs : List Char) : Except Failure (List Char) :=
  match skipBlanks cs with
  | [] => fail .endInObject []
  | '\x7d' :: rest => .ok rest
  | c :: rest => fail .expectedValue (c :: rest)

theorem length_of_readFilterEnd {cs rest : List Char} (h : readFilterEnd cs = .ok rest) :
    rest.length < cs.length := by
  unfold readFilterEnd at h
  split at h
  · cases h
  · next hc =>
    cases h
    exact length_of_skipBlanks_eq hc
  · cases h

/-- Reads a filter given as the key of an object, after the opening quote of the key. -/
def readFilterKey (cs : List Char) : Except Failure (Log.Filter × List Char) :=
  match readFilterName cs with
  | .error e => .error e
  | .ok (f, rest) =>
    match readColon rest with
    | .error e => .error e
    | .ok rest =>
      match readNull rest with
      | .error e => .error e
      | .ok rest => (readFilterEnd rest).map (f, ·)

theorem length_of_readFilterKey {cs rest : List Char} {f : Log.Filter}
    (h : readFilterKey cs = .ok (f, rest)) : rest.length < cs.length := by
  unfold readFilterKey at h
  split at h
  · cases h
  · next hf =>
    split at h
    · cases h
    · next hc =>
      split at h
      · cases h
      · next hn =>
        obtain ⟨r, hr, he⟩ := eq_ok_of_map_eq_ok h
        cases he
        have := length_of_readFilterName hf
        have := length_of_readColon hc
        have := length_of_readNull hn
        have := length_of_readFilterEnd hr
        omega

/-- Reads a filter given as an object, after the opening bracket. -/
def readFilterObject (cs : List Char) : Except Failure (Log.Filter × List Char) :=
  match skipBlanks cs with
  | [] => fail .endInObject []
  | '\x7d' :: rest => failPast .expectedValue ('\x7d' :: rest)
  | '"' :: rest => readFilterKey rest
  | c :: rest => failPast .keyNotString (c :: rest)

theorem length_of_readFilterObject {cs rest : List Char} {f : Log.Filter}
    (h : readFilterObject cs = .ok (f, rest)) : rest.length < cs.length := by
  unfold readFilterObject at h
  split at h
  · cases h
  · cases h
  · next hc => exact Nat.lt_trans (length_of_readFilterKey h) (length_of_skipBlanks_eq hc)
  · cases h

/-- Reads a filter. -/
def readFilter : Reader Log.Filter where
  read cs :=
    match skipBlanks cs with
    | [] => fail .endInValue []
    | '"' :: rest => readFilterName rest
    | '\x7b' :: rest => readFilterObject rest
    | c :: rest => failPast .expectedValue (c :: rest)
  shorter h := by
    split at h
    · cases h
    · next hc => exact Nat.lt_trans (length_of_readFilterName h) (length_of_skipBlanks_eq hc)
    · next hc => exact Nat.lt_trans (length_of_readFilterObject h) (length_of_skipBlanks_eq hc)
    · cases h

/-- The record of a logger's filters. -/
def loggerShape : Shape Log.Filter Log.Filter where
  name := "LoggerConfig"
  first := { key := appKey, value := readFilter }
  second := { key := otherKey, value := readFilter }

/-- Reads the filters of a logger, or null for no logger. -/
def readLogger : Reader (Option Log.Config) where
  read cs :=
    match skipBlanks cs with
    | 'n' :: rest => (expect ['u', 'l', 'l'] rest).map (none, ·)
    | cs => ((readRecord loggerShape).read cs).map fun ((app, other), rest) =>
      (some ⟨app, other⟩, rest)
  shorter {cs rest a} h := by
    split at h
    · next hc =>
      obtain ⟨r, hr, he⟩ := eq_ok_of_map_eq_ok h
      cases he
      exact Nat.lt_of_le_of_lt (length_of_expect hr) (length_of_skipBlanks_eq hc)
    · obtain ⟨⟨⟨app, other⟩, r⟩, hr, he⟩ := eq_ok_of_map_eq_ok h
      cases he
      exact Nat.lt_of_lt_of_le ((readRecord loggerShape).shorter hr) (length_skipBlanks cs)

/-- The record of a configuration. -/
def shape : Shape String (Option Log.Config) where
  name := "ExtensionConfig"
  first := { key := nameKey, value := readText }
  second := { key := loggerKey, value := readLogger, absent := some none }

/-- Reads a configuration that is all of a text. -/
def readAll (cs : List Char) : Except Failure Config :=
  match (readRecord shape).read cs with
  | .error e => .error e
  | .ok ((name, logger), rest) =>
    match skipBlanks rest with
    | [] => .ok { name, logger }
    | c :: rest => failPast .trailingCharacters (c :: rest)

/-- Reads a configuration, or says what is wrong and where. -/
def read (text : String) : Except ReadError Config :=
  match readAll text.toList with
  | .ok c => .ok c
  | .error f => .error (f.locate text.toList)

end EngineExtension.Config
