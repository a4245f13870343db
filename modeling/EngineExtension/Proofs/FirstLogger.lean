import EngineExtension.Proofs.Accounting
import EngineExtension.Proofs.Registry

/-!
# The first logger wins

A process has one log, and two ways lead to it: a logger is installed directly, or by a load that
has passed all its checks and carries filters. Whoever comes first has the log for good. Its own
filter may still be overridden by the environment, as it is at that moment; what is loaded,
installed or set in the environment after it changes nothing.

* `Session.asksFor?` — the logger that a step asks for, by either way;
* `Log.Dispatch.under` — a logger with the environment applied;
* `Session.step_logging_of_none`, `Session.step_logging_of_some` — all that a step does to the log;
* `first_logger_stays` — whose log it is after any run.
-/

namespace EngineExtension

/-! ## Loggers and the environment -/

/-- The filter that the environment names, if it is set to the name of one. -/
def Log.Filter.named? (environment : Option (List UInt8)) : Option Log.Filter :=
  environment.bind fun bytes =>
    (Text.decode? bytes).bind fun text => ofName? (Text.trim (String.ofList text))

/-- A logger whose own filter gives way to the one that the environment names. -/
def Log.Dispatch.under (d : Log.Dispatch) (environment : Option (List UInt8)) : Log.Dispatch :=
  { d with filters := { d.filters with
      app := (Log.Filter.named? environment).getD d.filters.app } }

theorem Log.Config.withEnvironment_eq (c : Log.Config) (environment : Option (List UInt8)) :
    c.withEnvironment environment =
      { c with app := (Log.Filter.named? environment).getD c.app } := by
  rw [withEnvironment, withOverride, Log.Filter.named?]
  rcases environment with _ | bytes
  · rfl
  rw [Option.bind_some, Option.bind_some]
  rcases Text.decode? bytes with _ | text
  · rfl
  rw [Option.map_some, Option.bind_some, Option.bind_some]
  rcases Log.Filter.ofName? (Text.trim (String.ofList text)) with _ | f <;> rfl

namespace Logging

variable {g : Logging}

/-- A logger that comes late changes nothing. -/
theorem install_of_some {b : Backend} (h : g.backend = some b) (d : Log.Dispatch) :
    g.install d.name d.filters d.printer = (false, g) := by
  rw [install, h]

theorem install_of_none (h : g.backend = none) (d : Log.Dispatch) :
    g.install d.name d.filters d.printer =
      (true, { g with
        backend := some (.dispatch (d.under g.environment))
        threshold := (d.under g.environment).loudest }) := by
  rw [install, h, Log.Config.withEnvironment_eq]
  rfl

/-- The log is a logger's: the logger is the backend, and the threshold is the larger of its two
filters. -/
structure IsOf (d : Log.Dispatch) (g : Logging) : Prop where
  backend : g.backend = some (.dispatch d)
  threshold : g.threshold = max d.filters.app d.filters.other

/-- Signals received in two parts. -/
theorem receiveAll_append_logging (g : Logging) (live : Nat) (xs ys : List Signal) :
    (g.receiveAll live (xs ++ ys)).1 =
      ((g.receiveAll live xs).1.receiveAll (xs.foldl Signal.liveAfter live) ys).1 := by
  induction xs generalizing g live with
  | nil => rfl
  | cons s xs ih =>
    rw [List.cons_append, receiveAll_cons, receiveAll_cons]
    exact ih (g.receive live s).1 (s.liveAfter live)

end Logging

/-! ## What asks for a logger -/

namespace Request

variable {r : Request} {lib : Library}

/-- A load that succeeds asks for a logger if it has filters for one. -/
theorem load_logging (h : r.load.result = .ok lib) (g : Logging) (live : Nat) :
    (g.receiveAll live r.load.signals).1 =
      r.config.logger.elim g fun filters =>
        (g.install r.config.name filters (some lib.printer)).2 := by
  have hcourse := r.load_course
  rw [h] at hcourse
  generalize r.load.signals = signals at hcourse
  cases hcourse with
  | @granted host =>
    rw [Logging.receiveAll_append_logging,
      g.receiveAll_logging live fun s hs => (host.enquiry_plain 4 s hs).2, installation]
    rcases r.config.logger with _ | filters <;> rfl

end Request

/-! ## One step -/

/-- What a step sets the environment to. -/
def Step.environment? : Step → Option (Option (List UInt8))
  | setEnvironment value => some value
  | _ => none

/-- The environment after a row of steps: what it was set to last. -/
def environmentAfter (environment : Option (List UInt8)) (steps : List Step) :
    Option (List UInt8) :=
  steps.foldl (fun now s => s.environment?.getD now) environment

namespace Session

variable {p : Session}

/-- The logger that a step asks for, with its filters as they were given: an installation always
asks, and a load asks if it passes all its checks and has filters. -/
def asksFor? (p : Session) : Step → Option Log.Dispatch
  | .load i r => (p.load i r).1.granted?.bind fun lib =>
      r.config.logger.map fun filters => ⟨r.config.name, filters, some lib.printer⟩
  | .initLogging name filters host => some ⟨name, filters, (findPrinter host).1⟩
  | _ => none

/-- A step that asks for a logger. -/
def Asks (p : Session) (s : Step) : Prop := (p.asksFor? s).isSome

/-- An installation is answered with what came of it. -/
theorem initLogging_answer (p : Session) (name : String) (filters : Log.Config)
    (host : Option Host) :
    (p.initLogging name filters host).1 =
      .installed (p.logging.install name filters (findPrinter host).1).1 := by
  rw [initLogging_eq]

theorem initLogging_logging (p : Session) (name : String) (filters : Log.Config)
    (host : Option Host) :
    (p.initLogging name filters host).2.2.logging =
      (p.logging.install name filters (findPrinter host).1).2 := by
  rw [initLogging_eq]

/-- A load changes the log only as far as it asks for a logger. -/
theorem load_logging (p : Session) (i : Nat) (r : Request) :
    (p.load i r).2.2.logging =
      (p.asksFor? (.load i r)).elim p.logging fun d =>
        (p.logging.install d.name d.filters d.printer).2 := by
  rw [asksFor?]
  rcases hheld : (p.slots i).library with _ | held
  · rcases hload : r.load.result with e | lib
    · rw [load_of_error hheld hload]
      rfl
    · rw [load_of_ok hheld hload]
      change (p.logging.receiveAll p.live r.load.signals).1 = _
      rw [Request.load_logging hload]
      rcases hlogger : r.config.logger with _ | filters
      · simp [Answer.granted?]
      · simp [Answer.granted?]
  · rw [load_of_held hheld]
    rfl

/-- A call on a load leaves the log alone. -/
theorem call_logging (p : Session) (i : Nat) (c : Call) : (p.call i c).2.2.logging = p.logging := by
  rcases hheld : (p.slots i).library with _ | lib
  · rw [call_of_free hheld]
  rcases hopen : (p.slots i).record.any (·.canStart) with _ | _
  · rw [call_of_barred hopen]
  · obtain ⟨record, hrecord, hstart⟩ := (Option.any_eq_true _ _).mp hopen
    rw [call_of_held hrecord hstart hheld]
    rfl

/-- A step that asks for no logger changes nothing but the environment, if it sets it. -/
theorem step_logging_of_none {s : Step} (h : p.asksFor? s = none) :
    (p.step s).2.2.logging =
      { p.logging with environment := s.environment?.getD p.logging.environment } := by
  cases s with
  | load i r =>
    change (p.load i r).2.2.logging = p.logging
    rw [load_logging, h]
    rfl
  | call i c => exact p.call_logging i c
  | log record => rfl
  | initLogging name filters host => cases h
  | setEnvironment value => rfl
  | print i message =>
    change (p.print i message).2.2.logging = p.logging
    rw [print_after]

/-- A step that asks for a logger has it installed, or refused, as the log is just then. -/
theorem step_logging_of_some {s : Step} {d : Log.Dispatch} (h : p.asksFor? s = some d) :
    (p.step s).2.2.logging = (p.logging.install d.name d.filters d.printer).2 := by
  cases s with
  | load i r =>
    change (p.load i r).2.2.logging = _
    rw [load_logging, h]
    rfl
  | initLogging name filters host =>
    obtain rfl := Option.some.inj h
    exact p.initLogging_logging name filters host
  | _ => cases h

/-! ## Whole runs -/

/-- As long as nobody asks for a logger, the log stays as it was under a changing environment. -/
theorem after_logging_of_never {steps : List Step} (h : p.Never Asks steps) :
    (p.after steps).logging =
      { p.logging with environment := environmentAfter p.logging.environment steps } := by
  induction steps generalizing p with
  | nil => rfl
  | cons s rest ih =>
    obtain ⟨hs, hrest⟩ := never_cons.mp h
    have hnone : p.asksFor? s = none := by simpa [Asks] using hs
    rw [after_cons, ih hrest, step_logging_of_none hnone]
    rfl

/-- A step leaves a log that has a backend to it, with its threshold. -/
theorem step_logging_of_backend {b : Backend} (h : p.logging.backend = some b) (s : Step) :
    (p.step s).2.2.logging.backend = some b ∧
      (p.step s).2.2.logging.threshold = p.logging.threshold := by
  rcases hs : p.asksFor? s with _ | d
  · rw [step_logging_of_none hs]
    exact ⟨h, rfl⟩
  · rw [step_logging_of_some hs, Logging.install_of_some h]
    exact ⟨h, rfl⟩

/-- The backend of a log is there for good, and its threshold with it. -/
theorem after_logging_of_backend {b : Backend} (h : p.logging.backend = some b)
    (steps : List Step) :
    (p.after steps).logging.backend = some b ∧
      (p.after steps).logging.threshold = p.logging.threshold := by
  induction steps generalizing p with
  | nil => exact ⟨h, rfl⟩
  | cons s rest ih =>
    obtain ⟨hbackend, hthreshold⟩ := step_logging_of_backend h s
    obtain ⟨hrest, hsame⟩ := ih hbackend
    exact ⟨hrest, hsame.trans hthreshold⟩

/-- The first to ask for a logger has the log, and keeps it. -/
theorem after_isOf {s : Step} {d : Log.Dispatch} (hnew : p.logging.backend = none)
    (h : p.asksFor? s = some d) (rest : List Step) :
    (p.after (s :: rest)).logging.IsOf (d.under p.logging.environment) := by
  have hstep := step_logging_of_some h
  rw [Logging.install_of_none hnew] at hstep
  have hbackend : (p.step s).2.2.logging.backend =
      some (.dispatch (d.under p.logging.environment)) := by rw [hstep]
  obtain ⟨hrest, hthreshold⟩ := after_logging_of_backend hbackend rest
  refine ⟨hrest, hthreshold.trans ?_⟩
  rw [hstep]
  rfl

/-- A log without a backend is one that nobody has asked for. -/
theorem backend_eq_none_iff (hnew : p.logging.backend = none) (steps : List Step) :
    (p.after steps).logging.backend = none ↔ p.Never Asks steps := by
  constructor
  · rintro hnone past s rest rfl hs
    obtain ⟨d, hd⟩ := Option.isSome_iff_exists.mp hs
    -- with the first logger or with an earlier one, this step leaves a backend behind
    have hsome : ((p.after past).step s).2.2.logging.backend.isSome := by
      rw [step_logging_of_some hd]
      rcases hb : (p.after past).logging.backend with _ | b
      · rw [Logging.install_of_none hb]
        rfl
      · rw [Logging.install_of_some hb, hb]
        rfl
    obtain ⟨b, hb⟩ := Option.isSome_iff_exists.mp hsome
    rw [after_append, after_cons, (after_logging_of_backend hb rest).1] at hnone
    cases hnone
  · intro h
    rw [after_logging_of_never h]
    exact hnew

end Session

/-- **The first logger wins.** In a process that begins without a log backend there is none, and
nothing changes the threshold, until the first step that asks for a logger: an installation, or a
load that passes all its checks and has filters. From then on, whatever comes after, the log is that
logger's, its own filter overridden by the environment as it was at that step. Of all steps that ask
only the first has its logger installed, and an installation is answered with whether it was. -/
theorem first_logger_stays {g : Logging} (hnew : g.backend = none) (steps : List Step) :
    ((Session.start g).Never Session.Asks steps →
      ((Session.start g).after steps).logging.backend = none ∧
      ((Session.start g).after steps).logging.threshold = g.threshold) ∧
    ∀ past s rest d p, steps = past ++ s :: rest → p = (Session.start g).after past →
      p.asksFor? s = some d →
      ((Session.start g).Never Session.Asks past →
        ((Session.start g).after steps).logging.IsOf
          (d.under (environmentAfter g.environment past))) ∧
      ((p.logging.install d.name d.filters d.printer).1 = true ↔
        (Session.start g).Never Session.Asks past) ∧
      (p.step s).2.2.logging = (p.logging.install d.name d.filters d.printer).2 ∧
      ∀ name filters host, s = .initLogging name filters host →
        (p.step s).1 = .installed (p.logging.install d.name d.filters d.printer).1 := by
  refine ⟨fun hnever => ?_, ?_⟩
  · rw [Session.after_logging_of_never hnever]
    exact ⟨hnew, rfl⟩
  rintro past s rest d p rfl rfl hd
  refine ⟨fun hnever => ?_, ?_, Session.step_logging_of_some hd, ?_⟩
  · have hpast := Session.after_logging_of_never hnever
    have hfirst := Session.after_isOf (by rw [hpast]; exact hnew) hd rest
    rwa [hpast, ← Session.after_append] at hfirst
  · rw [← Session.backend_eq_none_iff hnew past]
    rcases hb : ((Session.start g).after past).logging.backend with _ | b
    · simp [Logging.install_of_none hb]
    · simp [Logging.install_of_some hb]
  · rintro name filters host rfl
    obtain rfl := Option.some.inj hd
    exact Session.initLogging_answer _ name filters host

/-- A load that fails, and the environment set to the name of a filter. -/
def Step.failThenNameFilter : List Step :=
  [.load 0 { Request.panicking with initializer := none },
    .setEnvironment (some [0x64, 0x65, 0x62, 0x75, 0x67])]

/-- The load that comes next brings the logger, with the filter that the environment names. The
environment is of no more use then, and another logger is refused. -/
theorem first_logger_stays_after_failure :
    ((Session.start {}).after (Step.failThenNameFilter ++ .load 0 .panicking ::
      [.setEnvironment none, .initLogging "late" {} none])).logging.IsOf
        ⟨"gdextension", ⟨.upTo .debug, .upTo .info⟩, some ⟨0, false⟩⟩ ∧
    (((Session.start {}).after (Step.failThenNameFilter ++
      [.load 0 .panicking, .setEnvironment none])).step
      (.initLogging "late" {} none)).1 = .installed false := by
  have hnever : (Session.start {}).Never Session.Asks Step.failThenNameFilter :=
    Session.never_cons.mpr ⟨Bool.false_ne_true,
      Session.never_cons.mpr ⟨Bool.false_ne_true, Session.never_nil _ _⟩⟩
  have htext : Text.decode? [0x64, 0x65, 0x62, 0x75, 0x67] = some "debug".toList := by
    simp [Text.decode?, Text.pieces, Text.decodeChar]
  have hnamed : Log.Filter.named? (environmentAfter none Step.failThenNameFilter) =
      some (.upTo .debug) := by
    change (Text.decode? [0x64, 0x65, 0x62, 0x75, 0x67]).bind _ = _
    rw [htext]
    decide
  obtain ⟨-, hasks⟩ := first_logger_stays (g := {}) rfl (Step.failThenNameFilter ++
    .load 0 .panicking :: [.setEnvironment none, .initLogging "late" {} none])
  have hfirst := (hasks Step.failThenNameFilter (.load 0 .panicking) _ _ _ rfl rfl rfl).1 hnever
  rw [Log.Dispatch.under, hnamed] at hfirst
  exact ⟨hfirst, rfl⟩

end EngineExtension
