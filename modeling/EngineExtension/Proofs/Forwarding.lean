import EngineExtension.Proofs.FirstLogger

/-!
# What a host hears of lifecycle calls

A host makes its calls, and the extension answers through the log: the library notices things,
callbacks log what they like, and a panic is noticed at its end. Of all this the log passes the
warnings and errors on to one host, that of its printer, which need not be the host that called.
This module says exactly what that host hears of a call.

* `Call.news` — the records of a call that matter: its level is unknown, or its callback logs, and
  may panic;
* `Log.Dispatch.forwards`, `Log.Record.toPrint` — which records are passed on, and as what;
* `Logging.Settled` — the threshold of a log never hides what its filters let through. It holds
  along every run (`Session.settled_after`);
* `call_prints_grave_news` — the messages that a call gives to hosts.
-/

namespace EngineExtension

/-! ## Records and messages -/

namespace Log

/-- A warning or an error. -/
def Record.isGrave (r : Record) : Bool :=
  match r.severity with
  | .error | .warn => true
  | _ => false

/-- The channel on which a host shows a record: an error as an error, and anything else as a warning
if the host shows warnings. -/
def Record.channel (h : Host) (r : Record) : Channel :=
  match r.severity with
  | .error => .error
  | _ => if h.provides .printWarning then .warning else .error

/-- A record as a message to a host. -/
def Record.toPrint (h : Host) (r : Record) : Print where
  channel := r.channel h
  host := h.id
  description := .ofString r.message
  function := .ofString (r.modulePath.getD "")
  file := .ofString (r.file.getD "")
  line := min (r.line.getD 0) Printer.lastLine
  notify := false

/-- Whether a logger with a printer passes a record on: it is within the filter of its target, and a
warning or an error. -/
def Dispatch.forwards (d : Dispatch) (r : Record) : Bool :=
  d.isEnabled r.severity r.target && r.isGrave

theorem Dispatch.filter_forwards (d : Dispatch) (records : List Record) :
    records.filter d.forwards =
      (records.filter Record.isGrave).filter fun r => d.isEnabled r.severity r.target := by
  rw [List.filter_filter]
  rfl

theorem Record.isGrave_eq (r : Record) : r.isGrave = Dispatch.hostFilter.allows r.severity := by
  rw [isGrave]
  rcases r.severity with _ | _ | _ | _ | _ <;> rfl

theorem Dispatch.print_printer (h : Host) (r : Record) : print h.printer r = r.toPrint h := by
  rw [print, Record.toPrint, Record.channel]
  rcases r.severity with _ | _ | _ | _ | _ <;> rfl

/-- The larger of two filters lets through what one of them lets through. -/
theorem Filter.allows_max_iff {a b : Filter} {s : Severity} :
    (max a b).allows s = true ↔ a.allows s = true ∨ b.allows s = true := by
  have hmax : max a b = if a.rank ≤ b.rank then b else a := rfl
  simp only [allows, decide_eq_true_eq]
  rw [hmax]
  split <;> omega

/-- What a logger lets through anywhere is within the larger of its filters. -/
theorem Dispatch.allows_of_isEnabled {d : Dispatch} {r : Record}
    (h : d.isEnabled r.severity r.target = true) :
    (max d.filters.app d.filters.other).allows r.severity = true := by
  rw [isEnabled, filterFor] at h
  split at h
  · exact Filter.allows_max_iff.mpr (.inl h)
  · exact Filter.allows_max_iff.mpr (.inr h)

end Log

/-- The message that an output gives to a host. -/
def Output.print? : Output → Option Print
  | printed print => some print
  | _ => none

/-- The message that a signal gives to a host by itself, past the log. -/
def Signal.print? : Signal → Option Print
  | printed print => some print
  | _ => none

/-- What stays in the log reaches no host. -/
theorem Output.filterMap_print?_of_isLogged {seen : List Output}
    (h : ∀ o ∈ seen, o.isLogged = true) : seen.filterMap print? = [] := by
  refine List.filterMap_eq_nil_iff.mpr fun o ho => ?_
  have hlogged := h o ho
  cases o with
  | printed print => cases hlogged
  | _ => rfl

/-- A host that is asked is not given a message. -/
theorem Host.enquiry_prints (h : Host) (questions : Nat) :
    (h.enquiry questions).filterMap Signal.print? = [] := by
  refine List.filterMap_eq_nil_iff.mpr fun s hs => ?_
  obtain ⟨f, found, rfl⟩ | ⟨f, rfl⟩ | rfl := mem_enquiry hs <;> rfl

/-! ## The log -/

namespace Logging

variable {g : Logging} {d : Log.Dispatch} {h : Host}

/-- The threshold hides nothing that the filters of the logger let through. -/
theorem IsOf.log_eq (hg : g.IsOf d) (r : Log.Record) :
    g.log r = (d.emit r).map .ofEmission := by
  rw [log, hg.backend, hg.threshold]
  rcases henabled : d.isEnabled r.severity r.target with _ | _
  · have hnone : d.emit r = [] := by simp [Log.Dispatch.emit, henabled]
    simp [Backend.emit, hnone]
  · rw [if_pos (Log.Dispatch.allows_of_isEnabled henabled)]
    rfl

/-- What the host of the logger hears of a record. -/
theorem IsOf.log_prints (hg : g.IsOf d) (hprinter : d.printer = some h.printer) (r : Log.Record) :
    (g.log r).filterMap Output.print? = ([r].filter d.forwards).map (·.toPrint h) := by
  rw [hg.log_eq, Log.Dispatch.emit, Log.Dispatch.emitToHost, hprinter, List.filter_singleton,
    Log.Dispatch.forwards, r.isGrave_eq]
  dsimp only
  rcases d.isEnabled r.severity r.target with _ | _
  · rfl
  rcases Log.Dispatch.hostFilter.allows r.severity with _ | _
  · rfl
  · rw [Log.Dispatch.print_printer]
    rfl

theorem IsOf.receive_prints (hg : g.IsOf d) (hprinter : d.printer = some h.printer) (live : Nat)
    {s : Signal} (hcall : s.isOfCall = true) :
    (g.receive live s).2.filterMap Output.print? =
      (s.record?.toList.filter d.forwards).map (·.toPrint h) := by
  cases s with
  | noted note => rfl
  | notice n => exact hg.log_prints hprinter n.record
  | log record => exact hg.log_prints hprinter record
  | _ => cases hcall

/-- What hosts hear of quiet signals, they are told past the log. -/
theorem receiveAll_prints_of_quiet (g : Logging) (live : Nat) {signals : List Signal}
    (hquiet : ∀ s ∈ signals, s.IsQuiet) :
    (g.receiveAll live signals).2.filterMap Output.print? = signals.filterMap Signal.print? := by
  induction signals generalizing g live with
  | nil => rfl
  | cons s rest ih =>
    obtain ⟨hs, hrest⟩ := List.forall_mem_cons.mp hquiet
    have hnow : (g.receive live s).2.filterMap Output.print? = s.print?.toList := by
      cases s with
      | notice n =>
        exact Output.filterMap_print?_of_isLogged fun o => isLogged_of_mem_log (hs.lesser _ rfl)
      | log record =>
        exact Output.filterMap_print?_of_isLogged fun o => isLogged_of_mem_log (hs.lesser _ rfl)
      | _ => rfl
    rw [receiveAll_cons, List.filterMap_append, hnow, ih _ _ hrest, List.filterMap_cons]
    rcases s.print? with _ | print <;> rfl

/-- What the host of the logger hears of signals that lifecycle calls send. -/
theorem IsOf.receiveAll_prints (hg : g.IsOf d) (hprinter : d.printer = some h.printer) (live : Nat)
    {signals : List Signal} (hcall : ∀ s ∈ signals, s.isOfCall = true) :
    (g.receiveAll live signals).2.filterMap Output.print? =
      ((signals.filterMap Signal.record?).filter d.forwards).map (·.toPrint h) := by
  induction signals generalizing live with
  | nil => rfl
  | cons s rest ih =>
    obtain ⟨hs, hrest⟩ := List.forall_mem_cons.mp hcall
    have hsame : (g.receive live s).1 = g :=
      g.receive_logging live (Signal.not_isLasting_of_isOfCall hs)
    have hsplit : (s :: rest).filterMap Signal.record? =
        s.record?.toList ++ rest.filterMap Signal.record? := by
      rw [List.filterMap_cons]
      rcases s.record? with _ | r <;> rfl
    rw [receiveAll_cons, hsame, List.filterMap_append, hg.receive_prints hprinter live hs,
      ih _ hrest, hsplit, List.filter_append, List.map_append]

/-- The log belongs to its backend, if that is a logger. -/
def Settled (g : Logging) : Prop := ∀ d, g.backend = some (.dispatch d) → g.IsOf d

end Logging

namespace Session

theorem settled_step {p : Session} (hp : p.logging.Settled) (s : Step) :
    (p.step s).2.2.logging.Settled := by
  rcases hb : p.logging.backend with _ | b
  · rcases hs : p.asksFor? s with _ | d
    · rw [step_logging_of_none hs]
      intro e he
      cases hb.symm.trans he
    · intro e he
      have hfirst := after_isOf hb hs []
      obtain rfl : d.under p.logging.environment = e := by
        simpa using hfirst.backend.symm.trans he
      exact hfirst
  · obtain ⟨hbackend, hthreshold⟩ := step_logging_of_backend hb s
    intro e he
    have hsame := hp e (by rw [hb, ← hbackend, he])
    exact ⟨he, hthreshold.trans hsame.threshold⟩

/-- In a process that begins without a log backend, the log belongs to its logger at all times. -/
theorem settled_after {g : Logging} (hnew : g.backend = none) (steps : List Step) :
    ((start g).after steps).logging.Settled := by
  have hrun : ∀ p : Session, p.logging.Settled → (p.after steps).logging.Settled := by
    induction steps with
    | nil => exact fun p hp => hp
    | cons s rest ih => exact fun p hp => ih _ (settled_step hp s)
  refine hrun _ fun d hd => ?_
  cases hnew.symm.trans hd

end Session

/-! ## The records of a call -/

/-- The record that a command logs. -/
def Command.logged : Command → List Log.Record
  | log record => [record]
  | _ => []

/-- The records that a program logs, in order, up to its end or its panic. -/
def Program.logged {α : Type} : Program α → Registry → List Log.Record
  | done _, _ => []
  | panic, _ => []
  | perform c next, r => c.logged ++ (next (c.exec r).answer).logged (c.exec r).registry

/-- The records of a callback at a level: what it logs, and an error at the end if it panics. -/
def Library.tells (lib : Library) (role : Role) (callback : Callback) (level : Level) :
    List Log.Record :=
  let registry := lib.registry.enter level
  (callback level).logged registry ++
    if ((callback level).run registry).result.isNone then [(Notice.panicked role level).record]
    else []

/-- The records of a call that matter: a warning for one with a state and an unknown level, or else
those of the callback. -/
def Call.news (c : Call) (lib : Library) : List Log.Record :=
  match c.heard? with
  | none => if c.isNull then [] else [(Notice.ignored ⟨c.raw⟩).record]
  | some (.start, level) => lib.tells .initializer lib.initializer level
  | some (.stop, level) => lib.tells .terminator lib.termination level

/-- The warnings and errors that signals send to the log. -/
def graveRecords (signals : List Signal) : List Log.Record :=
  (signals.filterMap Signal.record?).filter Log.Record.isGrave

theorem graveRecords_append (xs ys : List Signal) :
    graveRecords (xs ++ ys) = graveRecords xs ++ graveRecords ys := by
  simp [graveRecords]

/-- Quiet signals send none. -/
theorem graveRecords_of_quiet {signals : List Signal} (h : ∀ s ∈ signals, s.IsQuiet) :
    graveRecords signals = [] := by
  refine List.filter_eq_nil_iff.mpr fun r hr => ?_
  obtain ⟨s, hs, hrecord⟩ := List.mem_filterMap.mp hr
  rw [r.isGrave_eq, (h s hs).lesser r hrecord]
  exact Bool.false_ne_true

theorem graveRecords_cons_notice {n : Notice}
    (h : Log.Dispatch.hostFilter.allows n.severity = false) (rest : List Signal) :
    graveRecords (.notice n :: rest) = graveRecords rest := by
  rw [← List.singleton_append, graveRecords_append, graveRecords_of_quiet, List.nil_append]
  rintro s hs
  rw [List.mem_singleton.mp hs]
  exact Signal.isQuiet_notice h

theorem graveRecords_unregistered (gone : List ClassEntry) :
    graveRecords (gone.map fun e => .notice (.unregistered e)) = [] := by
  refine graveRecords_of_quiet fun s hs => ?_
  obtain ⟨e, -, rfl⟩ := List.mem_map.mp hs
  exact Signal.isQuiet_notice rfl

theorem Command.exec_graveRecords (c : Command) (r : Registry) :
    graveRecords (c.exec r).signals = c.logged.filter Log.Record.isGrave := by
  cases c with
  | register d =>
    rcases hd : r.place d with _ | e
    · simp [exec, Registry.register, hd, graveRecords, logged]
    · simp only [exec, Registry.register, hd]
      exact graveRecords_cons_notice rfl []
  | unregister level => exact graveRecords_unregistered _
  | inspect => rfl
  | log record => rfl
  | note n => rfl

/-- Of the warnings and errors of a program none comes from the registry. -/
theorem Program.run_graveRecords {α : Type} (p : Program α) (r : Registry) :
    graveRecords (p.run r).signals = (p.logged r).filter Log.Record.isGrave := by
  induction p generalizing r with
  | done a => rfl
  | panic => rfl
  | perform c next ih =>
    rw [run, logged, List.filter_append, ← ih, ← c.exec_graveRecords r]
    exact graveRecords_append _ _

theorem Library.tells_grave (lib : Library) (role : Role) (callback : Callback) (level : Level) :
    graveRecords (((callback level).run (lib.registry.enter level)).signals ++
      ((callback level).run (lib.registry.enter level)).panicNotice role level) =
      (lib.tells role callback level).filter Log.Record.isGrave := by
  rw [graveRecords_append, Program.run_graveRecords, tells, List.filter_append,
    Program.Outcome.panicNotice]
  rcases ((callback level).run (lib.registry.enter level)).result with _ | _ <;> rfl

/-- Of the warnings and errors of a call none comes from the library at work: they are its news. -/
theorem Call.apply_graveRecords (c : Call) (lib : Library) :
    graveRecords (c.apply lib).2 = (c.news lib).filter Log.Record.isGrave := by
  rw [news]
  rcases hc : c.heard? with _ | ⟨_ | _, level⟩
  · rw [apply_of_heard?_eq_none hc]
    rcases c.isNull with _ | _ <;> rfl
  · rw [apply_of_start hc, graveRecords_cons_notice rfl, Library.start_sent]
    exact lib.tells_grave .initializer lib.initializer level
  · have hstop : graveRecords (lib.stop level).2 =
        (lib.tells .terminator lib.termination level).filter Log.Record.isGrave := by
      rw [Library.stop_sent, graveRecords_append, graveRecords_unregistered, List.append_nil]
      exact lib.tells_grave .terminator lib.termination level
    rw [apply_of_stop hc]
    split
    · rw [List.cons_append, graveRecords_cons_notice rfl, graveRecords_append, hstop,
        graveRecords_cons_notice rfl []]
      exact List.append_nil _
    · rw [graveRecords_cons_notice rfl, hstop]

/-! ## Calls in a session -/

namespace Session

variable {p : Session} {d : Log.Dispatch} {h : Host}

/-- What the host of the logger hears of a call on any slot. -/
theorem call_prints (hcallable : p.Callable) (hlog : p.logging.IsOf d)
    (hprinter : d.printer = some h.printer) (i : Nat) (c : Call) :
    (p.call i c).2.1.filterMap Output.print? =
      (((p.slots i).library.elim [] c.news).filter d.forwards).map (·.toPrint h) := by
  rcases hheld : (p.slots i).library with _ | lib
  · rw [call_of_free hheld]
    rfl
  · obtain ⟨record, hrecord, hstart⟩ := hcallable i (by rw [hheld]; rfl)
    -- only grave records are passed on, and of those a call sends its news and no other
    have hnews := c.apply_graveRecords lib
    rw [graveRecords] at hnews
    have hseen := hlog.receiveAll_prints hprinter p.live (c.apply_isOfCall lib)
    rw [d.filter_forwards, hnews, ← d.filter_forwards] at hseen
    rw [call_of_held hrecord hstart hheld]
    exact hseen

/-- What hosts hear of a load, they are told by the load itself. -/
theorem load_prints {i : Nat} (r : Request) (hfree : (p.slots i).library = none) :
    (p.load i r).2.1.filterMap Output.print? = r.load.signals.filterMap Signal.print? := by
  rw [load_seen hfree]
  exact p.logging.receiveAll_prints_of_quiet p.live r.load_course.quiet

theorem initLogging_prints (p : Session) (name : String) (filters : Log.Config)
    (host : Option Host) : (p.initLogging name filters host).2.1.filterMap Output.print? = [] := by
  rw [initLogging_eq]
  change (p.logging.receiveAll p.live (findPrinter host).2).2.filterMap Output.print? = []
  rw [p.logging.receiveAll_prints_of_quiet p.live fun s hs => (findPrinter_plain host s hs).1]
  rcases findPrinter_signals host with hnone | ⟨h, questions, hasked⟩
  · rw [hnone]
    rfl
  · rw [hasked, h.enquiry_prints]

end Session

/-- **What a host hears of lifecycle calls.** Take any run of a process that begins without a log
backend, up to a moment when the log is a logger's that prints through some host. Whatever load is
called, of that host or another, and however: the messages that the call gives to hosts are its
warnings and errors that are within the filter of their target, in order and each as one message to
the host of the logger. They come from an unknown level, from what the callback logs up to its end
or panic, and from the panic. What the library notices at work is no matter for a host: a notice of
lesser weight is passed on by no log, and so what a load tells a host it tells it past the log, and
the search for a printer tells it nothing. -/
theorem call_prints_grave_news {g : Logging} (hnew : g.backend = none) (steps : List Step) :
    (∀ d h p, p = (Session.start g).after steps → p.logging.backend = some (.dispatch d) →
      d.printer = some (Host.printer h) → ∀ i c,
      (p.call i c).2.1.filterMap Output.print? =
        (((p.slots i).library.elim [] c.news).filter d.forwards).map (·.toPrint h)) ∧
    (∀ (g : Logging) (n : Notice), n.severity = .debug ∨ n.severity = .info →
      (g.log n.record).filterMap Output.print? = []) ∧
    (∀ (p : Session) i r, (p.slots i).library = none →
      (p.load i r).2.1.filterMap Output.print? = r.load.signals.filterMap Signal.print?) ∧
    ∀ (p : Session) name filters host,
      (p.initLogging name filters host).2.1.filterMap Output.print? = [] := by
  refine ⟨?_, fun g n hn => ?_, fun p i r hfree => Session.load_prints r hfree,
    fun p name filters host => p.initLogging_prints name filters host⟩
  · rintro d h p rfl hd hprinter i c
    have hcallable := (Session.callable_start g).after steps
    exact Session.call_prints hcallable (Session.settled_after hnew steps d hd) hprinter i c
  · have hquiet : Log.Dispatch.hostFilter.allows n.record.severity = false := by
      change Log.Dispatch.hostFilter.allows n.severity = false
      rcases hn with hn | hn <;> rw [hn] <;> rfl
    exact Output.filterMap_print?_of_isLogged fun o => Logging.isLogged_of_mem_log hquiet

/-- A request whose initializer warns, informs and panics. -/
def Request.complaining : Request :=
  plain (fun _ =>
    .perform (.log ⟨.warn, "game", "low on fuel", none, none, none⟩) fun _ =>
    .perform (.log ⟨.info, "game", "still going", none, none, none⟩) fun _ => .panic) none

/-- A host that shows warnings. -/
def Host.chatty : Host := ⟨3, true, true, some { major := 4, minor := 1 }⟩

/-- Two loads. The first brings a logger that prints through its host; the second is from another
host. -/
def Step.twoHosts : List Step :=
  [.load 0 { Request.panicking with host := some .chatty }, .load 1 .complaining]

/-- The host of the logger hears of calls on the load of the other host: of the warning and the
panic, and of an unknown level. -/
theorem call_prints_grave_news_elsewhere :
    ((((Session.start {}).after Step.twoHosts).call 1 (.up .scene)).2.1.filterMap
      Output.print?).map (fun x => (x.channel, x.host)) = [(.warning, 3), (.error, 3)] ∧
    ((((Session.start {}).after Step.twoHosts).call 1 ⟨.stop, 7, false⟩).2.1.filterMap
      Output.print?).map (fun x => (x.channel, x.host)) = [(.warning, 3)] := by
  have hcalls := (call_prints_grave_news (g := {}) rfl Step.twoHosts).1 _ .chatty _ rfl rfl rfl 1
  rw [hcalls, hcalls]
  exact ⟨rfl, rfl⟩

end EngineExtension
