import EngineExtension.Proofs.Registry
import EngineExtension.Proofs.Run
import EngineExtension.Session

/-!
# Steps and runs of a session

What the loads of a process have in common is little: the log, the number of live loads, and the
slots they are kept in. This module says what the steps of a session do to these three, and what the
outside sees of a load whatever the log does.

* `Signal.output?`, `Output.isLogged` — what a signal shows by itself, and what only a log shows;
  when a log passes nothing on to a host, the two are all there is (`Logging.receiveAll_unlogged`);
* `Signal.isLasting` — the signals that change something beyond their load. A load that fails sends
  none (`Request.Course.plain`), one that succeeds sends them when all checks have passed, and a
  lifecycle call sends none (`Call.apply_isOfCall`);
* `Session.load_of_ok`, `Session.load_of_error` — a load in a free slot;
* `Session.Turn` — all that a step can do to the loads of a session (`Session.step_turn`);
* `Session.after` — a session after a row of steps; `Session.Never` — a row without steps of a kind.
-/

namespace EngineExtension

/-! ## What the outside sees -/

/-- The output that a signal makes by itself, whatever the process. A note makes none: it shows how
many loads there are. -/
def Signal.output? : Signal → Option Output
  | asked host function found => some (.asked host function found)
  | askedVersion host => some (.askedVersion host)
  | printed print => some (.printed print)
  | consoleText text => some (.consoleText text)
  | _ => none

/-- A record on its way through a log: kept, or written to the console. -/
def Output.isLogged : Output → Bool
  | recorded _ => true
  | console _ => true
  | _ => false

/-- Outputs of a kind that no log makes can be looked for among the unlogged ones. -/
theorem Output.filter_unlogged {kind : Output → Bool} (h : ∀ o, o.isLogged = true → kind o = false)
    (seen : List Output) : (seen.filter (!·.isLogged)).filter kind = seen.filter kind := by
  rw [List.filter_filter]
  refine List.filter_congr fun o _ => ?_
  rcases hlogged : o.isLogged with _ | _
  · rw [Bool.not_false, Bool.and_true]
  · rw [h o hlogged, Bool.false_and]

/-- A note of a callback. -/
def Signal.isNote : Signal → Bool
  | noted _ => true
  | _ => false

/-- A signal of which the outside sees the same in every process, but for what stays in the log. -/
structure Signal.IsQuiet (s : Signal) : Prop where
  /-- it is no note -/
  unnoted : s.isNote = false
  /-- it sends no warning and no error to the log, so that no host hears of it from there -/
  lesser : ∀ record, s.record? = some record →
    Log.Dispatch.hostFilter.allows record.severity = false

/-- A signal that changes something beyond its load: the log of the process, the number of live
loads, or the host's record. -/
def Signal.isLasting : Signal → Bool
  | install .. => true
  | counted => true
  | filled _ => true
  | _ => false

namespace Logging

/-- A log keeps what is no warning and no error to itself, whatever its backend. -/
theorem isLogged_of_mem_log {g : Logging} {record : Log.Record}
    (hquiet : Log.Dispatch.hostFilter.allows record.severity = false) {o : Output}
    (ho : o ∈ g.log record) : o.isLogged = true := by
  rw [log] at ho
  split at ho
  · rcases hb : g.backend with _ | _ | d <;> rw [hb] at ho
    · cases ho
    · rw [List.mem_singleton.mp ho]
      rfl
    · have hhost : d.emitToHost record = [] := by
        rw [Log.Dispatch.emitToHost, hquiet]
        rcases d.printer with _ | _ <;> rfl
      obtain ⟨emission, hemission, rfl⟩ := List.mem_map.mp ho
      rw [Log.Dispatch.emit, hhost] at hemission
      split at hemission
      · rw [List.mem_singleton.mp hemission]
        rfl
      · cases hemission
  · cases ho

/-- So nothing of it is left past the log. -/
theorem log_unlogged {g : Logging} {record : Log.Record}
    (hquiet : Log.Dispatch.hostFilter.allows record.severity = false) :
    (g.log record).filter (!·.isLogged) = [] := by
  refine List.filter_eq_nil_iff.mpr fun o ho => ?_
  simp [isLogged_of_mem_log hquiet ho]

/-- One quiet signal shows what it shows by itself. -/
theorem receive_unlogged (g : Logging) (live : Nat) {s : Signal} (hquiet : s.IsQuiet) :
    (g.receive live s).2.filter (!·.isLogged) = s.output?.toList := by
  cases s with
  | noted note => exact nomatch hquiet.unnoted
  | notice n => exact log_unlogged (hquiet.lesser _ rfl)
  | log record => exact log_unlogged (hquiet.lesser _ rfl)
  | _ => rfl

theorem receiveAll_cons (g : Logging) (live : Nat) (s : Signal) (rest : List Signal) :
    g.receiveAll live (s :: rest) =
      (((g.receive live s).1.receiveAll (s.liveAfter live) rest).1,
        (g.receive live s).2 ++
          ((g.receive live s).1.receiveAll (s.liveAfter live) rest).2) := rfl

/-- **Quiet signals.** Whatever the log does, signals that are quiet show the outside what they show
by themselves, in order; all else stays in the log. -/
theorem receiveAll_unlogged (g : Logging) (live : Nat) {signals : List Signal}
    (hquiet : ∀ s ∈ signals, s.IsQuiet) :
    (g.receiveAll live signals).2.filter (!·.isLogged) = signals.filterMap Signal.output? := by
  induction signals generalizing g live with
  | nil => rfl
  | cons s rest ih =>
    obtain ⟨hs, hrest⟩ := List.forall_mem_cons.mp hquiet
    rw [receiveAll_cons, List.filter_append, receive_unlogged g live hs, ih _ _ hrest,
      List.filterMap_cons]
    rcases s.output? with _ | o <;> rfl

/-- A signal that does not last leaves the logging state as it is. -/
theorem receive_logging (g : Logging) (live : Nat) {s : Signal} (h : s.isLasting = false) :
    (g.receive live s).1 = g := by
  cases s with
  | install name filters printer => cases h
  | _ => rfl

/-- And so does a row of them. -/
theorem receiveAll_logging (g : Logging) (live : Nat) {signals : List Signal}
    (h : ∀ s ∈ signals, s.isLasting = false) : (g.receiveAll live signals).1 = g := by
  induction signals generalizing live with
  | nil => rfl
  | cons s rest ih =>
    obtain ⟨hs, hrest⟩ := List.forall_mem_cons.mp h
    rw [receiveAll_cons, g.receive_logging live hs]
    exact ih _ hrest

end Logging

/-! ## What lasts -/

namespace Signal

variable {signals : List Signal}

/-- Signals of which none changes a value leave it. -/
theorem foldl_of_kept {β : Type} {f : β → Signal → β} {b : β} (h : ∀ s ∈ signals, f b s = b) :
    signals.foldl f b = b := by
  induction signals with
  | nil => rfl
  | cons s rest ih =>
    obtain ⟨hs, hrest⟩ := List.forall_mem_cons.mp h
    rw [List.foldl_cons, hs, ih hrest]

/-- Signals that do not last leave the number of live loads. -/
theorem foldl_liveAfter (h : ∀ s ∈ signals, s.isLasting = false) (live : Nat) :
    signals.foldl liveAfter live = live := by
  refine foldl_of_kept fun s hs => ?_
  have hlasting := h s hs
  cases s with
  | counted => cases hlasting
  | _ => rfl

/-- Signals that do not last leave the host's record. -/
theorem foldl_recordAfter (h : ∀ s ∈ signals, s.isLasting = false) (record : Option InitRecord) :
    signals.foldl recordAfter record = record := by
  refine foldl_of_kept fun s hs => ?_
  have hlasting := h s hs
  cases s with
  | filled new => cases hlasting
  | _ => rfl

end Signal

/-! ## What a load sends -/

/-- A signal that is not for the log, and is no note, is quiet. -/
theorem Signal.isQuiet_of_record?_eq_none {s : Signal} (hnote : s.isNote = false)
    (h : s.record? = none) : s.IsQuiet := by
  refine ⟨hnote, fun record hrecord => ?_⟩
  rw [h] at hrecord
  cases hrecord

/-- A notice that is no warning and no error is quiet. -/
theorem Signal.isQuiet_notice {n : Notice}
    (h : Log.Dispatch.hostFilter.allows n.severity = false) : (notice n).IsQuiet := by
  refine ⟨rfl, fun record hrecord => ?_⟩
  obtain rfl := Option.some.inj hrecord
  exact h

/-- A signal that is quiet and does not last. -/
def Signal.IsPlain (s : Signal) : Prop := s.IsQuiet ∧ s.isLasting = false

/-- To ask a host changes nothing, and no host is told of it by a log. -/
theorem Host.enquiry_plain (h : Host) (questions : Nat) : ∀ s ∈ h.enquiry questions, s.IsPlain := by
  intro s hs
  obtain ⟨f, found, rfl⟩ | ⟨f, rfl⟩ | rfl := mem_enquiry hs
  · exact ⟨Signal.isQuiet_of_record?_eq_none rfl rfl, rfl⟩
  · exact ⟨Signal.isQuiet_notice rfl, rfl⟩
  · exact ⟨Signal.isQuiet_of_record?_eq_none rfl rfl, rfl⟩

namespace Request

variable {r : Request} {signals : List Signal}

/-- A report to the console is plain. -/
theorem reportToConsole_plain (r : Request) (e : LoadError) :
    ∀ s ∈ r.reportToConsole e, s.IsPlain := by
  intro s hs
  rw [List.mem_singleton.mp hs]
  exact ⟨Signal.isQuiet_of_record?_eq_none rfl rfl, rfl⟩

/-- A report to a host is plain: the log is told too, but as a lesser matter. -/
theorem reportToHost_plain (printer : Printer) (e : LoadError) :
    ∀ s ∈ reportToHost printer e, s.IsPlain := by
  intro s hs
  rcases List.mem_cons.mp hs with rfl | hs
  · exact ⟨Signal.isQuiet_notice rfl, rfl⟩
  · rw [List.mem_singleton.mp hs]
    exact ⟨Signal.isQuiet_of_record?_eq_none rfl rfl, rfl⟩

/-- To ask for a logger is quiet. -/
theorem installation_quiet (config : Config) (printer : Printer) :
    ∀ s ∈ installation config printer, s.IsQuiet := by
  intro s hs
  rw [installation] at hs
  split at hs
  · rw [List.mem_singleton.mp hs]
    exact Signal.isQuiet_of_record?_eq_none rfl rfl
  · cases hs

/-- **A load that fails does nothing that lasts**: whichever check it fails at, it has asked for no
logger by then, has not been counted, and has not touched the record. Nor has it sent a warning or
an error to the log. -/
theorem Course.plain {e : LoadError} (h : r.Course (.error e) signals) :
    ∀ s ∈ signals, s.IsPlain := by
  cases h with
  | noHost => exact r.reportToConsole_plain _
  | noPrinter =>
    exact List.forall_mem_append.mpr ⟨Host.enquiry_plain _ _, r.reportToConsole_plain _⟩
  | noInitializer =>
    exact List.forall_mem_append.mpr ⟨Host.enquiry_plain _ _, reportToHost_plain _ _⟩
  | noRecord => exact List.forall_mem_append.mpr ⟨Host.enquiry_plain _ _, reportToHost_plain _ _⟩
  | noVersion => exact List.forall_mem_append.mpr ⟨Host.enquiry_plain _ _, reportToHost_plain _ _⟩
  | tooOld => exact List.forall_mem_append.mpr ⟨Host.enquiry_plain _ _, reportToHost_plain _ _⟩

/-- A load sends no warning and no error to the log. -/
theorem Course.quiet {result : Except LoadError Library} (h : r.Course result signals) :
    ∀ s ∈ signals, s.IsQuiet := by
  rcases result with e | lib
  · exact fun s hs => (h.plain s hs).1
  · cases h with
    | granted =>
      refine List.forall_mem_append.mpr ⟨fun s hs => (Host.enquiry_plain _ _ s hs).1, ?_⟩
      refine List.forall_mem_append.mpr ⟨installation_quiet _ _, fun s hs => ?_⟩
      simp only [List.mem_cons, List.not_mem_nil, or_false] at hs
      rcases hs with rfl | rfl | rfl
      · exact Signal.isQuiet_notice rfl
      · exact Signal.isQuiet_of_record?_eq_none rfl rfl
      · exact Signal.isQuiet_of_record?_eq_none rfl rfl

/-- A load that succeeds is counted once. -/
theorem Course.foldl_liveAfter {lib : Library} (h : r.Course (.ok lib) signals) (live : Nat) :
    signals.foldl Signal.liveAfter live = live + 1 := by
  cases h with
  | granted =>
    rw [List.foldl_append, Signal.foldl_liveAfter fun s hs => (Host.enquiry_plain _ _ s hs).2,
      installation]
    rcases r.config.logger with _ | filters <;> rfl

/-- A load that succeeds overwrites the record, whatever it held before. -/
theorem Course.foldl_recordAfter {lib : Library} (h : r.Course (.ok lib) signals) :
    signals.foldl Signal.recordAfter r.record = some (.filled r.minimum) := by
  cases h with
  | granted _ _ _ hrecord =>
    rw [List.foldl_append, Signal.foldl_recordAfter fun s hs => (Host.enquiry_plain _ _ s hs).2,
      installation, hrecord]
    rcases r.config.logger with _ | filters <;> rfl

/-- Nothing that a load which fails sends lasts. -/
theorem not_isLasting_of_error {e : LoadError} (hload : r.load.result = .error e) :
    ∀ s ∈ r.load.signals, s.isLasting = false := by
  have hcourse := r.load_course
  rw [hload] at hcourse
  exact fun s hs => (hcourse.plain s hs).2

/-- A load that fails leaves the record as it was. -/
theorem load_record_of_error {e : LoadError} (hload : r.load.result = .error e) :
    r.load.record = r.record :=
  Signal.foldl_recordAfter (not_isLasting_of_error hload) r.record

/-- A load that succeeds fills the record in. -/
theorem load_record_of_ok {lib : Library} (hload : r.load.result = .ok lib) :
    r.load.record = some (.filled r.minimum) := by
  have hcourse := r.load_course
  rw [hload] at hcourse
  exact hcourse.foldl_recordAfter

end Request

/-! ## What a lifecycle call sends -/

/-- A signal of a kind that lifecycle calls send: something for the log, or a note. -/
def Signal.isOfCall : Signal → Bool
  | noted _ => true
  | notice _ => true
  | log _ => true
  | _ => false

/-- What a lifecycle call sends does not last. -/
theorem Signal.not_isLasting_of_isOfCall {s : Signal} (h : s.isOfCall = true) :
    s.isLasting = false := by
  cases s with
  | noted note => rfl
  | notice n => rfl
  | log record => rfl
  | _ => cases h

/-- A command notices what it did, or sends what it was told to send. -/
theorem Command.exec_isOfCall (c : Command) (r : Registry) :
    ∀ s ∈ (c.exec r).signals, s.isOfCall = true := by
  intro s hs
  cases c with
  | register d =>
    rcases hd : r.place d with _ | e
    · simp [exec, Registry.register, hd] at hs
    · simp only [exec, Registry.register, hd] at hs
      rw [List.mem_singleton.mp hs]
      rfl
  | unregister level =>
    obtain ⟨e, -, rfl⟩ := List.mem_map.mp hs
    rfl
  | inspect => cases hs
  | log record =>
    rw [List.mem_singleton.mp hs]
    rfl
  | note n =>
    rw [List.mem_singleton.mp hs]
    rfl

/-- A callback sends what its commands send. -/
theorem Program.run_isOfCall {α : Type} (p : Program α) (r : Registry) :
    ∀ s ∈ (p.run r).signals, s.isOfCall = true :=
  @run_keeps α (fun sent _ => ∀ s ∈ sent, s.isOfCall = true)
    (fun c _ r hsent => List.forall_mem_append.mpr ⟨hsent, c.exec_isOfCall r⟩) p [] r
    (fun _ hs => nomatch hs)

/-- A panic is noticed, and that is all. -/
theorem Program.Outcome.panicNotice_isOfCall {α : Type} (o : Program.Outcome α) (role : Role)
    (level : Level) : ∀ s ∈ o.panicNotice role level, s.isOfCall = true := by
  intro s hs
  rw [panicNotice] at hs
  split at hs
  · cases hs
  · rw [List.mem_singleton.mp hs]
    rfl

/-- A lifecycle call sends notices, records and notes, and nothing else. -/
theorem Call.apply_isOfCall (c : Call) (lib : Library) :
    ∀ s ∈ (c.apply lib).2, s.isOfCall = true := by
  intro s hs
  rcases hc : c.heard? with _ | ⟨_ | _, level⟩
  · rw [apply_of_heard?_eq_none hc] at hs
    dsimp only at hs
    split at hs
    · cases hs
    · rw [List.mem_singleton.mp hs]
      rfl
  · rw [apply_of_start hc, Library.start_sent, List.mem_cons, List.mem_append] at hs
    rcases hs with rfl | hs | hs
    · rfl
    · exact Program.run_isOfCall _ _ s hs
    · exact Program.Outcome.panicNotice_isOfCall _ _ _ s hs
  · have hstop : ∀ s ∈ (lib.stop level).2, s.isOfCall = true := by
      intro s hs
      rw [Library.stop_sent, List.mem_append, List.mem_append] at hs
      rcases hs with (hs | hs) | hs
      · exact Program.run_isOfCall _ _ s hs
      · exact Program.Outcome.panicNotice_isOfCall _ _ _ s hs
      · obtain ⟨e, -, rfl⟩ := List.mem_map.mp hs
        rfl
    rw [apply_of_stop hc] at hs
    split at hs
    · rw [List.cons_append, List.mem_cons, List.mem_append, List.mem_singleton] at hs
      rcases hs with rfl | hs | rfl
      · rfl
      · exact hstop s hs
      · rfl
    · rcases List.mem_cons.mp hs with rfl | hs
      · rfl
      · exact hstop s hs

/-! ## A load in a session -/

namespace Session

variable {p : Session} {i j : Nat} {r : Request} {signals : List Signal}

@[simp] theorem receive_slots (p : Session) (signals : List Signal) :
    (p.receive signals).1.slots = p.slots := rfl

@[simp] theorem setSlot_live (p : Session) (i : Nat) (s : Slot) :
    (p.setSlot i s).live = p.live := rfl

@[simp] theorem setSlot_logging (p : Session) (i : Nat) (s : Slot) :
    (p.setSlot i s).logging = p.logging := rfl

@[simp] theorem setSlot_self (p : Session) (i : Nat) (s : Slot) : (p.setSlot i s).slots i = s :=
  if_pos rfl

/-- No other slot is touched. -/
theorem setSlot_of_ne (p : Session) (s : Slot) (h : j ≠ i) :
    (p.setSlot i s).slots j = p.slots j := if_neg h

/-- Signals that do not last leave a session as it is. -/
theorem receive_of_not_lasting (h : ∀ s ∈ signals, s.isLasting = false) :
    (p.receive signals).1 = p := by
  have hlogging := p.logging.receiveAll_logging p.live h
  have hlive := Signal.foldl_liveAfter h p.live
  rw [receive]
  dsimp only
  rw [hlogging, hlive]

/-- A slot that holds a live load is not loaded into. -/
theorem load_of_held {lib : Library} (hheld : (p.slots i).library = some lib) :
    p.load i r = (.occupied, [], p) := by
  rw [load, hheld]

/-- A load that fails, in a free slot. Of the session it changes the record in that slot only. -/
theorem load_of_error {e : LoadError} (hfree : (p.slots i).library = none)
    (hload : r.load.result = .error e) :
    p.load i r = (.loaded (.error e), (p.receive r.load.signals).2,
      p.setSlot i ⟨some (r.record.getD {}), none⟩) := by
  have hreceive := receive_of_not_lasting (p := p) (Request.not_isLasting_of_error hload)
  simp only [load, hfree, hload, Request.load_record_of_error hload, hreceive]
  rfl

/-- A load that succeeds, in a free slot. -/
theorem load_of_ok {lib : Library} (hfree : (p.slots i).library = none)
    (hload : r.load.result = .ok lib) :
    p.load i r = (.loaded (.ok lib), (p.receive r.load.signals).2,
      (p.receive r.load.signals).1.setSlot i ⟨some (.filled r.minimum), some lib⟩) := by
  simp only [load, hfree, hload, Request.load_record_of_ok hload]
  rfl

/-- After a load that succeeds there is one more live load. -/
theorem receive_live_of_ok {lib : Library} (hload : r.load.result = .ok lib) :
    (p.receive r.load.signals).1.live = p.live + 1 := by
  have hcourse := r.load_course
  rw [hload] at hcourse
  exact hcourse.foldl_liveAfter p.live

/-- Inversion for a load that was tried: its slot was free. -/
theorem load_eq_loaded {result : Except LoadError Library}
    (h : (p.load i r).1 = .loaded result) :
    (p.slots i).library = none ∧ r.load.result = result := by
  rcases hheld : (p.slots i).library with _ | lib
  · refine ⟨rfl, ?_⟩
    rw [load, hheld] at h
    exact Answer.loaded.inj h
  · rw [load_of_held hheld] at h
    cases h

/-- A load in a free slot is answered with what comes of it. -/
theorem load_answer (hfree : (p.slots i).library = none) :
    (p.load i r).1 = .loaded r.load.result := by
  rw [load, hfree]

/-- What the outside sees of a load in a free slot is what the log makes of its signals. -/
theorem load_seen (hfree : (p.slots i).library = none) :
    (p.load i r).2.1 = (p.logging.receiveAll p.live r.load.signals).2 := by
  rw [load, hfree]
  rfl

/-- Whatever the log does, the outside sees of a load what its signals show by themselves. -/
theorem load_unlogged (hfree : (p.slots i).library = none) :
    (p.load i r).2.1.filter (!·.isLogged) = r.load.signals.filterMap Signal.output? := by
  rw [load_seen hfree]
  exact p.logging.receiveAll_unlogged p.live r.load_course.quiet

end Session

/-! ## What a step does to the loads -/

/-- A load that is not over can be called. -/
def Slot.Callable (s : Slot) : Prop :=
  s.library.isSome → ∃ record, s.record = some record ∧ record.canStart = true

theorem Slot.callable_of_over (record : Option InitRecord) :
    (⟨record, none⟩ : Slot).Callable := fun h => absurd h Bool.false_ne_true

namespace Session

variable {p : Session} {i : Nat}

/-- Every load that is not over can be called. -/
def Callable (p : Session) : Prop := ∀ i, (p.slots i).Callable

/-- Nothing comes of a call on a slot that holds no live load. -/
theorem call_of_free {c : Call} (hfree : (p.slots i).library = none) :
    (p.call i c).2 = ([], p) := by
  rw [call]
  split
  · rfl
  · rw [hfree]
    split
    · rfl
    · dsimp only
      split <;> rfl

/-- No call is made on a slot whose record does not allow one. -/
theorem call_of_barred {c : Call} (h : (p.slots i).record.any (·.canStart) = false) :
    (p.call i c).2.2 = p := by
  rw [call]
  rcases hrecord : (p.slots i).record with _ | record
  · rfl
  · rw [hrecord] at h
    have hstart : record.canStart = false := h
    simp [hstart]

/-- A call that goes to the load in a slot. -/
theorem call_of_held {c : Call} {record : InitRecord} {lib : Library}
    (hrecord : (p.slots i).record = some record) (hstart : record.canStart = true)
    (hheld : (p.slots i).library = some lib) :
    (p.call i c).2 =
      ((p.receive (c.apply lib).2).2,
        { p.setSlot i ⟨some record, (c.apply lib).1⟩ with
          live := if (c.apply lib).1.isSome then p.live else p.live - 1 }) := by
  have hreceive := receive_of_not_lasting (p := p) fun s hs =>
    Signal.not_isLasting_of_isOfCall (c.apply_isOfCall lib s hs)
  simp only [call, hrecord, hstart, hheld, hreceive]
  rcases (c.apply lib).1 with _ | next <;> rfl

/-- To print changes nothing. -/
theorem print_after (p : Session) (i : Nat) (message : String) : (p.print i message).2.2 = p := by
  rw [print]
  split <;> rfl

/-- The search for a printer asks a host its first questions. -/
theorem findPrinter_signals (host : Option Host) :
    (findPrinter host).2 = [] ∨ ∃ h questions, (findPrinter host).2 = Host.enquiry h questions := by
  rcases host with _ | h
  · exact .inl rfl
  · right
    rcases hprint : h.provides .printError with _ | _
    · exact ⟨h, 1, by rw [findPrinter, Printer.resolve_of_missing hprint]⟩
    · exact ⟨h, 2, by rw [findPrinter, Printer.resolve_of_found hprint]⟩

/-- So it changes nothing, and no log tells a host of it. -/
theorem findPrinter_plain (host : Option Host) : ∀ s ∈ (findPrinter host).2, s.IsPlain := by
  rcases findPrinter_signals host with hnone | ⟨h, questions, hasked⟩
  · rw [hnone]
    exact fun s hs => nomatch hs
  · rw [hasked]
    exact h.enquiry_plain questions

/-- The installation of a logger: the search for its printer is all that is seen of it, and the log
is all that it changes. -/
theorem initLogging_eq (p : Session) (name : String) (filters : Log.Config) (host : Option Host) :
    p.initLogging name filters host =
      (.installed (p.logging.install name filters (findPrinter host).1).1,
        (p.receive (findPrinter host).2).2,
        { p with logging := (p.logging.install name filters (findPrinter host).1).2 }) := by
  have hreceive := receive_of_not_lasting (p := p) fun s hs => (findPrinter_plain host s hs).2
  simp only [initLogging, hreceive]

/-- All that a step can do to the loads of a session, and to their number. -/
inductive Turn (p after : Session) : Step → Prop where
  /-- a load succeeds -/
  | granted {i : Nat} {r : Request} {lib : Library} (hanswer : (p.load i r).1 = .loaded (.ok lib))
    (hfree : (p.slots i).library = none) (hheld : (after.slots i).library = some lib)
    (hothers : ∀ j, j ≠ i → (after.slots j).library = (p.slots j).library)
    (hlive : after.live = p.live + 1) : Turn p after (.load i r)
  /-- a slot is called, which goes to the load in it, if there is one -/
  | called {i : Nat} {c : Call}
    (hheld : (after.slots i).library = (p.slots i).library.bind fun lib => (c.apply lib).1)
    (hothers : ∀ j, j ≠ i → (after.slots j).library = (p.slots j).library)
    (hlive : after.live =
      if (after.slots i).library.isSome = (p.slots i).library.isSome then p.live else p.live - 1) :
    Turn p after (.call i c)
  /-- all else leaves the loads alone -/
  | idle {s : Step} (hanswer : ∀ lib, (p.step s).1 ≠ .loaded (.ok lib))
    (hcall : ∀ i c, s ≠ .call i c) (hheld : ∀ j, (after.slots j).library = (p.slots j).library)
    (hlive : after.live = p.live) : Turn p after s

theorem load_turn (p : Session) (i : Nat) (r : Request) : p.Turn (p.load i r).2.2 (.load i r) := by
  rcases hheld : (p.slots i).library with _ | held
  · have hanswer := load_answer (r := r) hheld
    rcases hload : r.load.result with e | lib <;> rw [hload] at hanswer
    · refine .idle (fun lib h => ?_) (fun _ _ h => nomatch h) (fun j => ?_) ?_
      · cases hanswer.symm.trans h
      · rw [load_of_error hheld hload]
        by_cases hj : j = i
        · rw [hj, setSlot_self, hheld]
        · rw [setSlot_of_ne _ _ hj]
      · rw [load_of_error hheld hload, setSlot_live]
    · refine .granted hanswer hheld ?_ (fun j hj => ?_) ?_
      · rw [load_of_ok hheld hload, setSlot_self]
      · rw [load_of_ok hheld hload, setSlot_of_ne _ _ hj, receive_slots]
      · rw [load_of_ok hheld hload, setSlot_live, receive_live_of_ok hload]
  · rw [load_of_held hheld]
    refine .idle (fun lib h => ?_) (fun _ _ h => nomatch h) (fun _ => rfl) rfl
    rw [step, load_of_held hheld] at h
    cases h

theorem call_turn (hcallable : p.Callable) (i : Nat) (c : Call) :
    p.Turn (p.call i c).2.2 (.call i c) := by
  rcases hheld : (p.slots i).library with _ | lib
  · rw [call_of_free hheld]
    exact .called (by rw [hheld]; rfl) (fun _ _ => rfl) (if_pos rfl).symm
  · obtain ⟨record, hrecord, hstart⟩ := hcallable i (by rw [hheld]; rfl)
    have hafter : (((p.call i c).2.2).slots i).library = (c.apply lib).1 := by
      rw [call_of_held hrecord hstart hheld]
      exact congrArg Slot.library (setSlot_self ..)
    refine .called ?_ (fun j hj => ?_) ?_
    · rw [hafter, hheld]
      rfl
    · rw [call_of_held hrecord hstart hheld]
      exact congrArg Slot.library (setSlot_of_ne _ _ hj)
    · rw [hafter, hheld, call_of_held hrecord hstart hheld]
      rfl

/-- **Steps.** This is all that a step does to the loads of a session. -/
theorem step_turn (hcallable : p.Callable) (s : Step) : p.Turn (p.step s).2.2 s := by
  cases s with
  | load i r => exact p.load_turn i r
  | call i c => exact call_turn hcallable i c
  | log record => exact .idle (fun _ h => nomatch h) (fun _ _ h => nomatch h) (fun _ => rfl) rfl
  | initLogging name filters host =>
    change p.Turn (p.initLogging name filters host).2.2 (.initLogging name filters host)
    rw [initLogging_eq]
    exact .idle (fun _ h => nomatch h) (fun _ _ h => nomatch h) (fun _ => rfl) rfl
  | setEnvironment value =>
    exact .idle (fun _ h => nomatch h) (fun _ _ h => nomatch h) (fun _ => rfl) rfl
  | print i message =>
    change p.Turn (p.print i message).2.2 (.print i message)
    rw [print_after]
    refine .idle (fun lib h => ?_) (fun _ _ h => nomatch h) (fun _ => rfl) rfl
    rw [step, print] at h
    split at h <;> cases h

theorem Callable.setSlot (hcallable : p.Callable) {s : Slot} (hs : s.Callable) (i : Nat) :
    (p.setSlot i s).Callable := by
  intro j
  by_cases hj : j = i
  · rw [hj, setSlot_self]
    exact hs
  · rw [setSlot_of_ne _ _ hj]
    exact hcallable j

/-- Loads that can be called stay so. -/
theorem Callable.step (hcallable : p.Callable) (s : Step) : (p.step s).2.2.Callable := by
  cases s with
  | load i r =>
    change (p.load i r).2.2.Callable
    rcases hheld : (p.slots i).library with _ | held
    · rcases hload : r.load.result with e | lib
      · rw [load_of_error hheld hload]
        exact Callable.setSlot hcallable (Slot.callable_of_over _) i
      · rw [load_of_ok hheld hload]
        exact Callable.setSlot hcallable (fun _ => ⟨_, rfl, rfl⟩) i
    · rw [load_of_held hheld]
      exact hcallable
  | call i c =>
    change (p.call i c).2.2.Callable
    rcases hheld : (p.slots i).library with _ | lib
    · rw [call_of_free hheld]
      exact hcallable
    · obtain ⟨record, hrecord, hstart⟩ := hcallable i (by rw [hheld]; rfl)
      rw [call_of_held hrecord hstart hheld]
      exact Callable.setSlot hcallable (fun _ => ⟨record, rfl, hstart⟩) i
  | log record => exact hcallable
  | initLogging name filters host => exact hcallable
  | setEnvironment value => exact hcallable
  | print i message =>
    change (p.print i message).2.2.Callable
    rw [print_after]
    exact hcallable

/-! ## Rows of steps -/

/-- A session after a row of steps. -/
def after (p : Session) (steps : List Step) : Session :=
  steps.foldl (fun p s => (p.step s).2.2) p

@[simp] theorem after_nil (p : Session) : p.after [] = p := rfl

@[simp] theorem after_cons (p : Session) (s : Step) (rest : List Step) :
    p.after (s :: rest) = (p.step s).2.2.after rest := rfl

theorem after_append (p : Session) (past rest : List Step) :
    p.after (past ++ rest) = (p.after past).after rest := List.foldl_append

theorem Callable.after (hcallable : p.Callable) (steps : List Step) : (p.after steps).Callable := by
  induction steps generalizing p with
  | nil => exact hcallable
  | cons s rest ih => exact ih (hcallable.step s)

/-- None of the steps is one that `Q` picks, given the session before it. -/
def Never (Q : Session → Step → Prop) (p : Session) (steps : List Step) : Prop :=
  ∀ past s rest, steps = past ++ s :: rest → ¬ Q (p.after past) s

theorem never_nil (Q : Session → Step → Prop) (p : Session) : p.Never Q [] := by
  intro past s rest h
  simp at h

theorem never_cons {Q : Session → Step → Prop} {s : Step} {rest : List Step} :
    p.Never Q (s :: rest) ↔ ¬ Q p s ∧ (p.step s).2.2.Never Q rest := by
  constructor
  · intro h
    refine ⟨h [] s rest rfl, fun past d later hrest => h (s :: past) d later ?_⟩
    rw [hrest, List.cons_append]
  · rintro ⟨hs, hrest⟩ (_ | ⟨a, past⟩) d later h
    · obtain ⟨rfl, -⟩ := List.cons.inj h
      exact hs
    · obtain ⟨rfl, hlater⟩ := List.cons.inj h
      exact hrest past d later hlater

/-- A session in which nothing has been loaded, with any log. -/
def start (g : Logging) : Session := { logging := g }

theorem callable_start (g : Logging) : (start g).Callable := fun _ => Slot.callable_of_over none

end Session

end EngineExtension
