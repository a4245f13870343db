import EngineExtension.Proofs.Decision
import EngineExtension.Proofs.HostText

/-!
# Failures are reported once

A load that fails says so: on the console as long as its host cannot print, and by its host after
that, when it tells the log as well. This module shows that it says so exactly once past the log, in
the right place and in full, and that the log adds nothing to it that a host could hear.

* `Output.isReport` — what a load says by itself, past the log;
* `Session.load_reports` — it says one thing, whatever the session;
* `Request.Course.nul_notMem_report` — and can say all of it to a host, whatever that gave for its
  version.
-/

namespace EngineExtension

/-- A message to a host, or a text for the console that comes from no log. -/
def Output.isReport : Output → Bool
  | printed _ => true
  | consoleText _ => true
  | _ => false

/-- What a log writes is no report of a load. -/
theorem Output.isReport_of_isLogged (o : Output) (h : o.isLogged = true) : o.isReport = false := by
  cases o <;> first | rfl | cases h

namespace Request

variable {r : Request} {e : LoadError} {signals : List Signal}

/-- Questions are no report either. -/
theorem questions_isReport (r : Request) (n : Nat) :
    (r.questions.take n).filter Output.isReport = [] := by
  refine List.filter_eq_nil_iff.mpr fun o ho => ?_
  have hquestion := isQuestion_of_mem_questions (List.mem_of_mem_take ho)
  cases o <;> first | exact Bool.false_ne_true | cases hquestion

theorem report_isReport {α : Type} (r : Request) (result : Except LoadError α) :
    (r.report result).filter Output.isReport = r.report result := by
  rcases result with e | _
  · rw [report]
    split
    · rfl
    · rcases r.host with _ | h <;> rfl
  · rfl

/-- A load that fails where it can print has a host to print to. -/
theorem Course.exists_host (h : r.Course (.error e) signals) (he : e.isUnprintable = false) :
    ∃ host, r.host = some host := by
  cases h with
  | noHost => cases he
  | noPrinter hhost => exact ⟨_, hhost⟩
  | noInitializer hhost => exact ⟨_, hhost⟩
  | noRecord hhost => exact ⟨_, hhost⟩
  | noVersion hhost => exact ⟨_, hhost⟩
  | tooOld hhost => exact ⟨_, hhost⟩

/-- A load that fails names no version but one its host reported, so its report holds no NUL. -/
theorem Course.nul_notMem_report (h : r.Course (.error e) signals) : '\x00' ∉ e.report.toList := by
  refine LoadError.nul_notMem_report fun found hfound => ?_
  subst hfound
  cases h with
  | tooOld => exact VersionReport.nul_notMem_text _

/-- A failure that comes before the host can print is no matter for the log. -/
theorem Course.loadFailed_notMem (h : r.Course (.error e) signals) (he : e.isUnprintable = true)
    (d : LoadError) : .notice (.loadFailed d) ∉ signals := by
  cases h with
  | noHost => simp [reportToConsole]
  | noPrinter _ hprint =>
    simp [reportToConsole, Host.enquiry, Host.interview, Host.asking, hprint]
  | _ => cases he

end Request

/-- What a load says past the log is its report. -/
theorem Session.load_reports {p : Session} {i : Nat} {r : Request}
    (hfree : (p.slots i).library = none) :
    (p.load i r).2.1.filter Output.isReport = r.report r.load.result := by
  rw [← Output.filter_unlogged Output.isReport_of_isLogged, load_unlogged hfree,
    r.load_course.output, List.filter_append, Request.questions_isReport, Request.report_isReport,
    List.nil_append]

/-- The last that a host hears of a load that fails is the report. -/
theorem Session.load_forHost_getLast? {p : Session} {i : Nat} {r : Request} {host : Host}
    {e : LoadError} (hfree : (p.slots i).library = none) (hload : r.load.result = .error e)
    (hhost : r.host = some host) (he : e.isUnprintable = false) :
    ((p.load i r).2.1.filter Output.isForHost).getLast? = some (.printed (host.told e)) := by
  rw [load_forHost hfree, Request.hostActs, hload, Request.report_of_host hhost he]
  exact List.getLast?_concat

/-- A host cannot print what is wrong only if it is not there, or has no function for that. -/
theorem LoadError.isUnprintable_iff {e : LoadError} :
    e.isUnprintable = true ↔ e = .noHost ∨ e = .missing .printError := by
  rcases e with _ | _ | _ | (_ | _ | _) | _ <;> simp [isUnprintable]

/-- **Failures are reported once.** Take any session and any load that fails. If there is no host,
or none that prints errors, one line on the console says so; no host is given a message and the log
is not told. Any other failure is reported by one message, the last that happens to any host: an
error, printed by the load's own host, with the whole text of the failure, to the last character.
Where the log of the session goes makes no difference. -/
theorem failed_load_reported_once {p : Session} {i : Nat} {r : Request} {e : LoadError}
    (hfailed : (p.load i r).1 = .loaded (.error e)) :
    (e = .noHost ∨ e = .missing .printError →
      (p.load i r).2.1.filter Output.isReport =
          [.consoleText ("[" ++ r.config.name ++ "] " ++
            ("GDExtension init failed: " ++ e.message) ++ "\n")] ∧
        ∀ d, .notice (.loadFailed d) ∉ r.load.signals) ∧
    (¬ (e = .noHost ∨ e = .missing .printError) →
      ∃ host print, r.host = some host ∧
        (p.load i r).2.1.filter Output.isReport = [.printed print] ∧
        ((p.load i r).2.1.filter Output.isForHost).getLast? = some (.printed print) ∧
        print.channel = .error ∧ print.host = host.id ∧
        print.description.bytes =
          Text.encode ("GDExtension init failed: " ++ e.message).toList) := by
  obtain ⟨hfree, hload⟩ := Session.load_eq_loaded hfailed
  have hcourse := r.load_course
  rw [hload] at hcourse
  have hreports := Session.load_reports (r := r) hfree
  rw [hload] at hreports
  rw [← LoadError.isUnprintable_iff]
  constructor
  · intro he
    rw [hreports, Request.report_of_unprintable he]
    exact ⟨rfl, hcourse.loadFailed_notMem he⟩
  · intro he
    have he := eq_false_of_ne_true he
    obtain ⟨host, hhost⟩ := hcourse.exists_host he
    rw [hreports, Request.report_of_host hhost he]
    exact ⟨host, host.told e, hhost, rfl, Session.load_forHost_getLast? hfree hload hhost he, rfl,
      rfl, HostText.ofString_bytes hcourse.nul_notMem_report⟩

/-- The report of an old version, with a text that is no UTF-8. -/
def VersionReport.broken : VersionReport where
  major := 3
  text := some [0x33, 0xE2, 0x82, 0xFF, 0x00, 0x34]

/-- A request from a host that is too old and gives broken bytes for its version. -/
def Request.fromBrokenHost : Request where
  host := some { id := 3, printsErrors := true, version := some .broken }
  token := 0
  record := some {}
  initializer := some fun _ => pure ()

/-- With a log that goes to another host, a host that is too old and gives broken bytes for its
version gets one message, which shows these bytes as far as they can be read. Without a host, the
console gets one line. -/
theorem failed_load_reported_once_broken_version :
    (∃ e print, (Session.forwarding.load 0 .fromBrokenHost).1 = .loaded (.error e) ∧
      (Session.forwarding.load 0 .fromBrokenHost).2.1.filter Output.isReport = [.printed print] ∧
      print.host = 3 ∧
      print.description.bytes = Text.encode
        ("GDExtension init failed: cannot load a GDExtension built for Godot 4.1 using an older " ++
          "version of Godot (3\uFFFD\uFFFD)").toList) ∧
    (Session.forwarding.load 0 { Request.fromBrokenHost with host := none }).1 =
      .loaded (.error .noHost) ∧
    (Session.forwarding.load 0 { Request.fromBrokenHost with host := none }).2.1.filter
        Output.isReport =
      [.consoleText
        "[gdextension] GDExtension init failed: host passed a null get_proc_address\n"] := by
  constructor
  · have hanswer : (Session.forwarding.load 0 .fromBrokenHost).1 =
        .loaded (.error (.unsupported "3\uFFFD\uFFFD")) := by
      have hversion : VersionReport.broken.read.text = "3\uFFFD\uFFFD" := by decide +kernel
      rw [← hversion]
      rfl
    obtain ⟨host, print, hhost, hreport, -, -, hprint, htext⟩ :=
      (failed_load_reported_once hanswer).2 (by decide)
    obtain rfl := Option.some.inj hhost
    exact ⟨_, print, hanswer, hreport, hprint, htext⟩
  · exact ⟨rfl, ((failed_load_reported_once rfl).1 (.inl rfl)).1⟩

end EngineExtension
