import EngineExtension.Load

/-!
# How a load goes

A load makes its checks one after the other and ends at the first that fails. This module says once
what each check does, and from that all the ways in which a load can go; whatever holds of every
load is then shown one way at a time.

* `Host.interview`, `Host.enquiry` — what it sends to ask a host all questions of a load, or the
  first of them;
* `Printer.resolve_of_found`, `Host.supportedVersion_of_recent` and their companions — the outcome
  of each check;
* `Request.Course` — the six ways to fail and the one to succeed, with what is sent on each;
* `Request.load_course` — every load takes one of them;
* `Request.load_eq_ok` — the state that a successful load begins with.
-/

namespace EngineExtension

/-! ## Rows of checks -/

namespace Attempt

variable {α β : Type}

@[simp] theorem pure_eq (a : α) : (pure a : Attempt α) = ⟨.ok a, []⟩ := rfl

/-- A row of checks goes on after one that passes. -/
@[simp] theorem ok_bind (a : α) (sent : List Signal) (f : α → Attempt β) :
    (⟨.ok a, sent⟩ : Attempt α) >>= f = ⟨(f a).result, sent ++ (f a).signals⟩ := rfl

/-- A row of checks ends at one that fails. -/
@[simp] theorem error_bind (e : LoadError) (sent : List Signal) (f : α → Attempt β) :
    (⟨.error e, sent⟩ : Attempt α) >>= f = ⟨.error e, sent⟩ := rfl

/-- An attempt that fails outright sends nothing. -/
@[simp] theorem fail_eq (e : LoadError) : (fail e : Attempt α) = ⟨.error e, []⟩ := rfl

/-- Sending cannot fail. -/
@[simp] theorem send_eq (sent : List Signal) : send sent = ⟨.ok (), sent⟩ := rfl

/-- A condition that is met sends nothing and lets the attempt go on. -/
@[simp] theorem require_true (e : LoadError) : require true e = ⟨.ok (), []⟩ := rfl

/-- A condition that is not met ends the attempt, and sends nothing either. -/
@[simp] theorem require_false (e : LoadError) : require false e = ⟨.error e, []⟩ := rfl

/-- A report is for a failure only. -/
@[simp] theorem ok_onFailure (a : α) (sent : List Signal) (report : LoadError → List Signal) :
    (⟨.ok a, sent⟩ : Attempt α).onFailure report = ⟨.ok a, sent⟩ := rfl

/-- The report of a failure comes after all that was sent before it. -/
@[simp] theorem error_onFailure (e : LoadError) (sent : List Signal)
    (report : LoadError → List Signal) :
    (⟨.error e, sent⟩ : Attempt α).onFailure report = ⟨.error e, sent ++ report e⟩ := rfl

end Attempt

/-! ## Asking a host -/

namespace Host

/-- What it sends to ask a host for a function. A function that is missing is noticed. -/
def asking (h : Host) (f : HostFunction) : List Signal :=
  .asked h.id f (h.provides f) :: if h.provides f then [] else [.notice (.missingFunction f)]

/-- All that a host is asked by a load, one question after the other: for its three functions, and
for its version. -/
def interview (h : Host) : List (List Signal) :=
  [h.asking .printError, h.asking .printWarning, h.asking .getVersion, [.askedVersion h.id]]

/-- What it sends to ask a host the first questions only. -/
def enquiry (h : Host) (questions : Nat) : List Signal := (h.interview.take questions).flatten

/-- The printer that a load finds with a host. -/
def printer (h : Host) : Printer := ⟨h.id, h.provides .printWarning⟩

/-- Looking a function up never fails: it says whether the function is there. -/
theorem lookUp_eq (h : Host) (f : HostFunction) :
    h.lookUp f = ⟨.ok (h.provides f), h.asking f⟩ := by
  rcases hf : h.provides f with _ | _ <;> simp [lookUp, asking, hf]

end Host

namespace Printer

variable {h : Host}

/-- Without a host there is no printer, and nobody is asked. -/
theorem resolve_none : resolve none = ⟨.error .noHost, []⟩ := rfl

/-- A host that cannot print errors is asked nothing more. -/
theorem resolve_of_missing (hprint : h.provides .printError = false) :
    resolve (some h) = ⟨.error (.missing .printError), h.enquiry 1⟩ := by
  simp [resolve, Host.lookUp_eq, hprint, Host.enquiry, Host.interview]

/-- A host that prints errors is asked for warnings too, but need not print these. -/
theorem resolve_of_found (hprint : h.provides .printError = true) :
    resolve (some h) = ⟨.ok h.printer, h.enquiry 2⟩ := by
  simp [resolve, Host.lookUp_eq, hprint, Host.printer, Host.enquiry, Host.interview]

end Printer

namespace Host

variable {h : Host}

theorem enquiry_three (h : Host) : h.enquiry 3 = h.enquiry 2 ++ h.asking .getVersion := by
  simp [enquiry, interview]

theorem enquiry_four (h : Host) :
    h.enquiry 4 = h.enquiry 2 ++ (h.asking .getVersion ++ [.askedVersion h.id]) := by
  simp [enquiry, interview]

/-- What it sends to ask a host questions: the questions, and notices of what is missing. -/
theorem mem_enquiry {questions : Nat} {s : Signal} (hs : s ∈ h.enquiry questions) :
    (∃ f found, s = .asked h.id f found) ∨ (∃ f, s = .notice (.missingFunction f)) ∨
      s = .askedVersion h.id := by
  have hasking : ∀ f, s ∈ h.asking f →
      s = .asked h.id f (h.provides f) ∨ s = .notice (.missingFunction f) := by
    intro f hs
    rcases List.mem_cons.mp hs with hs | hs
    · exact .inl hs
    · split at hs
      · cases hs
      · exact .inr (List.mem_singleton.mp hs)
  obtain ⟨part, hpart, hs⟩ := List.mem_flatten.mp hs
  have hpart := List.mem_of_mem_take hpart
  simp only [interview, List.mem_cons, List.not_mem_nil, or_false] at hpart
  rcases hpart with rfl | rfl | rfl | rfl
  · exact (hasking _ hs).imp (fun h => ⟨_, _, h⟩) fun h => .inl ⟨_, h⟩
  · exact (hasking _ hs).imp (fun h => ⟨_, _, h⟩) fun h => .inl ⟨_, h⟩
  · exact (hasking _ hs).imp (fun h => ⟨_, _, h⟩) fun h => .inl ⟨_, h⟩
  · exact .inr (.inr (List.mem_singleton.mp hs))

/-- A host that does not tell its version is not asked for it. -/
theorem supportedVersion_of_missing (hversion : h.version = none) :
    supportedVersion (some h) = ⟨.error (.missing .getVersion), h.asking .getVersion⟩ := by
  simp [supportedVersion, lookUp_eq, hversion]

/-- A version that is too old is named in the failure. -/
theorem supportedVersion_of_old {report : VersionReport} (hversion : h.version = some report)
    (hold : report.read.isSupported = false) :
    supportedVersion (some h) =
      ⟨.error (.unsupported report.read.text), h.asking .getVersion ++ [.askedVersion h.id]⟩ := by
  simp [supportedVersion, lookUp_eq, hversion, hold]

/-- A version that is recent enough is the one that the load goes on with. -/
theorem supportedVersion_of_recent {report : VersionReport} (hversion : h.version = some report)
    (hrecent : report.read.isSupported = true) :
    supportedVersion (some h) =
      ⟨.ok report.read, h.asking .getVersion ++ [.askedVersion h.id]⟩ := by
  simp [supportedVersion, lookUp_eq, hversion, hrecent]

end Host

/-! ## The ways in which a load can go -/

namespace Request

/-- A request without an initializer fails by that, and asks nobody. -/
theorem requireInitializer_of_none {r : Request} (hinit : r.initializer = none) :
    r.requireInitializer = ⟨.error .noInitializer, []⟩ := by
  rw [requireInitializer, hinit]
  rfl

theorem requireInitializer_of_some {r : Request} {initializer : Callback}
    (hinit : r.initializer = some initializer) : r.requireInitializer = ⟨.ok initializer, []⟩ := by
  rw [requireInitializer, hinit]
  rfl

/-- The ways in which a load can go: what it finds out in turn, what comes of it, and what it sends
on the way. -/
inductive Course (r : Request) : Except LoadError Library → List Signal → Prop where
  /-- there is no host -/
  | noHost (hhost : r.host = none) :
    Course r (.error .noHost) (r.reportToConsole .noHost)
  /-- the host cannot print -/
  | noPrinter {h : Host} (hhost : r.host = some h) (hprint : h.provides .printError = false) :
    Course r (.error (.missing .printError))
      (h.enquiry 1 ++ r.reportToConsole (.missing .printError))
  /-- the request has no initializer -/
  | noInitializer {h : Host} (hhost : r.host = some h) (hprint : h.provides .printError = true)
    (hinit : r.initializer = none) :
    Course r (.error .noInitializer) (h.enquiry 2 ++ reportToHost h.printer .noInitializer)
  /-- there is no record to fill in -/
  | noRecord {h : Host} (hhost : r.host = some h) (hprint : h.provides .printError = true)
    {initializer : Callback} (hinit : r.initializer = some initializer)
    (hrecord : r.record = none) :
    Course r (.error .noRecord) (h.enquiry 2 ++ reportToHost h.printer .noRecord)
  /-- the host has no version to report -/
  | noVersion {h : Host} (hhost : r.host = some h) (hprint : h.provides .printError = true)
    {initializer : Callback} (hinit : r.initializer = some initializer)
    {record : InitRecord} (hrecord : r.record = some record) (hversion : h.version = none) :
    Course r (.error (.missing .getVersion))
      (h.enquiry 3 ++ reportToHost h.printer (.missing .getVersion))
  /-- the host is too old -/
  | tooOld {h : Host} (hhost : r.host = some h) (hprint : h.provides .printError = true)
    {initializer : Callback} (hinit : r.initializer = some initializer)
    {record : InitRecord} (hrecord : r.record = some record)
    {report : VersionReport} (hversion : h.version = some report)
    (hold : report.read.isSupported = false) :
    Course r (.error (.unsupported report.read.text))
      (h.enquiry 4 ++ reportToHost h.printer (.unsupported report.read.text))
  /-- nothing is wrong -/
  | granted {h : Host} (hhost : r.host = some h) (hprint : h.provides .printError = true)
    {initializer : Callback} (hinit : r.initializer = some initializer)
    {record : InitRecord} (hrecord : r.record = some record)
    {report : VersionReport} (hversion : h.version = some report)
    (hrecent : report.read.isSupported = true) :
    Course r
      (.ok {
        printer := h.printer
        version := report.read
        token := r.token
        initializer
        terminator := r.terminator
        minimum := r.minimum })
      (h.enquiry 4 ++ (installation r.config h.printer ++
        [.notice (.loading r.config.name report.read r.minimum), .counted,
          .filled (.filled r.minimum)]))

/-- **Every load takes one of these courses.** -/
theorem load_course (r : Request) : r.Course r.load.result r.load.signals := by
  change r.Course r.attempt.result r.attempt.signals
  -- the cases are split in the order of the checks; each check that passes opens the next
  rcases hhost : r.host with _ | h
  · simpa [attempt, hhost, Printer.resolve_none] using Course.noHost hhost
  rcases hprint : h.provides .printError with _ | _
  · simpa [attempt, hhost, Printer.resolve_of_missing hprint] using Course.noPrinter hhost hprint
  have hresolve := Printer.resolve_of_found hprint
  rcases hinit : r.initializer with _ | initializer
  · simpa [attempt, finish, hhost, hresolve, requireInitializer_of_none hinit] using
      Course.noInitializer hhost hprint hinit
  have hrequire := requireInitializer_of_some hinit
  rcases hrecord : r.record with _ | record
  · simpa [attempt, finish, hhost, hresolve, hrequire, hrecord] using
      Course.noRecord hhost hprint hinit hrecord
  rcases hversion : h.version with _ | report
  · simpa [attempt, finish, hhost, hresolve, hrequire, hrecord,
      Host.supportedVersion_of_missing hversion, Host.enquiry_three] using
      Course.noVersion hhost hprint hinit hrecord hversion
  rcases hsupported : report.read.isSupported with _ | _
  · simpa [attempt, finish, hhost, hresolve, hrequire, hrecord,
      Host.supportedVersion_of_old hversion hsupported, Host.enquiry_four] using
      Course.tooOld hhost hprint hinit hrecord hversion hsupported
  · simpa [attempt, finish, hhost, hresolve, hrequire, hrecord,
      Host.supportedVersion_of_recent hversion hsupported, Host.enquiry_four] using
      Course.granted hhost hprint hinit hrecord hversion hsupported

/-! ## What a successful load begins with -/

/-- **A successful load starts afresh.** Its state is made from the request and the host, no level
has been started, and its registry is empty and at no level. -/
theorem load_eq_ok {r : Request} {lib : Library} (h : r.load.result = .ok lib) :
    ∃ host report initializer record, r.host = some host ∧ host.version = some report ∧
      r.initializer = some initializer ∧ r.record = some record ∧
      lib = {
        printer := host.printer
        version := report.read
        token := r.token
        initializer
        terminator := r.terminator
        minimum := r.minimum } := by
  have hcourse := r.load_course
  rw [h] at hcourse
  generalize r.load.signals = signals at hcourse
  cases hcourse with
  | granted hhost _ hinit hrecord hversion =>
    exact ⟨_, _, _, _, hhost, hversion, hinit, hrecord, rfl⟩

/-- A load begins with no level initialized. -/
theorem lowest_of_load {r : Request} {lib : Library} (h : r.load.result = .ok lib) :
    lib.lowest = none := by
  obtain ⟨_, _, _, _, -, -, -, -, rfl⟩ := load_eq_ok h
  rfl

/-- A load begins with no class and no level in its registry. -/
theorem registry_of_load {r : Request} {lib : Library} (h : r.load.result = .ok lib) :
    lib.registry = {} := by
  obtain ⟨_, _, _, _, -, -, -, -, rfl⟩ := load_eq_ok h
  rfl

end Request

end EngineExtension
