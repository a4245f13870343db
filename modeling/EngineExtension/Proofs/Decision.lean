import EngineExtension.Proofs.Session
import Mathlib.Data.Prod.Lex

/-!
# Which requests are granted

Much can be wrong with a request at once. A load complains of one thing only, and has asked its host
no more than it had to by then. This module says what there is to object to, each objection by
itself, and which of them counts.

* `Request.Objection` — what there is to object to; `LoadError.weight` — the order of objections;
* `Request.load_eq_error_iff` — a load fails for the first objection, and for lack of any succeeds;
* `Host.questions`, `questionsAsked` — the questions to a host, and how many of them a load has
  asked by the time it ends;
* `Request.Alike` — requests between which a load cannot tell;
* `Request.hostActs` — all that a load does to its host, the same in every session
  (`Session.load_forHost`).
-/

namespace EngineExtension

/-! ## Objections -/

/-- What there is to object to in a request. Each objection is judged by itself, whatever else is
wrong. -/
inductive Request.Objection (r : Request) : LoadError → Prop where
  /-- there is no host -/
  | noHost (hhost : r.host = none) : Objection r .noHost
  /-- the host cannot print errors -/
  | noPrinter {h : Host} (hhost : r.host = some h) (hprint : h.provides .printError = false) :
    Objection r (.missing .printError)
  /-- there is no initializer -/
  | noInitializer (hinit : r.initializer = none) : Objection r .noInitializer
  /-- there is no record to fill in -/
  | noRecord (hrecord : r.record = none) : Objection r .noRecord
  /-- the host cannot report its version -/
  | noVersion {h : Host} (hhost : r.host = some h) (hversion : h.provides .getVersion = false) :
    Objection r (.missing .getVersion)
  /-- the host is older than 4.1 by its first two numbers, of which the first counts more -/
  | tooOld {h : Host} (hhost : r.host = some h) {report : VersionReport}
    (hversion : h.version = some report)
    (hold : toLex (report.major, report.minor) < toLex (4, 1)) :
    Objection r (.unsupported report.read.text)

/-- The place of a failure among the objections; those with a lower number count first. The host
need not show warnings, so that failure comes last and is never met. -/
def LoadError.weight : LoadError → Nat
  | noHost => 0
  | missing .printError => 1
  | noInitializer => 2
  | noRecord => 3
  | missing .getVersion => 4
  | unsupported _ => 5
  | missing .printWarning => 6

/-- The objection that counts. -/
def Request.FirstObjection (r : Request) (e : LoadError) : Prop :=
  r.Objection e ∧ ∀ d, r.Objection d → e.weight ≤ d.weight

/-- The check of the version is the comparison of its first two numbers, of which the first counts
more. -/
theorem VersionReport.isSupported_eq_false_iff (report : VersionReport) :
    report.read.isSupported = false ↔ toLex (report.major, report.minor) < toLex (4, 1) := by
  rw [Prod.Lex.toLex_lt_toLex, Version.isSupported, Version.isAtLeast]
  simp only [read, Version.oldest, gt_iff_lt, ge_iff_le, Bool.or_eq_false_iff,
    decide_eq_false_iff_not, Bool.and_eq_false_iff, beq_eq_false_iff_ne]
  omega

namespace Request

variable {r : Request} {e d : LoadError} {signals : List Signal}

/-- No two objections to one request have the same place. -/
theorem Objection.eq_of_weight_eq (he : r.Objection e) (hd : r.Objection d)
    (h : e.weight = d.weight) : e = d := by
  cases he <;> cases hd <;> simp_all [LoadError.weight]

/-- So at most one objection counts. -/
theorem FirstObjection.unique (he : r.FirstObjection e) (hd : r.FirstObjection d) : e = d :=
  he.1.eq_of_weight_eq hd.1 (Nat.le_antisymm (he.2 d hd.1) (hd.2 e he.1))

/-- A load that ends at a check has an objection there, and had none at the checks before. -/
theorem Course.firstObjection (h : r.Course (.error e) signals) : r.FirstObjection e := by
  -- what the earlier checks have found rules out every objection that counts more
  cases h with
  | noHost hhost => exact ⟨.noHost hhost, fun _ _ => Nat.zero_le _⟩
  | noPrinter hhost hprint =>
    refine ⟨.noPrinter hhost hprint, fun d hd => ?_⟩
    cases hd <;> simp_all [LoadError.weight]
  | noInitializer hhost hprint hinit =>
    refine ⟨.noInitializer hinit, fun d hd => ?_⟩
    cases hd <;> simp_all [LoadError.weight]
  | noRecord hhost hprint hinit hrecord =>
    refine ⟨.noRecord hrecord, fun d hd => ?_⟩
    cases hd <;> simp_all [LoadError.weight]
  | noVersion hhost hprint hinit hrecord hversion =>
    refine ⟨.noVersion hhost (by rw [Host.provides, hversion]; rfl), fun d hd => ?_⟩
    cases hd <;> simp_all [LoadError.weight]
  | tooOld hhost hprint hinit hrecord hversion hold =>
    rw [VersionReport.isSupported_eq_false_iff] at hold
    refine ⟨.tooOld hhost hversion hold, fun d hd => ?_⟩
    cases hd <;> simp_all [LoadError.weight, Host.provides]

/-- There is nothing to object to in a request that is granted. -/
theorem Course.not_objection {lib : Library} (h : r.Course (.ok lib) signals) (e : LoadError) :
    ¬ r.Objection e := by
  cases h with
  | granted hhost hprint hinit hrecord hversion hrecent =>
    intro he
    cases he with
    | tooOld hhost' hversion' hold =>
      rw [← VersionReport.isSupported_eq_false_iff] at hold
      simp_all
    | _ => simp_all [Host.provides]

/-- A load fails for the first objection. -/
theorem load_eq_error_iff : r.load.result = .error e ↔ r.FirstObjection e := by
  have hcourse := r.load_course
  constructor
  · intro hload
    rw [hload] at hcourse
    exact hcourse.firstObjection
  · intro he
    rcases hload : r.load.result with d | lib <;> rw [hload] at hcourse
    · rw [he.unique hcourse.firstObjection]
    · exact absurd he.1 (hcourse.not_objection e)

/-- A load succeeds if there is nothing to object to. -/
theorem load_isOk_iff : (∃ lib, r.load.result = .ok lib) ↔ ∀ e, ¬ r.Objection e := by
  have hcourse := r.load_course
  constructor
  · rintro ⟨lib, hload⟩
    rw [hload] at hcourse
    exact hcourse.not_objection
  · intro hnone
    rcases hload : r.load.result with d | lib
    · exact absurd (load_eq_error_iff.mp hload).1 (hnone d)
    · exact ⟨lib, rfl⟩

end Request

/-! ## What a host gets to do with a load -/

/-- A question to a host: for a function, or for its version. -/
def Output.isQuestion : Output → Bool
  | asked .. => true
  | askedVersion _ => true
  | _ => false

/-- A message to a host. -/
def Output.isPrint : Output → Bool
  | printed _ => true
  | _ => false

/-- An output that a host takes part in. -/
def Output.isForHost (o : Output) : Bool := o.isQuestion || o.isPrint

/-- The questions to a host, in order. -/
def Host.questions (h : Host) : List Output :=
  [.asked h.id .printError (h.provides .printError),
    .asked h.id .printWarning (h.provides .printWarning),
    .asked h.id .getVersion (h.provides .getVersion),
    .askedVersion h.id]

/-- The questions that a load may ask: none without a host. -/
def Request.questions (r : Request) : List Output := r.host.elim [] Host.questions

/-- How many questions have been asked when a load ends, by what comes of it. -/
def questionsAsked {α : Type} : Except LoadError α → Nat
  | .error .noHost => 0
  | .error (.missing .printError) => 1
  | .error (.missing .printWarning) => 2
  | .error .noInitializer => 2
  | .error .noRecord => 2
  | .error (.missing .getVersion) => 3
  | .error (.unsupported _) => 4
  | .ok _ => 4

/-- A failure that comes before the host can print. -/
def LoadError.isUnprintable : LoadError → Bool
  | noHost => true
  | missing .printError => true
  | _ => false

/-- What a host that can print is told about a failure: the report, and where it comes from. -/
def Host.told (h : Host) (e : LoadError) : Print :=
  h.printer.error e.report "InitObject::try_init" "gdscaffold-core/src/binding.rs" 104

/-- How a load reports what comes of it: a failure on the console or by the host, a success not at
all. -/
def Request.report {α : Type} (r : Request) : Except LoadError α → List Output
  | .error e =>
    if e.isUnprintable then [.consoleText ("[" ++ r.config.name ++ "] " ++ e.report ++ "\n")]
    else r.host.elim [] fun h => [.printed (h.told e)]
  | .ok _ => []

/-- A host hears the question, but not what is noticed about the answer. -/
theorem Host.asking_output (h : Host) (f : HostFunction) :
    (h.asking f).filterMap Signal.output? = [.asked h.id f (h.provides f)] := by
  rw [asking]
  split <;> rfl

/-- The first questions put to a host are the first questions that it hears. -/
theorem Host.enquiry_output (h : Host) (n : Nat) :
    (h.enquiry n).filterMap Signal.output? = h.questions.take n := by
  have hparts : h.interview.map (List.filterMap Signal.output?) =
      h.questions.map fun o => [o] := by
    simp [interview, questions, asking_output, Signal.output?]
  rw [enquiry, List.filterMap_flatten, List.map_take, hparts, ← List.map_take,
    ← List.flatMap_def, List.flatMap_singleton']

namespace Request

variable {r : Request} {result : Except LoadError Library} {signals : List Signal}

theorem questions_of_host {h : Host} (hhost : r.host = some h) : r.questions = h.questions := by
  rw [questions, hhost]
  rfl

/-- A failure that comes before the host can print is reported on the console. -/
theorem report_of_unprintable {α : Type} {e : LoadError} (he : e.isUnprintable = true) :
    r.report (.error e : Except LoadError α) =
      [.consoleText ("[" ++ r.config.name ++ "] " ++ e.report ++ "\n")] := by
  rw [report, if_pos he]

/-- A failure that comes later is reported by the host. -/
theorem report_of_host {α : Type} {e : LoadError} {h : Host} (hhost : r.host = some h)
    (he : e.isUnprintable = false) :
    r.report (.error e : Except LoadError α) = [.printed (h.told e)] := by
  rw [report, he, hhost]
  rfl

/-- Nothing is seen when a logger is asked for. -/
theorem installation_output (config : Config) (printer : Printer) :
    (installation config printer).filterMap Signal.output? = [] := by
  rw [installation]
  split <;> rfl

/-- What a load that fails once its host can print shows. -/
theorem enquiry_reportToHost_output {h : Host} (hhost : r.host = some h) (e : LoadError)
    (he : e.isUnprintable = false) :
    (h.enquiry (questionsAsked (.error e : Except LoadError Library)) ++
        reportToHost h.printer e).filterMap Signal.output? =
      r.questions.take (questionsAsked (.error e : Except LoadError Library)) ++
        r.report (.error e : Except LoadError Library) := by
  rw [List.filterMap_append, Host.enquiry_output, questions_of_host hhost, report_of_host hhost he]
  rfl

/-- **What a load shows.** It has asked its host the first questions, as many as it had to, and then
reports. -/
theorem Course.output (hcourse : r.Course result signals) :
    signals.filterMap Signal.output? =
      r.questions.take (questionsAsked result) ++ r.report result := by
  cases hcourse with
  | noHost hhost =>
    rw [report_of_unprintable rfl]
    rfl
  | noPrinter hhost =>
    rw [List.filterMap_append, Host.enquiry_output, questions_of_host hhost,
      report_of_unprintable rfl]
    rfl
  | noInitializer hhost => exact enquiry_reportToHost_output hhost .noInitializer rfl
  | noRecord hhost => exact enquiry_reportToHost_output hhost .noRecord rfl
  | noVersion hhost => exact enquiry_reportToHost_output hhost (.missing .getVersion) rfl
  | tooOld hhost => exact enquiry_reportToHost_output hhost (.unsupported _) rfl
  | granted hhost =>
    rw [List.filterMap_append, List.filterMap_append, Host.enquiry_output, installation_output,
      questions_of_host hhost]
    rfl

/-! ## Requests that a load cannot tell apart -/

/-- Two requests with the same host, of which either both or neither have an initializer, and
likewise a record. -/
structure Alike (r s : Request) : Prop where
  host : s.host = r.host
  initializer : s.initializer = none ↔ r.initializer = none
  record : s.record = none ↔ r.record = none

theorem Alike.symm {r s : Request} (h : r.Alike s) : s.Alike r :=
  ⟨h.host.symm, h.initializer.symm, h.record.symm⟩

/-- Whatever there is to object to in one of two requests that are alike, there is in the other. -/
theorem Alike.objection {r s : Request} (h : r.Alike s) {e : LoadError} (he : r.Objection e) :
    s.Objection e := by
  cases he with
  | noHost hhost => exact .noHost (h.host.trans hhost)
  | noPrinter hhost hprint => exact .noPrinter (h.host.trans hhost) hprint
  | noInitializer hinit => exact .noInitializer (h.initializer.mpr hinit)
  | noRecord hrecord => exact .noRecord (h.record.mpr hrecord)
  | noVersion hhost hversion => exact .noVersion (h.host.trans hhost) hversion
  | tooOld hhost hversion hold => exact .tooOld (h.host.trans hhost) hversion hold

/-- The objection that counts is the same. -/
theorem Alike.firstObjection {r s : Request} (h : r.Alike s) {e : LoadError}
    (he : r.FirstObjection e) : s.FirstObjection e :=
  ⟨h.objection he.1, fun d hd => he.2 d (h.symm.objection hd)⟩

/-- So if the load of one fails, that of the other fails for the same reason. -/
theorem Alike.load_eq_error {r s : Request} (h : r.Alike s) {e : LoadError}
    (hload : r.load.result = .error e) : s.load.result = .error e :=
  load_eq_error_iff.mpr (h.firstObjection (load_eq_error_iff.mp hload))

/-- And if the load of one succeeds, so does that of the other. -/
theorem Alike.load_isOk {r s : Request} (h : r.Alike s) {lib : Library}
    (hload : r.load.result = .ok lib) : ∃ lib', s.load.result = .ok lib' :=
  load_isOk_iff.mpr fun e he => load_isOk_iff.mp ⟨lib, hload⟩ e (h.symm.objection he)

/-- What a load comes to, without the state it makes. -/
def verdict (r : Request) : Except LoadError Unit := r.load.result.map fun _ => ()

theorem Alike.verdict_eq {r s : Request} (h : r.Alike s) : s.verdict = r.verdict := by
  rw [verdict, verdict]
  rcases hload : r.load.result with e | lib
  · rw [h.load_eq_error hload]
  · obtain ⟨lib', hload'⟩ := h.load_isOk hload
    rw [hload']
    rfl

end Request

/-! ## The host's part in a load -/

namespace Request

/-- The host takes part in a report only by printing it. -/
theorem report_forHost {α : Type} (r : Request) (result : Except LoadError α) :
    (r.report result).filter Output.isForHost = (r.report result).filter Output.isPrint := by
  rcases result with e | _
  · rw [report]
    split
    · rfl
    · rcases r.host with _ | h <;> rfl
  · rfl

/-- What a load may ask is questions. -/
theorem isQuestion_of_mem_questions {r : Request} {o : Output} (ho : o ∈ r.questions) :
    o.isQuestion = true := by
  rcases hhost : r.host with _ | h
  · rw [questions, hhost] at ho
    cases ho
  · rw [questions_of_host hhost] at ho
    simp only [Host.questions, List.mem_cons, List.not_mem_nil, or_false] at ho
    rcases ho with rfl | rfl | rfl | rfl <;> rfl

/-- A host takes part in every question. -/
theorem questions_forHost (r : Request) (n : Nat) :
    (r.questions.take n).filter Output.isForHost = r.questions.take n := by
  refine List.filter_eq_self.mpr fun o ho => ?_
  rw [Output.isForHost, isQuestion_of_mem_questions (List.mem_of_mem_take ho), Bool.true_or]

/-- All that a load does to its host: it asks the first questions, and prints a failure. -/
def hostActs (r : Request) : List Output :=
  r.questions.take (questionsAsked r.load.result) ++
    (r.report r.load.result).filter Output.isPrint

/-- The console may hear different names, but the host hears the same. -/
theorem Alike.report_isPrint {α : Type} {r s : Request} (h : r.Alike s) (e : LoadError) :
    (s.report (.error e : Except LoadError α)).filter Output.isPrint =
      (r.report (.error e : Except LoadError α)).filter Output.isPrint := by
  rw [report, report, h.host]
  split <;> rfl

/-- With two requests that are alike, a host gets to do the same. -/
theorem Alike.hostActs_eq {r s : Request} (h : r.Alike s) : s.hostActs = r.hostActs := by
  have hquestions : s.questions = r.questions := by rw [questions, questions, h.host]
  rw [hostActs, hostActs, hquestions]
  rcases hload : r.load.result with e | lib
  · rw [h.load_eq_error hload, h.report_isPrint]
  · obtain ⟨lib', hload'⟩ := h.load_isOk hload
    rw [hload']
    rfl

end Request

/-- A host takes no part in what a log writes. -/
theorem Output.isForHost_of_isLogged (o : Output) (h : o.isLogged = true) :
    o.isForHost = false := by
  cases o <;> first | rfl | cases h

/-- What a host gets to do with a load does not depend on the session in which it is tried. -/
theorem Session.load_forHost {p : Session} {i : Nat} {r : Request}
    (hfree : (p.slots i).library = none) :
    (p.load i r).2.1.filter Output.isForHost = r.hostActs := by
  rw [← Output.filter_unlogged Output.isForHost_of_isLogged, load_unlogged hfree,
    r.load_course.output, List.filter_append, Request.questions_forHost, Request.report_forHost,
    Request.hostActs]

/-- **The first objection decides.** In any session, a load into a free slot fails for the first
thing that there is to object to, and succeeds if there is none. It asks its host the first of four
questions, as many as it takes to come to that end, each once and in order; after them it can only
print a failure. Nor is there more to it: two loads, in any two sessions, that have the same host
and lack the same come to the same end and do the same to their host, whatever their terminators,
tokens, minimum levels and configurations, and whatever the log. -/
theorem load_decided_by_first_objection {p : Session} {i : Nat} {r : Request}
    (hfree : (p.slots i).library = none) :
    (p.load i r).1 = .loaded r.load.result ∧
    (∀ e, r.load.result = .error e ↔ r.FirstObjection e) ∧
    ((∃ lib, r.load.result = .ok lib) ↔ ∀ e, ¬ r.Objection e) ∧
    (p.load i r).2.1.filter Output.isForHost =
      r.questions.take (questionsAsked r.load.result) ++
        (r.report r.load.result).filter Output.isPrint ∧
    ∀ (q : Session) (j : Nat) (s : Request), (q.slots j).library = none → r.Alike s →
      s.verdict = r.verdict ∧ (q.load j s).1 = .loaded s.load.result ∧
        (q.load j s).2.1.filter Output.isForHost = (p.load i r).2.1.filter Output.isForHost := by
  refine ⟨Session.load_answer hfree, fun e => Request.load_eq_error_iff, Request.load_isOk_iff,
    Session.load_forHost hfree, ?_⟩
  intro q j s hfree' halike
  refine ⟨halike.verdict_eq, Session.load_answer hfree', ?_⟩
  rw [Session.load_forHost hfree', Session.load_forHost hfree, halike.hostActs_eq]

/-- A session in which every record goes to the console, and grave ones to a host, number 7. -/
def Session.forwarding : Session where
  logging :=
    { backend := some (.dispatch
        ⟨"Elder", ⟨.upTo .trace, .upTo .trace⟩, some ⟨7, true⟩⟩)
      threshold := .upTo .trace }

/-- A request without initializer and record, from a host that shows no warnings and is too old. -/
def Request.deficient : Request where
  host := some { id := 3, printsErrors := true, version := some { major := 3, minor := 9 } }
  token := 0
  record := none

/-- Of three objections the lack of an initializer counts, after two questions; the same happens in
a new session to a request with another token, minimum level and configuration. -/
theorem load_decided_by_first_objection_deficient :
    (Session.forwarding.slots 0).library = none ∧ (({} : Session).slots 5).library = none ∧
    Request.deficient.Objection .noRecord ∧ Request.deficient.FirstObjection .noInitializer ∧
    (Session.forwarding.load 0 .deficient).2.1.filter Output.isForHost =
      [.asked 3 .printError true, .asked 3 .printWarning false,
        .printed (Printer.error ⟨3, false⟩ (LoadError.report .noInitializer)
          "InitObject::try_init" "gdscaffold-core/src/binding.rs" 104)] ∧
    (({} : Session).load 5 { Request.deficient with
        token := 9, minimum := .editor, config := ({} : Config).withoutLogger }).2.1.filter
      Output.isForHost = (Session.forwarding.load 0 .deficient).2.1.filter Output.isForHost := by
  have h := load_decided_by_first_objection (p := Session.forwarding) (i := 0)
    (r := .deficient) rfl
  exact ⟨rfl, rfl, .noRecord rfl, (h.2.1 _).mp rfl, h.2.2.2.1,
    (h.2.2.2.2 {} 5 _ rfl ⟨rfl, Iff.rfl, Iff.rfl⟩).2.2⟩

end EngineExtension
