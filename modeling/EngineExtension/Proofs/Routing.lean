import EngineExtension.Proofs.Forwarding

/-!
# The way of a record

A record that is logged meets filters on its way. In front of all stands the threshold of the
process, one number that knows nothing of targets. Behind it is the logger, and that is a tree: the
filter of the record's target comes first, and from there one branch leads to the console and, if
there is a printer, another to a host. The branch to the host has a filter of its own.

* `Log.Chain` — trees of filters with outputs at their leaves, and `Log.Dispatch.chain`, the tree
  that is a logger. What a logger makes of a record is what comes out at the leaves
  (`Log.Dispatch.emit_eq_chain`);
* `Log.PrintsAs` — a record as it reaches a host, in terms of the bytes and numbers the host is
  given;
* `Output.written_console` — a record as it reaches the console, which is one line of text;
* `dispatch_routes_record` — what comes out, and in which order;
* `threshold_hides_nothing` — the threshold could be taken away and nobody would see it.
-/

namespace EngineExtension

namespace Log

/-! ## Trees of filters -/

/-- Where records go. -/
inductive Chain where
  /-- the record is written -/
  | output (write : Record → Emission)
  /-- if the record is within the filter of its target, it goes on to all branches, in order -/
  | filtered (filterFor : String → Filter) (branches : List Chain)

namespace Chain

mutual

/-- What comes out of a tree for a record. -/
def emit : Chain → Record → List Emission
  | output write, r => [write r]
  | filtered filterFor branches, r =>
    if (filterFor r.target).allows r.severity then emitAll branches r else []

/-- What comes out of branches, one after the other. -/
def emitAll : List Chain → Record → List Emission
  | [], _ => []
  | c :: rest, r => emit c r ++ emitAll rest r

end

/-- One output behind one filter. -/
theorem emit_branch (filterFor : String → Filter) (write : Record → Emission) (r : Record) :
    (filtered filterFor [output write]).emit r =
      if (filterFor r.target).allows r.severity then [write r] else [] := by
  simp [emit, emitAll]

end Chain

theorem Filter.allows_trace (s : Severity) : (upTo .trace).allows s = true := by
  cases s <;> rfl

namespace Dispatch

/-- The branch to the console, which lets everything through. -/
def consoleBranch (d : Dispatch) : Chain :=
  .filtered (fun _ => .upTo .trace)
    [.output fun r => .console ⟨d.name, r.severity, r.target, r.message⟩]

/-- The branch to a host. -/
def hostBranch (p : Printer) : Chain :=
  .filtered (fun _ => hostFilter) [.output fun r => .print (print p r)]

/-- A logger as a tree. -/
def chain (d : Dispatch) : Chain :=
  .filtered d.filterFor (d.consoleBranch :: (d.printer.map hostBranch).toList)

/-- What a logger makes of a record is what comes out of its tree. -/
theorem emit_eq_chain (d : Dispatch) (r : Record) : d.emit r = d.chain.emit r := by
  have hconsole : d.consoleBranch.emit r =
      [.console ⟨d.name, r.severity, r.target, r.message⟩] := by
    rw [consoleBranch, Chain.emit_branch, if_pos (Filter.allows_trace _)]
  have hhost : Chain.emitAll (d.printer.map hostBranch).toList r = d.emitToHost r := by
    rw [emitToHost]
    rcases d.printer with _ | p
    · rfl
    · change (hostBranch p).emit r ++ [] = _
      rw [hostBranch, Chain.emit_branch, List.append_nil]
  rw [emit, chain, Chain.emit, Chain.emitAll, hconsole, hhost]
  rfl

end Dispatch

/-! ## Records at a host -/

/-- A text as it reaches a host: its bytes, with every NUL left out. -/
def Carries (t : HostText) (s : String) : Prop :=
  t.bytes = Text.encode (s.toList.filter (· ≠ '\x00'))

/-- A record as it reaches the host of a printer. What a record does not tell is empty or zero. -/
structure PrintsAs (p : Printer) (r : Record) (x : Print) : Prop where
  host : x.host = p.host
  /-- an error is shown as an error, and so is anything at a host that shows no warnings -/
  channel : x.channel = if r.severity = .error ∨ p.showsWarnings = false then .error else .warning
  description : Carries x.description r.message
  function : Carries x.function (r.modulePath.getD "")
  file : Carries x.file (r.file.getD "")
  /-- the greatest number that a host takes is `2 ^ 31 - 1` -/
  line : x.line = min (r.line.getD 0) 2147483647
  notify : wireFlag x.notify = 0

theorem Record.isGrave_iff (r : Record) :
    r.isGrave = true ↔ r.severity = .warn ∨ r.severity = .error := by
  rw [isGrave]
  rcases r.severity with _ | _ | _ | _ | _ <;> simp

theorem Dispatch.printsAs_print (p : Printer) (r : Record) : PrintsAs p r (print p r) := by
  obtain ⟨severity, target, message, modulePath, file, line⟩ := r
  obtain ⟨host, showsWarnings⟩ := p
  constructor
  · cases severity <;> rfl
  · cases severity <;> cases showsWarnings <;> rfl
  all_goals cases severity <;> rfl

/-- What goes down the branch to the host: one message if there is a printer and the record is
grave, and none otherwise. -/
theorem Dispatch.exists_prints (d : Dispatch) (r : Record) :
    ∃ prints : List Print, d.emitToHost r = prints.map .print ∧
      (∀ p, d.printer = some p → r.severity = .warn ∨ r.severity = .error →
        ∃ x, prints = [x] ∧ PrintsAs p r x) ∧
      (d.printer = none ∨ ¬(r.severity = .warn ∨ r.severity = .error) → prints = []) := by
  simp only [emitToHost, ← r.isGrave_eq, ← r.isGrave_iff]
  rcases d.printer with _ | p
  · exact ⟨[], rfl, by simp, fun _ => rfl⟩
  · rcases r.isGrave with _ | _
    · exact ⟨[], rfl, by simp, fun _ => rfl⟩
    · refine ⟨[print p r], rfl, ?_, by simp⟩
      intro q hq _
      obtain rfl := Option.some.inj hq
      exact ⟨_, rfl, printsAs_print p r⟩

end Log

/-! ## Records on the console -/

/-- Messages to a host write nothing on the console. -/
theorem Output.written_prints (time : String) (prints : List Print) :
    written time ((prints.map Log.Emission.print).map ofEmission) = "" := by
  induction prints with
  | nil => rfl
  | cons print prints ih =>
    rw [written, List.map_cons, List.map_cons, List.map_cons, String.join_cons]
    exact congrArg ("" ++ ·) ih

/-- One line for the console, and messages to a host after it, write the text of that line. -/
theorem Output.written_console (time : String) (line : Log.ConsoleLine) (prints : List Print) :
    written time ((.console line :: prints.map Log.Emission.print).map ofEmission) =
      line.render time := by
  rw [written, List.map_cons, List.map_cons, String.join_cons]
  change line.render time ++ written time ((prints.map Log.Emission.print).map ofEmission) = _
  rw [written_prints, String.append_empty]

/-- **The way of a record.** Take any logger and any record. If the record is within the filter of
its target, it is enabled: it becomes one line on the console, and after that one message to the
host if there is a printer and the record is a warning or an error, and none otherwise. The line
holds the time, the name of the extension, the severity in its colour, the target and the message.
If the record is not within that filter, it is not enabled and nothing comes of it. It is the same
as sending the record down the tree of filters that the logger is made of. -/
theorem dispatch_routes_record (d : Log.Dispatch) (r : Log.Record) :
    d.emit r = d.chain.emit r ∧
    ((d.filterFor r.target).allows r.severity = true →
      d.isEnabled r.severity r.target = true ∧
      ∃ prints : List Print,
        d.emit r = .console ⟨d.name, r.severity, r.target, r.message⟩ :: prints.map .print ∧
        (∀ time, Output.written time ((d.emit r).map .ofEmission) =
          "[" ++ time ++ " " ++ d.name ++ " " ++ Log.colourSwitch r.severity.colour ++
            r.severity.name ++ Log.colourSwitch 0 ++ " " ++ r.target ++ "] " ++ r.message ++ "\n") ∧
        (∀ p, d.printer = some p → r.severity = .warn ∨ r.severity = .error →
          ∃ x, prints = [x] ∧ Log.PrintsAs p r x) ∧
        (d.printer = none ∨ ¬(r.severity = .warn ∨ r.severity = .error) → prints = [])) ∧
    ((d.filterFor r.target).allows r.severity = false →
      d.isEnabled r.severity r.target = false ∧ d.emit r = []) := by
  refine ⟨d.emit_eq_chain r, fun hwithin => ⟨hwithin, ?_⟩, fun houtside => ⟨houtside, ?_⟩⟩
  · obtain ⟨prints, hprints, hgrave, hnone⟩ := d.exists_prints r
    have hemit : d.emit r =
        .console ⟨d.name, r.severity, r.target, r.message⟩ :: prints.map .print := by
      rw [← hprints]
      exact if_pos hwithin
    refine ⟨prints, hemit, fun time => ?_, hgrave, hnone⟩
    rw [hemit, Output.written_console]
    rfl
  · rw [Log.Dispatch.emit, Log.Dispatch.isEnabled, houtside]
    rfl

/-- A logger that hides its own records, for a host that shows no warnings. -/
def Log.Dispatch.reserved : Log.Dispatch := ⟨"demo", ⟨.off, .upTo .info⟩, some ⟨2, false⟩⟩

/-- A warning with a NUL in it, from a line too great for a host, and from no module. -/
def Log.Record.garbled (target : String) : Log.Record :=
  ⟨.warn, target, "a\x00b", none, some "far.gd", some 4294967295⟩

/-- A warning from elsewhere is shown on the console and as an error at the host; the same warning
from the extension itself is not shown. -/
theorem dispatch_routes_record_garbled :
    (Log.Dispatch.reserved.filterFor "game::far").allows .warn = true ∧
    (∃ x, Log.Dispatch.reserved.emit (.garbled "game::far") =
        [.console ⟨"demo", .warn, "game::far", "a\x00b"⟩, .print x] ∧
      x.channel = .error ∧ x.host = 2 ∧ x.description.bytes = [0x61, 0x62] ∧
      x.function.bytes = [] ∧ x.line = 2147483647) ∧
    (Log.Dispatch.reserved.filterFor "gdscaffold::far").allows .warn = false ∧
    Log.Dispatch.reserved.emit (.garbled "gdscaffold::far") = [] := by
  obtain ⟨-, hwithin, -⟩ := dispatch_routes_record .reserved (.garbled "game::far")
  obtain ⟨-, -, houtside⟩ := dispatch_routes_record .reserved (.garbled "gdscaffold::far")
  obtain ⟨-, prints, hemit, -, hprints, -⟩ := hwithin rfl
  obtain ⟨x, rfl, hx⟩ := hprints ⟨2, false⟩ rfl (.inl rfl)
  refine ⟨rfl, ⟨x, hemit, hx.channel, hx.host, hx.description, hx.function, hx.line⟩, rfl,
    (houtside rfl).2⟩

/-! ## The threshold -/

namespace Log

theorem Filter.eq_off_iff {f : Filter} : f = .off ↔ ∀ s, f.allows s = false := by
  constructor
  · rintro rfl s
    cases s <;> rfl
  · intro h
    rcases f with _ | least
    · rfl
    · have hleast : (upTo least).allows least = true := decide_eq_true (Nat.le_refl _)
      rw [h least] at hleast
      cases hleast

namespace Dispatch

variable {d : Dispatch} {s : Severity}

/-- The larger of two filters is no larger than it has to be: what it lets through, some target lets
through. -/
theorem exists_isEnabled_iff :
    (∃ target, d.isEnabled s target = true) ↔ (max d.filters.app d.filters.other).allows s := by
  constructor
  · rintro ⟨target, htarget⟩
    exact allows_of_isEnabled (r := ⟨s, target, "", none, none, none⟩) htarget
  · intro h
    rcases Filter.allows_max_iff.mp h with happ | hother
    · exact ⟨"gdscaffold", happ⟩
    · exact ⟨"", hother⟩

theorem emit_ne_nil_iff {r : Record} : d.emit r ≠ [] ↔ d.isEnabled r.severity r.target = true := by
  simp [emit]

/-- A severity is of use to a logger if and only if it is within the larger of its filters. -/
theorem exists_emit_iff :
    (∃ r : Record, r.severity = s ∧ d.emit r ≠ []) ↔
      (max d.filters.app d.filters.other).allows s = true := by
  rw [← exists_isEnabled_iff]
  constructor
  · rintro ⟨r, rfl, hr⟩
    exact ⟨r.target, emit_ne_nil_iff.mp hr⟩
  · rintro ⟨target, htarget⟩
    exact ⟨⟨s, target, "", none, none, none⟩, rfl, emit_ne_nil_iff.mpr htarget⟩

end Dispatch

end Log

/-- A host that a printer can come from. -/
def Printer.origin (p : Printer) : Host := ⟨p.host, true, p.showsWarnings, none⟩

theorem Session.findPrinter_origin (printer : Option Printer) :
    (findPrinter (printer.map Printer.origin)).1 = printer := by
  rcases printer with _ | p
  · rfl
  · change (Printer.resolve (some p.origin)).result.toOption = _
    rw [Printer.resolve_of_found rfl]
    rfl

/-- Every logger is that of some process. -/
theorem Session.exists_backend (d : Log.Dispatch) :
    ∃ steps, ((start {}).after steps).logging.backend = some (.dispatch d) := by
  refine ⟨[.initLogging d.name d.filters (d.printer.map Printer.origin)], ?_⟩
  change ((start {}).initLogging d.name d.filters
    (d.printer.map Printer.origin)).2.2.logging.backend = _
  rw [initLogging_logging, findPrinter_origin]
  rfl

/-- **The threshold hides nothing.** Every logger can be that of a process. Take any process that
began without a log backend, at a time when a logger is its backend. Whatever record is logged, what
comes of it is what the logger makes of it, as if there were no threshold. And the threshold is as
low as it can be: it lets a severity through if and only if the logger makes something of some
record of that severity. So it is off exactly if the logger makes nothing of any record. -/
theorem threshold_hides_nothing :
    (∀ d : Log.Dispatch, ∃ steps,
      ((Session.start {}).after steps).logging.backend = some (.dispatch d)) ∧
    ∀ (g : Logging) (steps : List Step) (d : Log.Dispatch) (p : Session), g.backend = none →
      p = (Session.start g).after steps → p.logging.backend = some (.dispatch d) →
      (∀ r, (p.step (.log r)).2.1 = (d.emit r).map .ofEmission) ∧
      (∀ s, p.logging.threshold.allows s = true ↔
        ∃ r : Log.Record, r.severity = s ∧ d.emit r ≠ []) ∧
      (p.logging.threshold = .off ↔ ∀ r, d.emit r = []) := by
  refine ⟨Session.exists_backend, ?_⟩
  rintro g steps d p hnew rfl hd
  have hlog := Session.settled_after hnew steps d hd
  have hexact : ∀ s, ((Session.start g).after steps).logging.threshold.allows s = true ↔
      ∃ r : Log.Record, r.severity = s ∧ d.emit r ≠ [] := by
    intro s
    rw [hlog.threshold, Log.Dispatch.exists_emit_iff]
  refine ⟨hlog.log_eq, hexact, ?_⟩
  rw [Log.Filter.eq_off_iff]
  constructor
  · intro hoff r
    by_contra hr
    have hallows := (hexact r.severity).mpr ⟨r, rfl, hr⟩
    rw [hoff] at hallows
    cases hallows
  · intro hnone s
    rw [← Bool.not_eq_true, hexact]
    rintro ⟨r, -, hr⟩
    exact hr (hnone r)

/-- The logger that hides its own records, installed for a host that shows no warnings. -/
def Step.reserved : List Step :=
  [.initLogging "demo" ⟨.off, .upTo .info⟩ (some ⟨2, true, false, none⟩)]

/-- A record from elsewhere is not held back for the sake of the extension's own, which are off. -/
theorem threshold_hides_nothing_reserved :
    ((Session.start {}).after Step.reserved).logging.backend = some (.dispatch .reserved) ∧
    ((((Session.start {}).after Step.reserved).step (.log (.garbled "game::far"))).2.1 =
      (Log.Dispatch.reserved.emit (.garbled "game::far")).map .ofEmission) ∧
    ((Session.start {}).after Step.reserved).logging.threshold ≠ .off := by
  obtain ⟨hsame, -, hoff⟩ :=
    threshold_hides_nothing.2 {} Step.reserved .reserved _ rfl rfl rfl
  refine ⟨rfl, hsame _, fun h => ?_⟩
  have hnone := hoff.mp h (.garbled "game::far")
  exact List.cons_ne_nil _ _ hnone

end EngineExtension
