import HeaderBindings.Program
import HeaderBindings.Proofs.Bindings.Options
import HeaderBindings.Proofs.Report.Found
import HeaderBindings.Proofs.Run

/-! What the log of a whole run says of the diagnostics of its header. They are logged where the
header is read, except for errors; where there are errors the run fails, and the report of the
failure lists all diagnostics once more. Nothing else in a run logs a diagnostic or reports a
failure. So a list of errors alone, and a list without errors, is logged as it stands, and a mixed
list is not. -/

namespace HeaderBindings

open Text

namespace Log

/-- The level and the text of a record. -/
def Record.entry (r : Record) : Level × String :=
  (r.level, r.text)

/-- The record is about a diagnostic, or belongs to the report of a failure. -/
def Record.isReport (r : Record) : Bool :=
  r.origin = .diagnostics || r.origin = .failure

/-- The diagnostics and failures in a log. -/
def reports (log : Log) : List Record :=
  log.toList.filter (·.isReport)

theorem Adds.reports_eq {p : Record → Prop} {log log' : Log} (h : Adds p log log')
    (hp : ∀ r, p r → r.isReport = false) : log'.reports = log.reports :=
  h.filter_eq hp

theorem reports_append (log : Log) (records : List Record) :
    reports (log ++ records.toArray) = log.reports ++ records.filter (·.isReport) := by
  simp [reports]

end Log

namespace Diagnostic

/-- The diagnostic in the report of a failure. -/
def failureRecord (d : Diagnostic) : Log.Record :=
  ⟨.error, .failure, d.text⟩

/-- The text of the diagnostic, at the level of its severity. -/
def entry (d : Diagnostic) : Log.Level × String :=
  (d.severity.level, d.text)

/-- What a run logs of the diagnostics of its header, with the report of its failure. -/
def logged (ds : List Diagnostic) : List Log.Record :=
  (ds.filter fun d => !d.severity.isError).map record ++
    if ds.any (·.severity.isError) then ds.map failureRecord else []

/-- What is logged too much of them: next to an error, all that is none, as if it were. -/
def repeated (ds : List Diagnostic) : List Log.Record :=
  if ds.any (·.severity.isError) then
    (ds.filter fun d => !d.severity.isError).map failureRecord
  else []

variable {ds : List Diagnostic}

theorem repeated_eq_nil_iff : repeated ds = [] ↔
    (∀ d ∈ ds, d.severity.isError) ∨ ∀ d ∈ ds, ¬d.severity.isError := by
  unfold repeated
  cases hany : ds.any (·.severity.isError) with
  | true =>
    obtain ⟨d, hd, herror⟩ := List.any_eq_true.1 hany
    rw [if_pos rfl, List.map_eq_nil_iff, List.filter_eq_nil_iff]
    constructor
    · exact fun h => .inl fun d hd => by simpa using h d hd
    · rintro (h | h)
      · exact fun d hd => by simpa using h d hd
      · exact absurd herror (h d hd)
  | false =>
    rw [if_neg Bool.false_ne_true]
    exact iff_of_true rfl (.inr (List.any_eq_false.1 hany))

theorem entry_failureRecord {d : Diagnostic} (h : d.severity.isError) :
    d.failureRecord.entry = d.entry := by
  obtain ⟨file, line, column, severity, message⟩ := d
  cases severity with
  | error | fatal => rfl
  | _ => cases h

/-- Each diagnostic is logged at its own level, and some are logged once more. -/
theorem logged_perm (ds : List Diagnostic) : ((logged ds).map Log.Record.entry).Perm
    (ds.map entry ++ (repeated ds).map Log.Record.entry) := by
  unfold logged repeated
  have hown : ((ds.filter fun d => !d.severity.isError).map record).map Log.Record.entry =
      (ds.filter fun d => !d.severity.isError).map entry := by
    rw [List.map_map]
    rfl
  cases hany : ds.any (·.severity.isError) with
  | true =>
    have hsplit := List.filter_append_perm (fun d : Diagnostic => d.severity.isError) ds
    have herrors : ((ds.filter fun d => d.severity.isError).map failureRecord).map
        Log.Record.entry = (ds.filter fun d => d.severity.isError).map entry := by
      rw [List.map_map]
      exact List.map_congr_left fun d hd => entry_failureRecord (List.mem_filter.1 hd).2
    have hfailures := (hsplit.map failureRecord).map Log.Record.entry
    rw [List.map_append, List.map_append, herrors] at hfailures
    rw [if_pos rfl, if_pos rfl, List.map_append, hown]
    refine (hfailures.symm.append_left _).trans ?_
    rw [← List.append_assoc]
    refine List.Perm.append_right _ (List.perm_append_comm.trans ?_)
    rw [← List.map_append]
    exact hsplit.map entry
  | false =>
    have hnone : ds.filter (fun d => !d.severity.isError) = ds :=
      List.filter_eq_self.2 fun d hd => by simpa using List.any_eq_false.1 hany d hd
    rw [if_neg Bool.false_ne_true, if_neg Bool.false_ne_true, List.append_nil, hown, hnone,
      List.map_nil, List.append_nil]

theorem logged_perm_iff (ds : List Diagnostic) :
    ((logged ds).map Log.Record.entry).Perm (ds.map entry) ↔
      (∀ d ∈ ds, d.severity.isError) ∨ ∀ d ∈ ds, ¬d.severity.isError := by
  rw [← repeated_eq_nil_iff]
  have hperm := logged_perm ds
  constructor
  · intro h
    have hlength := (hperm.symm.trans h).length_eq
    rw [List.length_append, List.length_map, List.length_map] at hlength
    exact List.eq_nil_of_length_eq_zero (by omega)
  · intro h
    rwa [h, List.map_nil, List.append_nil] at hperm

end Diagnostic

namespace Action

variable {α β : Type} {a : Action α} {f : α → Action β} {s : Session}

/-- From `s`, the action logs no diagnostic and reports no failure, and if it fails it is not with
diagnostics. -/
def QuietFrom (a : Action α) (s : Session) : Prop :=
  Log.Adds (·.isReport = false) s.log (a.run.run s).2.log ∧
    ∀ e, (a.run.run s).1 = .error e → e.diagnostics? = none

def Quiet (a : Action α) : Prop :=
  ∀ s, a.QuietFrom s

theorem quiet_pure (x : α) : Quiet (pure x : Action α) :=
  fun s => ⟨.refl s.log, nofun⟩

theorem quiet_throw {e : Error} (h : e.diagnostics? = none) : Quiet (throw e : Action α) :=
  fun s => ⟨.refl s.log, fun _ herror => Except.error.inj herror ▸ h⟩

theorem quiet_record {r : Log.Record} (h : r.isReport = false) : Quiet (record r) :=
  fun _ => ⟨Log.adds_push h, nofun⟩

theorem quiet_modifyFiles (files : FileSystem) :
    Quiet (modify fun s => { s with files := files }) :=
  fun s => ⟨.refl s.log, nofun⟩

theorem quiet_modifyLog {records : Log} (h : Log.Adds (·.isReport = false) #[] records) :
    Quiet (modify fun s => { s with log := s.log ++ records }) := by
  obtain ⟨list, hrecords, hlist⟩ := h
  have hlist' : records.toList = list := by simpa using hrecords
  exact fun s => ⟨⟨list, hlist' ▸ Array.toList_append, hlist⟩, nofun⟩

theorem Quiet.bind (ha : a.Quiet) (hf : ∀ x, (f x).Quiet) : (a >>= f).Quiet := by
  intro s
  obtain ⟨hlog, herror⟩ := ha s
  rw [QuietFrom, run_bind]
  generalize a.run.run s = out at hlog herror
  obtain ⟨result, s'⟩ := out
  cases result with
  | ok x => exact ⟨hlog.trans (hf x s').1, (hf x s').2⟩
  | error e => exact ⟨hlog, fun e' heq => herror e' (congrArg _ (Except.error.inj heq))⟩

theorem Quiet.after_get {g : Session → Action β} (h : ∀ s, (g s).QuietFrom s) :
    (get >>= g).Quiet :=
  h

theorem quiet_readText (path : Path) : (readText path).Quiet := by
  refine .after_get fun s => ?_
  split
  · exact quiet_throw rfl s
  · split
    · exact quiet_throw rfl s
    · exact quiet_pure _ s

theorem quiet_makeDirectory (path : Path) : (makeDirectory path).Quiet := by
  refine .after_get fun s => ?_
  split
  · exact quiet_pure () s
  · refine Quiet.bind (quiet_record rfl) (fun _ => ?_) s
    cases s.files.makeDirectories path with
    | mk result files =>
      refine (quiet_modifyFiles files).bind fun _ => ?_
      cases result with
      | ok u => exact quiet_pure ()
      | error refusal => exact quiet_throw rfl

theorem quiet_writeText (path : Path) (text : String) : (writeText path text).Quiet := by
  refine .after_get fun s => ?_
  split
  · exact ⟨.refl s.log, nofun⟩
  · exact quiet_throw rfl s

theorem quiet_saveText (path : Path) (text : String) : (saveText path text).Quiet := by
  rw [saveText_eq]
  refine Quiet.bind ?_ fun _ => quiet_writeText path text
  unfold makeParent
  cases path.parent? with
  | some parent => exact quiet_makeDirectory parent
  | none => exact quiet_pure ()

/-- The diagnostics in the log where an action ends, and those that the report of the error it ends
with adds. -/
def reported : Except Error α × Session → List Log.Record
  | (.ok _, s) => s.log.reports
  | (.error e, s) => s.log.reports ++ (e.diagnostics?.getD []).map Diagnostic.failureRecord

theorem QuietFrom.reported_eq (h : a.QuietFrom s) : reported (a.run.run s) = s.log.reports := by
  have hreports := h.1.reports_eq fun _ h => h
  have herrors := h.2
  generalize a.run.run s = out at hreports herrors
  obtain ⟨result, s'⟩ := out
  cases result with
  | ok x => exact hreports
  | error e =>
    rw [reported, herrors e rfl]
    exact (List.append_nil _).trans hreports

/-- From `files`, whatever has been logged, the action and the report of its error add `records` on
diagnostics. -/
def Tells (a : Action α) (files : FileSystem) (records : List Log.Record) : Prop :=
  ∀ log, reported (a.run.run ⟨files, log⟩) = Log.reports log ++ records

theorem Tells.after_get {g : Session → Action β} {files : FileSystem} {records : List Log.Record}
    (h : ∀ log, (g ⟨files, log⟩).Tells files records) : (get >>= g).Tells files records :=
  fun log => h log log

theorem Tells.after_record {g : Unit → Action β} {files : FileSystem} {r : Log.Record}
    {records : List Log.Record} (hr : r.isReport = false) (h : (g ()).Tells files records) :
    (record r >>= g).Tells files records := by
  intro log
  have hpush : Log.Adds (·.isReport = false) log (log.push r) := Log.adds_push hr
  rw [← hpush.reports_eq fun _ h => h]
  exact h (log.push r)

theorem Tells.before_quiet {files : FileSystem} {records : List Log.Record}
    (h : a.Tells files records) (hf : ∀ x, (f x).Quiet) : (a >>= f).Tells files records := by
  intro log
  rw [← h log, run_bind]
  cases a.run.run ⟨files, log⟩ with
  | mk result s =>
    cases result with
    | ok x => exact (hf x s).reported_eq
    | error e => rfl

end Action

open HeaderBindings.Action

namespace PartialConfig

theorem quiet_load (path : Path) : (load path).Quiet := by
  refine (quiet_record rfl).bind fun _ => (quiet_readText path).bind fun text => ?_
  split
  · exact quiet_throw rfl
  · split
    · exact quiet_pure _
    · exact quiet_pure _

theorem keepsFiles_load (path : Path) : (load path).KeepsFiles := by
  refine (keepsFiles_record _).bind fun _ => (keepsFiles_readText path).bind fun text => ?_
  split
  · exact keepsFiles_throw _
  · split
    · exact keepsFiles_pure _
    · exact keepsFiles_pure _

end PartialConfig

namespace Config

theorem diagnostics?_of_required {α β : Type} {value : Option α} {key : String}
    {f : α → Except Error β} (hf : ∀ x e, f x = .error e → e.diagnostics? = none) (e : Error)
    (h : required value key >>= f = .error e) : e.diagnostics? = none := by
  cases value with
  | none => cases h; rfl
  | some x => exact hf x e h

theorem diagnostics?_of_ofPartial {p : PartialConfig} (e : Error) :
    ofPartial p = .error e → e.diagnostics? = none :=
  diagnostics?_of_required (fun _ => diagnostics?_of_required fun _ =>
    diagnostics?_of_required fun _ => diagnostics?_of_required fun _ _ h => by cases h) e

end Config

namespace Invocation

theorem quiet_config (i : Invocation) : i.config.Quiet := by
  unfold config
  cases i.configFile
  case' some path => refine (PartialConfig.quiet_load path).bind fun base => ?_
  case' none => refine (quiet_pure _).bind fun base => ?_
  all_goals
    dsimp only
    split
    · exact quiet_pure _
    · next hpartial => exact quiet_throw (Config.diagnostics?_of_ofPartial _ hpartial)

theorem keepsFiles_config (i : Invocation) : i.config.KeepsFiles := by
  unfold config
  cases i.configFile
  case' some path => refine (PartialConfig.keepsFiles_load path).bind fun base => ?_
  case' none => refine (keepsFiles_pure _).bind fun base => ?_
  all_goals
    dsimp only
    split
    · exact keepsFiles_pure _
    · exact keepsFiles_throw _

end Invocation

namespace Config

theorem quiet_bindings (c : Config) (header : Header) : (c.bindings header).Quiet := by
  have hlog := (c.job header).adds_generate.mono (q := (·.isReport = false)) fun r hr => by
    rcases hr with horigin | horigin | horigin <;> simp [Log.Record.isReport, horigin]
  have herror (e : Error) (he : (c.job header).generate.1 = .error e) : e.diagnostics? = none := by
    rw [(c.job header).generate_eq_plainFile, Job.plainFile_eq] at he
    split at he
    · split at he
      · cases he
      · cases he; rfl
    · cases he; rfl
  unfold bindings
  generalize (c.job header).generate = generated at hlog herror
  obtain ⟨result, log⟩ := generated
  refine (quiet_modifyLog hlog).bind fun _ => ?_
  cases result with
  | ok text => exact quiet_pure text
  | error e => exact quiet_throw (herror e rfl)

theorem tells_readReport (c : Config) (report : Report) (files : FileSystem) :
    (c.readReport report).Tells files (Diagnostic.logged report.diagnostics) := by
  intro log
  let records := (report.diagnostics.filter fun d => !d.severity.isError).map Diagnostic.record
  have hrecords : Log.reports (log ++ records.toArray) = log.reports ++ records := by
    rw [Log.reports_append, List.filter_eq_self.2]
    intro r hr
    obtain ⟨d, -, rfl⟩ := List.mem_map.1 hr
    rfl
  have hlog : (logDiagnostics report.diagnostics).run.run ⟨files, log⟩ =
      (.ok (), ⟨files, log ++ records.toArray⟩) := rfl
  rw [readReport, run_bind, hlog, Diagnostic.logged]
  cases hany : report.diagnostics.any (·.severity.isError) with
  | true =>
    rw [if_pos rfl, if_pos rfl, ← List.append_assoc, ← hrecords]
    rfl
  | false =>
    have hreading := (report.finds_reading c.skipSystemHeaders).grows.logs
    have hquiet := hreading.mono (q := (·.isReport = false)) fun r horigin => by
      simp [Log.Record.isReport, horigin]
    rw [if_neg Bool.false_ne_true, if_neg Bool.false_ne_true, List.append_nil, ← hrecords]
    refine QuietFrom.reported_eq (Quiet.bind (quiet_modifyLog hquiet) (fun _ => ?_) _)
    exact (quiet_record rfl).bind fun _ => quiet_pure _

variable {frontEnd : FrontEnd} {c : Config} {files : FileSystem} {arguments : List String}
  {report : Report}

theorem tells_parse (hfile : files.isFile c.header) (harguments : c.arguments = .ok arguments)
    (hasked : frontEnd c.header arguments = .report report) :
    (c.parse frontEnd).Tells files (Diagnostic.logged report.diagnostics) := by
  refine Tells.after_get fun log => ?_
  simp only [hfile, harguments, Bool.not_true, Bool.false_eq_true, if_false, pure_bind]
  refine Tells.after_record rfl (Tells.after_record rfl ?_)
  rw [hasked]
  exact tells_readReport c report files

theorem tells_run (hfile : files.isFile c.header) (harguments : c.arguments = .ok arguments)
    (hasked : frontEnd c.header arguments = .report report) :
    (c.run frontEnd).Tells files (Diagnostic.logged report.diagnostics) := by
  refine Tells.after_record rfl (Tells.after_record rfl ?_)
  refine (tells_parse hfile harguments hasked).before_quiet fun header => ?_
  refine (c.quiet_bindings header).bind fun text => (quiet_saveText _ _).bind fun _ => ?_
  exact (quiet_record rfl).bind fun _ => quiet_record rfl

end Config

namespace Error

/-- The records of the causes of an error, from the root up. -/
def causeRecords (e : Error) : List Log.Record :=
  ⟨.error, .failure, "Error:"⟩ ::
    (e.cause :: e.below).reverse.zipIdx.map fun (cause, i) =>
      ⟨.error, .failure, position i ++ ": " ++ cause.message⟩

theorem toList_report (e : Error) : e.report.toList =
    (e.diagnostics?.getD []).map Diagnostic.failureRecord ++ e.causeRecords := by
  simp [report, causeRecords, Diagnostic.failureRecord]

theorem isReport_of_mem_report {e : Error} {r : Log.Record} (h : r ∈ e.report.toList) :
    r.isReport := by
  rw [toList_report] at h
  rcases List.mem_append.1 h with h | h
  · obtain ⟨d, -, rfl⟩ := List.mem_map.1 h
    rfl
  · rcases List.mem_cons.1 h with rfl | h
    · rfl
    · obtain ⟨entry, -, rfl⟩ := List.mem_map.1 h
      rfl

end Error

namespace Program

/-- What the report of a failure adds on the causes. -/
def closing : Except Error Unit → List Log.Record
  | .ok () => []
  | .error e => e.causeRecords

theorem reports_runReported (frontEnd : FrontEnd) (i : Invocation) (files : FileSystem) :
    (runReported frontEnd i files).2.log.reports =
      reported ((action frontEnd i).run.run { files := files }) ++
        closing (runReported frontEnd i files).1 := by
  unfold runReported
  cases (action frontEnd i).run.run { files := files } with
  | mk result s =>
    cases result with
    | ok u => exact (List.append_nil _).symm
    | error e =>
      have hreport : e.report.toList.filter (·.isReport) = e.report.toList :=
        List.filter_eq_self.2 fun r hr => Error.isReport_of_mem_report hr
      have hreports := Log.reports_append s.log e.report.toList
      rw [Array.toArray_toList, hreport, Error.toList_report, ← List.append_assoc] at hreports
      exact hreports

/-- The log of a run whose header is reported: the diagnostics that are no errors, all of them once
more if there is an error among them, and then the causes of the failure. So each diagnostic is
logged at the level of its severity, and next to an error all that is none is logged as an error
too. Each one is logged just once exactly where all of them are errors or none is. -/
theorem diagnostics_logged (frontEnd : FrontEnd) (i : Invocation) (files : FileSystem) {c : Config}
    {arguments : List String} {report : Report}
    (hconfig : (i.config.run.run { files := files }).1 = .ok c) (hfile : files.isFile c.header)
    (harguments : c.arguments = .ok arguments)
    (hasked : frontEnd c.header arguments = .report report) :
    let out := runReported frontEnd i files
    let ds := report.diagnostics
    out.2.log.reports = Diagnostic.logged ds ++ closing out.1 ∧
    ((Diagnostic.logged ds).map Log.Record.entry).Perm
      (ds.map Diagnostic.entry ++ (Diagnostic.repeated ds).map Log.Record.entry) ∧
    (((Diagnostic.logged ds).map Log.Record.entry).Perm (ds.map Diagnostic.entry) ↔
      (∀ d ∈ ds, d.severity.isError) ∨ ∀ d ∈ ds, ¬d.severity.isError) := by
  intro out ds
  refine ⟨?_, Diagnostic.logged_perm ds, Diagnostic.logged_perm_iff ds⟩
  rw [reports_runReported]
  have hfiles := i.keepsFiles_config files #[]
  have hreports := (i.quiet_config { files := files }).1.reports_eq fun _ h => h
  have hrun : reported ((action frontEnd i).run.run { files := files }) =
      Diagnostic.logged ds := by
    rw [action, run_bind]
    generalize i.config.run.run { files := files } = start at hconfig hfiles hreports
    obtain ⟨result, ⟨files', log⟩⟩ := start
    obtain rfl : result = .ok c := hconfig
    obtain rfl : files' = files := hfiles
    exact (Config.tells_run hfile harguments hasked log).trans
      ((congrArg (· ++ _) hreports).trans (List.nil_append _))
  rw [hrun]

/-- A warning and an error. -/
def mixed : List Diagnostic :=
  [⟨"lib.h", 1, 1, .warning, "declaration does not declare anything"⟩,
    ⟨"lib.h", 2, 1, .error, "unknown type name"⟩]

def mixedFrontEnd : FrontEnd :=
  fun _ _ => .report { root := .mk { kind := .translationUnit } [] [], diagnostics := mixed }

def libInvocation : Invocation where
  settings :=
    { header := some (.ofString "lib.h"), output := some (.ofString "out/Lib.bf")
      library := some "lib.dll", space := some "Vendor.Lib" }

def libConfig : Config :=
  ⟨.ofString "lib.h", .ofString "out/Lib.bf", "lib.dll", "Vendor.Lib", [], [], .c, none, true, []⟩

def libFiles : FileSystem where
  files := [((Path.ofString "lib.h").place, [])]

theorem diagnostics_logged_mixed :
    ((libInvocation.config.run.run { files := libFiles }).1 = .ok libConfig ∧
      libFiles.isFile libConfig.header ∧
      libConfig.arguments = .ok ["-x", "c", "-std=gnu11"]) ∧
    (runReported mixedFrontEnd libInvocation libFiles).2.log.reports.map (·.level) =
      [.warn, .error, .error, .error, .error] ∧
    ¬((Diagnostic.logged mixed).map Log.Record.entry).Perm (mixed.map Diagnostic.entry) := by
  have hconfig : (libInvocation.config.run.run { files := libFiles }).1 = .ok libConfig := by
    decide +kernel
  have hfile : libFiles.isFile libConfig.header := by decide +kernel
  have harguments : libConfig.arguments = .ok ["-x", "c", "-std=gnu11"] := by decide +kernel
  obtain ⟨hreports, -, hperm⟩ :=
    diagnostics_logged mixedFrontEnd libInvocation libFiles hconfig hfile harguments rfl
  refine ⟨⟨hconfig, hfile, harguments⟩, ?_, fun h => ?_⟩
  · rw [hreports]
    decide +kernel
  · exact absurd (hperm.1 h) (by decide)

/-- Not every diagnostic is logged just once, at the level of its severity. -/
theorem not_forall_logged_once :
    ¬∀ (frontEnd : FrontEnd) (i : Invocation) (files : FileSystem) (c : Config)
        (arguments : List String) (report : Report),
      (i.config.run.run { files := files }).1 = .ok c → files.isFile c.header →
      c.arguments = .ok arguments → frontEnd c.header arguments = .report report →
      (report.diagnostics.map Diagnostic.text).Nodup → ∀ d ∈ report.diagnostics,
        ((runReported frontEnd i files).2.log.toList.filter (·.text = d.text)).map (·.level) =
          [d.severity.level] := by
  intro h
  have honce := h mixedFrontEnd libInvocation libFiles libConfig ["-x", "c", "-std=gnu11"] _
    (by decide +kernel) (by decide +kernel) (by decide +kernel) rfl (by decide +kernel)
    ⟨"lib.h", 1, 1, .warning, "declaration does not declare anything"⟩ List.mem_cons_self
  revert honce
  decide +kernel

end Program

end HeaderBindings
