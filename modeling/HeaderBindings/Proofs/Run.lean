import HeaderBindings.Proofs.FileSystem
import HeaderBindings.Run

/-! What a run does to the files. Whatever can go wrong with the header, the front-end or the
options goes wrong before the first write, and after the write nothing can. -/

namespace HeaderBindings

open Text

namespace Action

variable {α β : Type} {files : FileSystem} {a : Action α} {f : α → Action β}
  {P : Except Error α → FileSystem → Prop} {Q : Except Error β → FileSystem → Prop}

/-- From `files`, whatever has been logged, the action ends with a result and files of which `Q`
holds. -/
def Ensures (a : Action α) (files : FileSystem) (Q : Except Error α → FileSystem → Prop) : Prop :=
  ∀ log, Q (a.run.run ⟨files, log⟩).1 (a.run.run ⟨files, log⟩).2.files

theorem ensures_pure {x : α} (h : P (.ok x) files) : Ensures (pure x) files P :=
  fun _ => h

theorem ensures_throw {e : Error} (h : P (.error e) files) : Ensures (throw e) files P :=
  fun _ => h

theorem Ensures.mono {P' : Except Error α → FileSystem → Prop} (ha : a.Ensures files P)
    (h : ∀ result after, P result after → P' result after) : a.Ensures files P' :=
  fun log => h _ _ (ha log)

theorem run_bind (a : Action α) (f : α → Action β) (s : Session) :
    (a >>= f).run.run s = match a.run.run s with
      | (.ok x, s') => (f x).run.run s'
      | (.error e, s') => (.error e, s') := by
  rw [ExceptT.run_bind, StateT.run_bind]
  cases a.run.run s with
  | mk result s' => cases result <;> rfl

/-- An error ends a sequence; what comes after a result starts from the files that are left. -/
theorem Ensures.bind (ha : a.Ensures files P)
    (hok : ∀ x middle, P (.ok x) middle → (f x).Ensures middle Q)
    (herror : ∀ e middle, P (.error e) middle → Q (.error e) middle) :
    (a >>= f).Ensures files Q := by
  intro log
  have hleft := ha log
  rw [run_bind]
  cases hrun : a.run.run ⟨files, log⟩ with
  | mk result s =>
    rw [hrun] at hleft
    cases result with
    | ok x => exact hok x s.files hleft s.log
    | error e => exact herror e s.files hleft

/-- The action does nothing but add to the log. -/
def Logs (a : Action Unit) : Prop :=
  ∀ files log, ∃ records, a.run.run ⟨files, log⟩ = (.ok (), ⟨files, log ++ records⟩)

theorem logs_record (r : Log.Record) : Logs (record r) :=
  fun _ _ => ⟨#[r], rfl⟩

theorem logs_records (rs : List Log.Record) : Logs (records rs) :=
  fun _ _ => ⟨rs.toArray, rfl⟩

theorem logs_append (records : Log) : Logs (modify fun s => { s with log := s.log ++ records }) :=
  fun _ _ => ⟨records, rfl⟩

theorem Logs.andThen {a b : Action Unit} (ha : Logs a) (hb : Logs b) : Logs (a >>= fun _ => b) := by
  intro files log
  obtain ⟨records, hfirst⟩ := ha files log
  obtain ⟨records', hsecond⟩ := hb files (log ++ records)
  refine ⟨records ++ records', ?_⟩
  rw [run_bind, hfirst, ← Array.append_assoc]
  exact hsecond

/-- What is logged decides nothing. -/
theorem Ensures.after_logs {a : Action Unit} {g : Unit → Action β} (ha : Logs a)
    (h : (g ()).Ensures files Q) : (a >>= g).Ensures files Q := by
  intro log
  obtain ⟨records, hrun⟩ := ha files log
  rw [run_bind, hrun]
  exact h (log ++ records)

theorem Logs.ensures {a : Action Unit} (ha : Logs a) {P : Except Error Unit → FileSystem → Prop}
    (h : P (.ok ()) files) : a.Ensures files P := by
  intro log
  obtain ⟨records, hrun⟩ := ha files log
  rw [hrun]
  exact h

theorem Ensures.after_files {g : Unit → Action β} {after : FileSystem}
    (h : (g ()).Ensures after Q) :
    ((modify fun s => { s with files := after }) >>= g).Ensures files Q :=
  fun log => h log

theorem Ensures.after_get {g : Session → Action β} (h : ∀ log, (g ⟨files, log⟩).Ensures files Q) :
    (get >>= g).Ensures files Q :=
  fun log => h log log

/-- The action leaves all files as they are. -/
def KeepsFiles (a : Action α) : Prop :=
  ∀ files, a.Ensures files fun _ after => after = files

theorem keepsFiles_pure (x : α) : KeepsFiles (pure x : Action α) :=
  fun _ => ensures_pure rfl

theorem keepsFiles_throw (e : Error) : KeepsFiles (throw e : Action α) :=
  fun _ => ensures_throw rfl

theorem keepsFiles_record (r : Log.Record) : KeepsFiles (record r) :=
  fun _ => (logs_record r).ensures rfl

theorem KeepsFiles.bind (ha : a.KeepsFiles) (hf : ∀ x, (f x).KeepsFiles) :
    (a >>= f).KeepsFiles := by
  intro files
  refine (ha files).bind ?_ fun _ _ h => h
  rintro x _ rfl
  exact hf x _

theorem keepsFiles_readText (path : Path) : (readText path).KeepsFiles := by
  refine fun files => Ensures.after_get fun log => ?_
  split
  · exact keepsFiles_throw _ files
  · split
    · exact keepsFiles_throw _ files
    · exact keepsFiles_pure _ files

/-- A directory that is not there is made, or the action fails; no file changes. -/
theorem ensures_makeDirectory (path : Path) (files : FileSystem) :
    (makeDirectory path).Ensures files fun result after =>
      let made := if path.isEmpty || files.isThere path then (.ok (), files)
        else files.makeDirectories path
      after = made.2 ∧ (result = .ok () ↔ made.1 = .ok ()) := by
  refine Ensures.after_get fun log => ?_
  by_cases h : path.isEmpty || files.isThere path
  · rw [if_pos h, if_pos h]
    exact ensures_pure ⟨rfl, by simp⟩
  · rw [if_neg h, if_neg h]
    refine Ensures.after_logs (logs_record _) ?_
    dsimp only
    cases files.makeDirectories path with
    | mk result after =>
      refine Ensures.after_files ?_
      cases result with
      | ok u => exact ensures_pure ⟨rfl, by simp⟩
      | error refusal => exact ensures_throw ⟨rfl, by simp⟩

/-- Makes the directory of a path. -/
def makeParent (path : Path) : Action Unit :=
  match path.parent? with
  | some parent => makeDirectory parent
  | none => pure ()

/-- Writes a text to a path whose directory is there. -/
def writeText (path : Path) (text : String) : Action Unit := do
  let s ← get
  match s.files.write path (Bytes.ofString text) with
  | .ok files => set { s with files := files }
  | .error refusal => fail (.notWritten path.shown) [.io refusal.message]

theorem saveText_eq (path : Path) (text : String) :
    saveText path text = makeParent path >>= fun _ => writeText path text := by
  unfold saveText makeParent writeText
  cases path.parent? with
  | some parent => rfl
  | none => rfl

theorem ensures_makeParent (path : Path) (files : FileSystem) :
    (makeParent path).Ensures files fun result after =>
      after = (files.withParent path).2 ∧
        (result = .ok () ↔ (files.withParent path).1 = .ok ()) := by
  unfold makeParent FileSystem.withParent
  cases path.parent? with
  | none => exact ensures_pure ⟨rfl, by simp⟩
  | some parent => exact ensures_makeDirectory parent files

theorem ensures_writeText (path : Path) (text : String) (files : FileSystem) :
    (writeText path text).Ensures files fun result after =>
      (result = .ok () ∧ files.write path (Bytes.ofString text) = .ok after) ∨
        ((∃ e, result = .error e) ∧ (∃ e, files.write path (Bytes.ofString text) = .error e) ∧
          after = files) := by
  refine Ensures.after_get fun log => ?_
  dsimp only
  cases files.write path (Bytes.ofString text) with
  | ok after =>
    intro log
    exact .inl ⟨rfl, rfl⟩
  | error refusal => exact ensures_throw (.inr ⟨⟨_, rfl⟩, ⟨_, rfl⟩, rfl⟩)

/-- A text is saved as its bytes, or the action fails and no file changes. -/
theorem ensures_saveText (path : Path) (text : String) (files : FileSystem) :
    (saveText path text).Ensures files fun result after =>
      (result = .ok () ∧ files.saved? path (Bytes.ofString text) = some after) ∨
        ((∃ e, result = .error e) ∧ files.saved? path (Bytes.ofString text) = none ∧
          after.files = files.files) := by
  have hparent := ensures_makeParent path files
  have hfiles := files.withParent_files path
  rw [saveText_eq]
  cases hmade : files.withParent path with
  | mk result made =>
    rw [hmade] at hparent hfiles
    refine hparent.bind ?_ ?_
    · rintro ⟨⟩ middle ⟨hmiddle, hresult⟩
      obtain rfl : result = .ok () := hresult.1 rfl
      rw [hmiddle, FileSystem.saved?_of_made hmade]
      refine (ensures_writeText path text made).mono ?_
      rintro result after (⟨rfl, hwrite⟩ | ⟨herror, ⟨refusal, hwrite⟩, rfl⟩)
      · rw [hwrite]
        exact .inl ⟨rfl, rfl⟩
      · rw [hwrite]
        exact .inr ⟨herror, rfl, hfiles⟩
    · rintro e _ ⟨rfl, hresult⟩
      cases result with
      | ok u => cases hresult.2 rfl
      | error refusal => exact .inr ⟨⟨e, rfl⟩, FileSystem.saved?_of_refused hmade, hfiles⟩

end Action

namespace Config

variable {frontEnd : FrontEnd} {c : Config} {files : FileSystem} {header : Header}

open HeaderBindings.Action

/-- What the front-end is asked with: the language and its standard, the include directories, all
of which have to be text, and the arguments of the user. -/
def Asks (c : Config) (arguments : List String) : Prop :=
  ∃ dirs, c.includeDirs.mapM Path.text? = some dirs ∧
    arguments = ["-x", c.language.name, "-std=" ++ c.standard.getD c.language.defaultStandard] ++
      dirs.flatMap (fun dir => ["-I", dir]) ++ c.extraArguments

theorem toOption_includeArguments (dirs : List Path) :
    (includeArguments dirs).toOption =
      (dirs.mapM Path.text?).map (·.flatMap fun dir => ["-I", dir]) := by
  induction dirs with
  | nil => rfl
  | cons dir rest ih =>
    rw [includeArguments, List.mapM_cons]
    cases dir.text? with
    | none => rfl
    | some text =>
      let behind (arguments : List String) : List String := "-I" :: text :: arguments
      calc ((includeArguments rest).map behind).toOption
        _ = (includeArguments rest).toOption.map behind := by cases includeArguments rest <;> rfl
        _ = _ := by rw [ih]; cases rest.mapM Path.text? <;> rfl

theorem arguments_eq_ok {arguments : List String} :
    c.arguments = .ok arguments ↔ c.Asks arguments := by
  have hincludes := toOption_includeArguments c.includeDirs
  unfold Config.arguments Asks
  cases hrun : includeArguments c.includeDirs with
  | error e =>
    rw [hrun, eq_comm] at hincludes
    simp [Option.map_eq_none_iff.1 hincludes, bind, Except.bind]
  | ok includes =>
    rw [hrun, eq_comm] at hincludes
    obtain ⟨dirs, hdirs, rfl⟩ := Option.map_eq_some_iff.1 hincludes
    simp [hdirs, bind, Except.bind, pure, Except.pure, eq_comm]

/-- The front-end reports the header of the configuration without errors, and `header` is what is
read from its report. -/
def Reports (frontEnd : FrontEnd) (c : Config) (files : FileSystem) (header : Header) : Prop :=
  files.isFile c.header ∧ ∃ arguments report, c.Asks arguments ∧
    frontEnd c.header arguments = .report report ∧
    (∀ d ∈ report.diagnostics, d.severity.isError = false) ∧
    (report.reading c.skipSystemHeaders).header = header

theorem ensures_readReport (c : Config) (report : Report) (files : FileSystem) :
    (c.readReport report).Ensures files fun result after => after = files ∧
      ∀ header, result = .ok header ↔ (∀ d ∈ report.diagnostics, d.severity.isError = false) ∧
        (report.reading c.skipSystemHeaders).header = header := by
  refine Ensures.after_logs (logs_records _) ?_
  by_cases h : report.diagnostics.any (·.severity.isError)
  · rw [if_pos h]
    refine ensures_throw ⟨rfl, fun header => ?_⟩
    obtain ⟨d, hd, herror⟩ := List.any_eq_true.1 h
    constructor
    · rintro ⟨⟩
    · rintro ⟨hall, -⟩
      rw [hall d hd] at herror
      cases herror
  · rw [if_neg h]
    refine Ensures.after_logs (logs_append _) (Ensures.after_logs (logs_record _) ?_)
    have hall : ∀ d ∈ report.diagnostics, d.severity.isError = false := by simpa using h
    refine ensures_pure ⟨rfl, fun header => ?_⟩
    rw [Except.ok.injEq, and_iff_right hall]

/-- The header is read exactly if it is there, the front-end can be asked for it and its report
holds no errors. No file changes. -/
theorem ensures_parse (frontEnd : FrontEnd) (c : Config) (files : FileSystem) :
    (c.parse frontEnd).Ensures files fun result after => after = files ∧
      ∀ header, result = .ok header ↔ c.Reports frontEnd files header := by
  have hnone (e : Error) (h : ∀ header, ¬c.Reports frontEnd files header) :
      (throw e : Action Header).Ensures files fun result after => after = files ∧
        ∀ header, result = .ok header ↔ c.Reports frontEnd files header :=
    ensures_throw ⟨rfl, fun header => ⟨nofun, fun hreports => absurd hreports (h header)⟩⟩
  refine Ensures.after_get fun log => ?_
  cases hfile : files.isFile c.header with
  | false => exact hnone _ fun header hreports => by simp [Reports, ← arguments_eq_ok, hfile] at hreports
  | true =>
    cases harguments : c.arguments with
    | error e => exact hnone _ fun header hreports => by simp [Reports, ← arguments_eq_ok, harguments] at hreports
    | ok arguments =>
      have hpure : Ensures (pure arguments) files fun result after =>
          after = files ∧ result = .ok arguments := ensures_pure ⟨rfl, rfl⟩
      refine hpure.bind ?_ nofun
      rintro _ middle ⟨hmiddle, ⟨⟩⟩
      rw [hmiddle]
      refine Ensures.after_logs (logs_record _) (Ensures.after_logs (logs_record _) ?_)
      cases hasked : frontEnd c.header arguments with
      | unavailable reason =>
        exact hnone _ fun header hreports => by simp [Reports, ← arguments_eq_ok, harguments, hasked] at hreports
      | failed =>
        exact hnone _ fun header hreports => by simp [Reports, ← arguments_eq_ok, harguments, hasked] at hreports
      | report report =>
        simpa [Reports, ← arguments_eq_ok, hfile, harguments, hasked] using ensures_readReport c report files

theorem ensures_bindings (c : Config) (header : Header) (files : FileSystem) :
    (c.bindings header).Ensures files fun result after => after = files ∧
      result = (c.job header).generate.1 := by
  unfold bindings
  cases (c.job header).generate with
  | mk result log =>
    refine Ensures.after_logs (logs_append _) ?_
    cases result with
    | ok text => exact ensures_pure ⟨rfl, rfl⟩
    | error e => exact ensures_throw ⟨rfl, rfl⟩

/-- With the header read, a run makes the bindings and saves them, or fails and changes no file. -/
theorem ensures_bindings_saved (c : Config) (header : Header) {last : Action Unit}
    (hlast : Logs last) (files : FileSystem) :
    Ensures (do
        let text ← c.bindings header
        saveText c.output text
        last) files fun result after =>
      (result = .ok () ∧ ∃ text, (c.job header).generate.1 = .ok text ∧
        files.saved? c.output (Bytes.ofString text) = some after) ∨
      ((∃ e, result = .error e) ∧ after.files = files.files ∧
        ∀ text, (c.job header).generate.1 = .ok text →
          files.saved? c.output (Bytes.ofString text) = none) := by
  refine (ensures_bindings c header files).bind ?_ ?_
  · intro text middle ⟨hmiddle, hgenerate⟩
    rw [hmiddle]
    refine (ensures_saveText c.output text files).bind ?_ ?_
    · rintro _ middle (⟨-, hsaved⟩ | ⟨⟨e, ⟨⟩⟩, -⟩)
      exact hlast.ensures (.inl ⟨rfl, text, hgenerate.symm, hsaved⟩)
    · rintro e after (⟨⟨⟩, -⟩ | ⟨-, hsaved, hfiles⟩)
      refine .inr ⟨⟨e, rfl⟩, hfiles, ?_⟩
      intro text' hgenerate'
      obtain rfl : text = text' := Except.ok.inj (hgenerate.trans hgenerate')
      exact hsaved
  · rintro e _ ⟨rfl, hgenerate⟩
    refine .inr ⟨⟨e, rfl⟩, rfl, ?_⟩
    intro text hgenerate'
    cases hgenerate.trans hgenerate'

/-- A run succeeds if the header is reported, its bindings are made and they are saved, and then
this is what it has done. Else it fails and changes no file. -/
theorem ensures_run (frontEnd : FrontEnd) (c : Config) (files : FileSystem) :
    (c.run frontEnd).Ensures files fun result after =>
      (result = .ok () ∧ ∃ header text, c.Reports frontEnd files header ∧
        (c.job header).generate.1 = .ok text ∧
        files.saved? c.output (Bytes.ofString text) = some after) ∨
      ((∃ e, result = .error e) ∧ after.files = files.files ∧
        ∀ header text, c.Reports frontEnd files header → (c.job header).generate.1 = .ok text →
          files.saved? c.output (Bytes.ofString text) = none) := by
  refine Ensures.after_logs (logs_record _) (Ensures.after_logs (logs_record _) ?_)
  refine (ensures_parse frontEnd c files).bind ?_ ?_
  · intro header middle ⟨hmiddle, hparse⟩
    rw [hmiddle]
    have hreports := (hparse header).1 rfl
    refine (ensures_bindings_saved c header ((logs_record _).andThen (logs_record _)) files).mono ?_
    rintro result after (⟨hok, text, hgenerate, hsaved⟩ | ⟨herror, hfiles, hnone⟩)
    · exact .inl ⟨hok, header, text, hreports, hgenerate, hsaved⟩
    · refine .inr ⟨herror, hfiles, ?_⟩
      intro header' text hreports'
      obtain rfl : header = header' := Except.ok.inj ((hparse header').2 hreports')
      exact hnone text
  · rintro e _ ⟨rfl, hparse⟩
    refine .inr ⟨⟨e, rfl⟩, rfl, ?_⟩
    intro header text hreports
    cases (hparse header).2 hreports

/-- A run that fails leaves every file as it was. One that succeeds has read the header that the
front-end reports, the output file holds the bindings made from it for the library and the namespace
of the configuration and with its rules before those of the type table, and every other file is as
it was. It succeeds exactly if there is such a header, its bindings can be made, and the output file
can be written, in a directory that is made where there is none. -/
theorem run_all_or_nothing (frontEnd : FrontEnd) (c : Config) (before : Session) :
    let result := ((c.run frontEnd).run.run before).1
    let after := ((c.run frontEnd).run.run before).2.files
    let bindings (header : Header) : Except Error String :=
      (Job.generate ⟨header, ⟨c.library, c.space⟩, .withRules c.typeRules⟩).1
    ((∃ e, result = .error e) → ∀ place, after.file? place = before.files.file? place) ∧
    (result = .ok () → ∃ header text, c.Reports frontEnd before.files header ∧
      bindings header = .ok text ∧
      after.read c.output = .ok (Bytes.ofString text) ∧
      ∀ place, after.file? place =
        if place = c.output.place then some (Bytes.ofString text)
        else before.files.file? place) ∧
    (result = .ok () ↔ ∃ header text, c.Reports frontEnd before.files header ∧
      bindings header = .ok text ∧
      (before.files.saved? c.output (Bytes.ofString text)).isSome) := by
  intro result after bindings
  have hbindings (header : Header) : bindings header = (c.job header).generate.1 := rfl
  simp only [hbindings]
  rcases ensures_run frontEnd c before.files before.log with
    ⟨hok, header, text, hreports, hgenerate, hsaved⟩ | ⟨⟨e, herror⟩, hfiles, hnone⟩
  · obtain ⟨hread, hplaces⟩ := FileSystem.of_saved? hsaved
    refine ⟨?_, ?_, ?_⟩
    · rintro ⟨e, herror⟩
      cases herror.symm.trans hok
    · intro _
      exact ⟨header, text, hreports, hgenerate, hread, hplaces⟩
    · refine ⟨fun _ => ⟨header, text, hreports, hgenerate, ?_⟩, fun _ => hok⟩
      rw [hsaved]
      rfl
  · refine ⟨?_, ?_, ?_⟩
    · intro _ place
      exact congrArg (List.lookup place) hfiles
    · intro hok
      cases hok.symm.trans herror
    · constructor
      · intro hok
        cases hok.symm.trans herror
      · rintro ⟨header, text, hreports, hgenerate, hsaved⟩
        rw [hnone header text hreports hgenerate] at hsaved
        cases hsaved

/-- A function that returns an integer. -/
def countFrontEnd : FrontEnd := fun _ _ =>
  let int : ReportedType := .mk { kind := .int, spelling := "int" } none none none none none []
  let count : EntityInfo :=
    { kind := .functionDecl, name := some "count", location := some ⟨"lib.h", 1, 1⟩,
      result := some int }
  .report { root := .mk { kind := .translationUnit } [.mk count [] []] [] }

def countConfig (output : String) : Config :=
  ⟨.ofString "lib.h", .ofString output, "demo.dll", "Demo", [], [], .c, none, true,
    [⟨"int", "c_int"⟩]⟩

def countFiles : FileSystem where
  files := [((Path.ofString "lib.h").place, [])]

def countBindings : String :=
  "using System;\nusing System.Interop;\n\nnamespace Demo;\n\npublic class DemoAPI\n\x7b\n" ++
    "\t[CLink, Import(\"demo.dll\")]\n\tpublic static extern c_int Count();\n\n\x7d\n"

/-- The bindings are saved in a new directory, with the type of the user's rule, but not below a
file. -/
theorem run_all_or_nothing_count :
    let outcome (output : String) :=
      ((countConfig output).run countFrontEnd).run.run { files := countFiles }
    (outcome "out/api.bf").2.files.read (.ofString "out/api.bf") =
      .ok (Bytes.ofString countBindings) ∧
    ∀ place, (outcome "lib.h/api.bf").2.files.file? place = countFiles.file? place := by
  intro outcome
  constructor
  · obtain ⟨-, hsaved, -⟩ :=
      run_all_or_nothing countFrontEnd (countConfig "out/api.bf") { files := countFiles }
    obtain ⟨header, text, ⟨-, _, _, -, ⟨⟩, -, rfl⟩, hbindings, hread, -⟩ :=
      hsaved (by decide +kernel)
    have htext : text = countBindings :=
      Except.ok.inj (hbindings.symm.trans (by decide +kernel))
    rw [← htext]
    exact hread
  · obtain ⟨hkept, -⟩ :=
      run_all_or_nothing countFrontEnd (countConfig "lib.h/api.bf") { files := countFiles }
    cases hresult : (outcome "lib.h/api.bf").1 with
    | ok u =>
      have hfailed : (outcome "lib.h/api.bf").1.toBool = false := by decide +kernel
      rw [hresult] at hfailed
      cases hfailed
    | error e => exact hkept ⟨e, hresult⟩

end Config

end HeaderBindings
