import HeaderBindings.Proofs.Bindings.Script
import Mathlib.Data.List.TakeWhile

/-! The file of a header, stage by stage. Unless the options are refused, it is made of the blocks
of all stages, each written with the names that the table of the header gives. Every part of a
script ends with the indentation it starts from, so the indentation at which a stage begins is
known beforehand. -/

namespace HeaderBindings

open Output

/-- The error of a run whose options a stage refuses. -/
def Stage.failure? (options : Options) (stage : Stage) : Option Error :=
  (stage.problem? options).map fun problem =>
    Error.within ⟨.invalidConfig problem, []⟩ (.stageFailed stage.title)

/-- The stages before the first that refuses the options. -/
def Stage.accepted (options : Options) (stages : List Stage) : List Stage :=
  stages.takeWhile fun stage => (stage.failure? options).isNone

/-- The indentation at which a stage begins. -/
def Stage.indent : Stage → Nat
  | .functions | .enums | .structs => 1
  | .usings | .openWrapper | .typeAliases | .functionAliases | .closeWrapper => 0

namespace Job

/-- How types are named in the file of the header. -/
def fileNaming (job : Job) : Naming :=
  job.naming (AliasTable.collect job.header)

/-- The lines that a stage adds to the file. -/
def block (job : Job) (stage : Stage) : List String :=
  linesFrom stage.indent (stage.script job job.fileNaming)

/-- The file of the header, as its stages make it without keeping any name. -/
def plainFile (job : Job) : Except Error String :=
  match Stage.all.findSome? (Stage.failure? job.options) with
  | some e => .error e
  | none => .ok (joined (Stage.all.flatMap job.block))

end Job

namespace Stage

variable {job : Job} {stage : Stage}

/-- Valid options are refused by no stage. -/
theorem failure?_of_valid {options : Options} (hspace : options.validSpace)
    (hlibrary : options.validLibrary) (stage : Stage) : stage.failure? options = none := by
  cases stage <;> simp [failure?, problem?, hspace, hlibrary]

/-- A stage that refuses the options ends the run. -/
theorem runAll_of_problem {problem : ConfigProblem} (rest : List Stage)
    (h : stage.problem? job.options = some problem) :
    runAll job (stage :: rest) = (do
      Emit.record ⟨.debug, .generation, "running stage: " ++ stage.title⟩
      return .error (Error.within ⟨.invalidConfig problem, []⟩ (.stageFailed stage.title))) := by
  rw [runAll, run, h]
  rfl

theorem runAll_of_accepted (rest : List Stage) (h : stage.problem? job.options = none) :
    runAll job (stage :: rest) = (do
      Emit.record ⟨.debug, .generation, "running stage: " ++ stage.title⟩
      stage.write job
      runAll job rest) := by
  rw [runAll, run, h]
  rfl

end Stage

namespace Emit

variable {job : Job}

theorem writes_run (stage : Stage) :
    Writes job (stage.run job)
      (fun _ => ((stage.problem? job.options).map fun p => ⟨.invalidConfig p, []⟩).elim
        (.ok ()) .error)
      fun n => if (stage.failure? job.options).isNone then stage.script job n else [] := by
  unfold Stage.run Stage.failure?
  cases stage.problem? job.options with
  | some problem => exact .pure _
  | none =>
    exact ((writes_stage stage).seq (.pure _)).congr (fun _ => rfl) fun _ => List.append_nil _

theorem writes_runAll (stages : List Stage) :
    Writes job (Stage.runAll job stages)
      (fun _ => (stages.findSome? (Stage.failure? job.options)).elim (.ok ()) .error)
      fun n => (Stage.accepted job.options stages).flatMap (Stage.script job n) := by
  induction stages with
  | nil => exact .pure _
  | cons stage rest ih =>
    cases hp : stage.problem? job.options with
    | some problem =>
      rw [Stage.runAll_of_problem rest hp]
      refine ((writes_record (.inl rfl)).seq (.pure _)).congr (fun n => ?_) fun n => ?_
      · simp [Stage.failure?, hp]
      · simp [Stage.failure?, Stage.accepted, hp]
    | none =>
      rw [Stage.runAll_of_accepted rest hp]
      refine ((writes_record (.inl rfl)).seq ((writes_stage stage).seq ih)).congr
        (fun n => ?_) fun n => ?_
      · simp [Stage.failure?, hp]
      · simp [Stage.failure?, Stage.accepted, hp]

end Emit

namespace Script

theorem balanced_comment (text : Option String) : Balanced (comment text) :=
  balanced_lines _

theorem balanced_constant (item : EnumItem) : Balanced (constant item) :=
  (balanced_comment _).append (balanced_line _)

theorem balanced_enumCase (item : EnumItem) : Balanced (enumCase item) :=
  (balanced_comment _).append (balanced_line _)

theorem balanced_enum (decl : EnumDecl) : Balanced (enum decl) := by
  refine ((balanced_comment _).append ?_).append balanced_blank
  split
  · exact .flatMap _ fun item _ => balanced_constant item
  · intro indent
    have hcases := (Balanced.flatMap (f := enumCase) decl.items
      fun item _ => balanced_enumCase item).nested
    simpa only [indentAfter, indentAfter_append, List.cons_append, List.append_assoc] using
      hcases indent

theorem balanced_function (job : Job) (n : Naming) (f : FunctionDecl) :
    Balanced (function job n f) := by
  unfold function
  split
  · exact fun _ => rfl
  · exact (balanced_comment _).append fun _ => rfl

theorem balanced_field (job : Job) (n : Naming) (f : Field) : Balanced (field job n f) :=
  (balanced_comment _).append fun _ => rfl

theorem balanced_constructor (fields : List FieldText) : Balanced (constructor fields) := by
  intro indent
  have hbody := (balanced_lines ((assignedFields fields).map fun f =>
    "this." ++ f.name ++ " = " ++ f.parameter ++ ";")).nested
  simpa only [constructor, indentAfter, indentAfter_append, List.cons_append] using hbody indent

theorem balanced_struct (job : Job) (n : Naming) (name : String) (decl : StructDecl) :
    Balanced (struct job n name decl) := by
  intro indent
  have hfields : Balanced (decl.fields.flatMap (field job n)) :=
    .flatMap _ fun f _ => balanced_field job n f
  have hconstructor : Balanced
      (if decl.fields.isEmpty then [] else constructor (decl.fields.map (job.fieldParts n))) := by
    split
    · exact fun _ => rfl
    · exact balanced_constructor _
  have hbody := (hfields.append hconstructor).nested indent
  simp only [indentAfter, indentAfter_append] at hbody
  simp only [struct, indentAfter, indentAfter_append, balanced_comment _ indent, hbody]

theorem balanced_plainAlias (job : Job) (n : Naming) (name : String) (id : TypeId) :
    Balanced (plainAlias job n name id) := by
  unfold plainAlias
  split <;> exact fun _ => rfl

theorem balanced_functionAlias (job : Job) (n : Naming) (name : String) (id : TypeId) :
    Balanced (functionAlias job n name id) := by
  unfold functionAlias
  split <;> exact fun _ => rfl

end Script

namespace Stage

variable (job : Job) (n : Naming)

/-- A stage ends with the indentation it starts from, unless it opens or closes the class or writes
the structs. -/
theorem balanced_script (stage : Stage)
    (h : stage ≠ .openWrapper ∧ stage ≠ .structs ∧ stage ≠ .closeWrapper) :
    Balanced (stage.script job n) := by
  cases stage with
  | usings => exact fun _ => rfl
  | functions => exact .flatMap _ fun f _ => Script.balanced_function job n f
  | enums => exact .flatMap _ fun decl _ => Script.balanced_enum decl
  | typeAliases => exact .flatMap _ fun entry _ => Script.balanced_plainAlias job n entry.1 entry.2
  | functionAliases =>
    exact .flatMap _ fun entry _ => Script.balanced_functionAlias job n entry.1 entry.2
  | openWrapper => exact absurd rfl h.1
  | structs => exact absurd rfl h.2.1
  | closeWrapper => exact absurd rfl h.2.2

/-- The structs begin by going to the left margin, and stay there. -/
theorem indentAfter_structs (indent : Nat) :
    indentAfter indent (Stage.structs.script job n) = 0 := by
  have hbodies : Balanced (job.header.writtenStructs.flatMap fun decl =>
      Script.struct job n decl.name (job.header.definingStruct decl)) :=
    .flatMap _ fun decl _ => Script.balanced_struct job n decl.name _
  exact hbodies 0

end Stage

namespace AliasTable

theorem origin_of_mem_recordsOfAll {r : Log.Record} (names : List Alias) (t : AliasTable)
    (h : r ∈ t.recordsOfAll names) : r.origin = .aliases := by
  induction names generalizing t with
  | nil => cases h
  | cons name rest ih =>
    rcases List.mem_append.1 h with h | h
    · cases name with
      | plain name id => cases h
      | function name id =>
        rw [recordsOf] at h
        split at h
        · rw [List.mem_singleton.1 h]
          rfl
        · cases h
    · exact ih _ h

end AliasTable

namespace Job

variable (job : Job)

/-- The lines of all stages together are those of one stage after the other. -/
theorem linesFrom_scripts (n : Naming) :
    linesFrom 0 (Stage.all.flatMap (Stage.script job n)) =
      Stage.all.flatMap fun stage => linesFrom stage.indent (stage.script job n) := by
  have husings : indentAfter 0 (Stage.script job n .usings) = 0 := rfl
  have hopen : indentAfter 0 (Stage.script job n .openWrapper) = 1 := rfl
  have hfunctions := Stage.balanced_script job n .functions (by decide) 1
  have henums := Stage.balanced_script job n .enums (by decide) 1
  have hplain := Stage.balanced_script job n .typeAliases (by decide) 0
  have halias := Stage.balanced_script job n .functionAliases (by decide) 0
  simp only [Stage.all, List.flatMap_cons, List.flatMap_nil, linesFrom_append, husings, hopen,
    hfunctions, henums, Stage.indentAfter_structs, hplain, halias, Stage.indent, linesFrom]

/-- After the stages have been run, the text is made from what they leave. -/
theorem exists_run_write : ∃ d : Draft, d.naming job = job.fileNaming ∧ d.output = {} ∧
    (job.write.run {}).1 =
      ((Stage.runAll job Stage.all).run d).1.map fun _ =>
        ((Stage.runAll job Stage.all).run d).2.output.text := by
  have hbind {α β : Type} (e : Emit α) (f : α → Emit β) (d : Draft) :
      (e >>= f).run d = (f (e.run d).1).run (e.run d).2 := rfl
  have hend {f : Except Error Unit → Emit (Except Error String)}
      (hf : ∀ result d, ((f result).run d).1 = result.map fun _ => d.output.text) (d : Draft) :
      ((Stage.runAll job Stage.all >>= f).run d).1 =
        ((Stage.runAll job Stage.all).run d).1.map fun _ =>
          ((Stage.runAll job Stage.all).run d).2.output.text :=
    hf _ _
  unfold write
  rw [hbind, hbind, hbind]
  refine ⟨_, ?_, ?_, hend (fun result d => ?_) _⟩
  · rfl
  · rfl
  · cases result with
    | error e => rfl
    | ok u => rfl

/-- No stage refuses the options where the first refusal is none. -/
theorem accepted_eq_self {options : Options} {stages : List Stage}
    (h : stages.findSome? (Stage.failure? options) = none) :
    Stage.accepted options stages = stages := by
  refine List.takeWhile_eq_self_iff.2 fun stage hstage => ?_
  simp [List.findSome?_eq_none_iff.1 h stage hstage]

variable {job} in
theorem plainFile_of_valid (hspace : job.options.validSpace) (hlibrary : job.options.validLibrary) :
    job.plainFile = .ok (joined (Stage.all.flatMap job.block)) := by
  rw [plainFile,
    List.findSome?_eq_none_iff.2 fun stage _ => Stage.failure?_of_valid hspace hlibrary stage]

/-- A run keeps names, but writes what it would write without keeping any. -/
theorem generate_eq_plainFile : job.generate.1 = job.plainFile := by
  obtain ⟨d, hnaming, houtput, hrun⟩ := job.exists_run_write
  have hwrites : Emit.Writes job (Stage.runAll job Stage.all) _ _ := Emit.writes_runAll Stage.all
  have hvalue := hwrites.value_eq d
  have hlines := hwrites.output_eq d
  change (job.write.run {}).1 = _
  rw [hrun, plainFile]
  generalize (Stage.runAll job Stage.all).run d = last at hvalue hlines
  obtain ⟨result, d'⟩ := last
  cases hfail : Stage.all.findSome? (Stage.failure? job.options) with
  | some e =>
    rw [hfail] at hvalue
    obtain rfl : result = .error e := hvalue
    rfl
  | none =>
    rw [hfail] at hvalue
    obtain rfl : result = .ok () := hvalue
    have hfile : d'.output.text = joined (Stage.all.flatMap job.block) := by
      rw [accepted_eq_self hfail, hnaming, houtput] at hlines
      rw [hlines, text_play, linesFrom_scripts]
      rfl
    exact congrArg Except.ok hfile

/-- The log of a run is about the names that are registered and about what is written. -/
theorem adds_generate :
    Log.Adds (fun r => r.origin = .aliases ∨ Draft.IsWriting r) #[] job.generate.2 := by
  have hbind {α β : Type} (e : Emit α) (f : α → Emit β) (d : Draft) :
      (e >>= f).run d = (f (e.run d).1).run (e.run d).2 := rfl
  have hcollect (r : Log.Record) (h : r ∈ AliasTable.recordsOfAll {} job.header.aliases) :
      r.origin = .aliases ∨ Draft.IsWriting r :=
    .inl (AliasTable.origin_of_mem_recordsOfAll _ _ h)
  have hwrites : Emit.Writes job (Stage.runAll job Stage.all) _ _ := Emit.writes_runAll Stage.all
  have hend {f : Except Error Unit → Emit (Except Error String)}
      (hf : ∀ result d, Log.Adds Draft.IsWriting d.log ((f result).run d).2.log) (d : Draft) :
      Log.Adds Draft.IsWriting d.log ((Stage.runAll job Stage.all >>= f).run d).2.log :=
    (hwrites.grows d).logs.trans (hf _ _)
  change Log.Adds _ #[] (job.write.run {}).2.log
  unfold write
  rw [hbind, hbind, hbind]
  refine Log.Adds.trans ?_ ((hend (fun result d => ?_) _).mono fun _ h => .inr h)
  · exact (Log.adds_append hcollect).trans (Log.adds_push (.inr (.inl rfl)))
  · cases result with
    | error e => exact .refl d.log
    | ok u => exact Log.adds_push (.inl rfl)

end Job

end HeaderBindings
