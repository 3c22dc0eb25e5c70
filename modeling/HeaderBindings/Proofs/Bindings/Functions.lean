import HeaderBindings.Proofs.Bindings.Structs
import HeaderBindings.Proofs.Report.Found
import HeaderBindings.Proofs.Report.Units

/-! The functions of a report. Of all functions of one name the first that is read is declared, and
each that is in the library is written once; the files stand in the order of what is declared in
them, and within a file the functions stand in the order in which they are read. -/

namespace HeaderBindings

open Output

def FunctionDecl.isInLibrary (f : FunctionDecl) : Bool :=
  !f.isInline && !f.isOperator

/-- The functions of a header that the library has. -/
def Header.libraryFunctions (h : Header) : List FunctionDecl :=
  h.functions.filter FunctionDecl.isInLibrary

/-- The lines of a function. -/
def Job.functionLines (job : Job) (n : Naming) (depth : Nat) (f : FunctionDecl) : List String :=
  commentLines depth f.comment ++
    [indented depth ("[CLink, Import(\"" ++ job.options.library ++ "\")]"),
      indented depth (job.functionLine n f), ""]

namespace Entity

/-- A function that has a name. -/
def isNamedFunction (e : Entity) : Bool :=
  e.info.kind = .functionDecl && e.info.name.isSome

/-- The library does not have inline functions, nor operators. -/
def isInLibrary (e : Entity) : Bool :=
  !e.info.isInline && !isOperatorName (e.info.name.getD "")

end Entity

namespace Report

variable (report : Report) (skip : Bool)

/-- The functions that are declared, in the order in which they are read. -/
def functionEntities : List Entity :=
  firsts (fun e => e.info.name.getD "") ((report.visited skip).filter Entity.isNamedFunction)

/-- The files in the order in which something is declared in them. -/
def files : List String :=
  ((report.declared skip).map Entity.file).eraseDups

/-- The functions of the library, file by file. -/
def libraryFunctions : List Entity :=
  (report.files skip).flatMap fun file =>
    (report.functionEntities skip).filter fun e => e.isInLibrary && e.file = file

end Report

namespace TagNames

variable {names : TagNames} {bound : String → Bool}

/-- Only functions declare functions. -/
theorem kind_ne_of_mem_declaredBy {seen : List String} {e d : Entity}
    (hkind : e.info.kind ≠ .functionDecl) (hd : d ∈ names.declaredBy bound seen e) :
    d.info.kind ≠ .functionDecl := by
  rcases eq_or_lifts_of_mem_declaredBy hd with rfl | hlifts
  · exact hkind
  · intro hfunction
    have htag := hlifts.isTag.2
    rw [hfunction] at htag
    cases htag

/-- Of the functions that are read those are declared whose name is new. -/
theorem filter_isFunction_declaredAlong (es : List Entity) (seen : List String) :
    (names.declaredAlong bound seen es).filter (fun e => e.info.kind = .functionDecl) =
      firstsBeyond (fun e => e.info.name.getD "") seen (es.filter Entity.isNamedFunction) := by
  induction es generalizing seen with
  | nil => rfl
  | cons e rest ih =>
    rw [declaredAlong, List.filter_append, ih]
    by_cases hkind : e.info.kind = .functionDecl
    · rw [declaredBy, Entity.seenAfter, hkind]
      cases hname : e.info.name with
      | none =>
        rw [List.filter_cons_of_neg (by simp [Entity.isNamedFunction, hname])]
        rfl
      | some name =>
        rw [List.filter_cons_of_pos (by simp [Entity.isNamedFunction, hkind, hname]), firstsBeyond]
        by_cases hseen : name ∈ seen
        · simp [hname, hseen]
        · simp [hname, hseen, hkind]
    · have hnone : (names.declaredBy bound seen e).filter
          (fun e => e.info.kind = .functionDecl) = [] := by
        refine List.filter_eq_nil_iff.2 fun d hd => ?_
        simpa using kind_ne_of_mem_declaredBy hkind hd
      rw [hnone, List.filter_cons_of_neg (by simp [Entity.isNamedFunction, hkind]),
        Entity.seenAfter_of_ne hkind]
      rfl

end TagNames

namespace Report

variable {report : Report} {skip : Bool}

theorem functionEntities_eq : report.functionEntities skip =
    (report.declared skip).filter fun e => e.info.kind = .functionDecl :=
  (TagNames.filter_isFunction_declaredAlong _ _).symm

theorem files_eq : report.files skip =
    ((report.reading skip).declarations.toList.map Prod.fst).eraseDups := by
  have hfiles : (report.declared skip).map Entity.file =
      (report.reading skip).declarations.toList.map Prod.fst := by
    rw [← List.forall₂_eq_eq_eq, List.forall₂_map_left_iff, List.forall₂_map_right_iff]
    exact (report.forall₂_places skip).imp fun e entry h => h.1.symm
  rw [files, hfiles]

/-- A declaration is one of a function if its entity is a function. -/
theorem Declares.function? {tagNames : TagNames} {g : TypeGraph} {e : Entity} {d : Declaration}
    (h : report.Declares tagNames g e d) :
    Option.Rel (fun e f => report.Declares tagNames g e (.function f))
      (Option.guard (fun e => e.info.kind = .functionDecl) e) d.function? := by
  cases h with
  | enum hkind hdefinition =>
    rw [Option.guard, if_neg (by simp [hkind])]
    exact .none
  | record hkind hname hfields =>
    have hne : e.info.kind ≠ .functionDecl := fun hfunction => by
      rw [hfunction] at hkind
      cases hkind
    rw [Option.guard, if_neg (by simpa using hne)]
    exact .none
  | typeAlias hkind hname hid =>
    rw [Option.guard, if_neg (by simp [hkind])]
    exact .none
  | function hkind hname hresult hparameters =>
    rw [Option.guard, if_pos (by simpa using hkind)]
    exact .some (.function hkind hname hresult hparameters)

/-- What the functions of one file are read from. -/
theorem forall₂_functions_ofFile (file : String) :
    List.Forall₂
      (fun e f => report.Declares report.tagNames (report.reading skip).types e (.function f))
      ((report.functionEntities skip).filter fun e => e.file = file)
      (SourceUnit.ofFile (report.reading skip).declarations.toList file).functions := by
  have hplaces : List.Forall₂ (report.Places report.tagNames (report.reading skip).types)
      ((report.declared skip).filter fun e => e.file = file)
      ((report.reading skip).declarations.toList.filter fun entry => entry.1 = file) := by
    refine List.rel_filter (fun e entry h => ?_) (report.forall₂_places skip)
    change decide (e.file = file) = true ↔ decide (entry.1 = file) = true
    rw [h.1]
  have hdeclares : List.Forall₂ (report.Declares report.tagNames (report.reading skip).types)
      ((report.declared skip).filter fun e => e.file = file)
      (SourceUnit.ofFile (report.reading skip).declarations.toList file).declarations :=
    List.forall₂_map_right_iff.2 (hplaces.imp fun _ _ h => h.2)
  have hfunctions := List.rel_filterMap (fun e d h => Declares.function? h) hdeclares
  rw [functionEntities_eq, List.filter_comm]
  rw [List.filterMap_eq_filter] at hfunctions
  exact hfunctions

theorem forall₂_libraryFunctions : List.Forall₂
    (fun e f => report.Declares report.tagNames (report.reading skip).types e (.function f))
    (report.libraryFunctions skip) (report.reading skip).header.libraryFunctions := by
  have hheader : (report.reading skip).header.functions = (report.files skip).flatMap fun file =>
      (SourceUnit.ofFile (report.reading skip).declarations.toList file).functions := by
    rw [Header.functions, Header.declarations, Reading.header, SourceUnit.group_eq, files_eq,
      List.flatMap_map, List.filterMap_flatMap]
    rfl
  rw [Header.libraryFunctions, hheader, List.filter_flatMap, libraryFunctions]
  refine List.rel_flatMap (List.forall₂_same.2 fun _ _ => rfl) fun file _ heq => heq ▸ ?_
  rw [← List.filter_filter]
  refine List.rel_filter (fun e f h => ?_) (forall₂_functions_ofFile file)
  cases h with
  | function hkind hname hresult hparameters =>
    simp [Entity.isInLibrary, FunctionDecl.isInLibrary, hname]

/-- Of all functions of its name it is the one that is read first. -/
theorem mem_functionEntities {e : Entity} : e ∈ report.functionEntities skip ↔
    (report.visited skip).find? (fun other =>
      other.isNamedFunction && other.info.name == e.info.name) = some e := by
  rw [functionEntities, mem_firsts, List.find?_filter]
  by_cases he : e.isNamedFunction
  · refine iff_of_eq (congrArg (fun p => List.find? p _ = some e) (funext fun other => ?_))
    cases hother : other.isNamedFunction with
    | false => rfl
    | true =>
      obtain ⟨name, hname⟩ := Option.isSome_iff_exists.1 (Bool.and_eq_true_iff.1 he).2
      obtain ⟨name', hname'⟩ := Option.isSome_iff_exists.1 (Bool.and_eq_true_iff.1 hother).2
      simp [hname, hname', Bool.beq_eq_decide_eq]
  · constructor
    · intro hfind
      have hfound := List.find?_some hfind
      exact absurd (of_decide_eq_true hfound).1 he
    · intro hfind
      have hfound := List.find?_some hfind
      exact absurd (Bool.and_eq_true_iff.1 hfound).1 he

theorem nodup_names_functionEntities :
    ((report.functionEntities skip).map (·.info.name)).Nodup := by
  refine List.Nodup.of_map (fun name => name.getD "") ?_
  rw [List.map_map]
  exact nodup_map_firstsBeyond _ _ _

theorem nodup_files : (report.files skip).Nodup := by
  rw [files_eq]
  exact SourceUnit.nodup_files _

/-- No function of the library is left out where they are taken file by file, and none doubled. -/
theorem libraryFunctions_perm : (report.libraryFunctions skip).Perm
    ((report.functionEntities skip).filter Entity.isInLibrary) := by
  have hnodup : (report.functionEntities skip).Nodup := nodup_names_functionEntities.of_map
  have hfile : ∀ e ∈ report.functionEntities skip, e.file ∈ report.files skip := fun e he => by
    rw [functionEntities_eq] at he
    exact List.mem_eraseDups.2 (List.mem_map_of_mem (List.mem_of_mem_filter he))
  refine (List.perm_ext_iff_of_nodup (List.nodup_flatMap.2 ⟨fun file _ => hnodup.filter _, ?_⟩)
    (hnodup.filter _)).2 fun e => ?_
  · refine nodup_files.imp fun {file other} hne e he he' => hne ?_
    simp only [List.mem_filter, Bool.and_eq_true, decide_eq_true_eq] at he he'
    exact he.2.2.symm.trans he'.2.2
  · simp only [List.mem_flatMap, List.mem_filter, Bool.and_eq_true, decide_eq_true_eq]
    constructor
    · rintro ⟨file, -, he, hlibrary, -⟩
      exact ⟨he, hlibrary⟩
    · rintro ⟨he, hlibrary⟩
      exact ⟨e.file, hfile e he, he, hlibrary, rfl⟩

end Report

namespace Job

variable (job : Job) (n : Naming)

theorem linesFrom_function (f : FunctionDecl) (depth : Nat) :
    linesFrom depth (Script.function job n f) =
      if f.isInLibrary then job.functionLines n depth f else [] := by
  have hskipped : f.isInLibrary = !(f.isInline || f.isOperator) := (Bool.not_or _ _).symm
  rw [Script.function, hskipped]
  cases f.isInline || f.isOperator with
  | true => rfl
  | false =>
    change linesFrom depth (Script.comment f.comment ++ _) = job.functionLines n depth f
    rw [linesFrom_append, linesFrom_comment, Script.balanced_comment]
    rfl

theorem linesFrom_functions (depth : Nat) : linesFrom depth (Stage.functions.script job n) =
    job.header.libraryFunctions.flatMap (job.functionLines n depth) := by
  rw [Stage.script, linesFrom_flatMap fun f _ => Script.balanced_function job n f,
    Header.libraryFunctions]
  induction job.header.functions with
  | nil => rfl
  | cons f rest ih =>
    rw [List.flatMap_cons, ih, linesFrom_function, List.filter_cons]
    split
    · rfl
    · rfl

end Job

namespace Report

/-- Each function that is read is written once, with its first declaration, if the library has it.
Nothing else is written; the files stand in the order of what they declare. -/
theorem functions_written_once (report : Report) (skip : Bool) (options : Options)
    (typeMap : TypeMap) (hlibrary : options.validLibrary = true) (d : Draft) :
    let job : Job := ⟨(report.reading skip).header, options, typeMap⟩
    (∀ e, e ∈ report.visited skip ↔ Entity.Reached skip report.root.children e) ∧
    (∀ e, e ∈ report.functionEntities skip ↔
      (report.visited skip).find? (fun other =>
        other.isNamedFunction && other.info.name == e.info.name) = some e) ∧
    ((report.functionEntities skip).map (·.info.name)).Nodup ∧
    (report.functionEntities skip).Sublist (report.visited skip) ∧
    (report.libraryFunctions skip).Perm
      ((report.functionEntities skip).filter Entity.isInLibrary) ∧
    List.Forall₂ (report.Places report.tagNames job.types) (report.declared skip)
      (report.reading skip).declarations.toList ∧
    List.Forall₂ (fun e f => report.Declares report.tagNames job.types e (.function f))
      (report.libraryFunctions skip) job.header.libraryFunctions ∧
    ((Stage.functions.run job).run d).1 = .ok () ∧
    ((Stage.functions.run job).run d).2.output.lines.toList = d.output.lines.toList ++
      job.header.libraryFunctions.flatMap (job.functionLines (d.naming job) d.output.indent) ∧
    ((Stage.functions.run job).run d).2.output.indent = d.output.indent := by
  intro job
  have hproblem : Stage.functions.problem? job.options = none := if_pos hlibrary
  have hwrites : Emit.Writes job (Stage.functions.run job) _ _ := Emit.writes_run .functions
  have hvalue := hwrites.value_eq d
  have houtput := hwrites.output_eq d
  rw [hproblem] at hvalue
  rw [Stage.failure?, hproblem] at houtput
  change _ = d.output.play (Stage.functions.script job (d.naming job)) at houtput
  refine ⟨fun e => Entity.mem_openedAll, fun e => mem_functionEntities,
    nodup_names_functionEntities, ?_, libraryFunctions_perm, report.forall₂_places skip,
    forall₂_libraryFunctions, hvalue, ?_, ?_⟩
  · exact (firstsBeyond_sublist _ _ _).trans List.filter_sublist
  · rw [houtput, lines_play, job.linesFrom_functions]
  · rw [houtput, indent_play]
    exact Balanced.flatMap _ (fun f _ => Script.balanced_function job _ f) _

/-- Functions in two files: one of them twice, one inline, and one in a block of a system header. An
enum of the second file stands before them all. -/
def scatteredFunctions : Report where
  root :=
    let place (file : String) (line : Nat) : Option Location := some ⟨file, line, 1⟩
    let int : ReportedType := .mk { kind := .int, spelling := "int" } none none none none none []
    let function (file : String) (line : Nat) (name : String) : EntityInfo :=
      { kind := .functionDecl, name := some name, location := place file line, result := some int }
    let mode : EntityInfo :=
      { kind := .enumDecl, name := some "mode", location := place "mode.h" 1, isDefinition := true }
    let parameter : EntityInfo := { kind := .parmDecl, name := some "mode", type := some int }
    .mk { kind := .translationUnit }
      [.mk mode [] [],
        .mk { kind := .linkageSpec }
          [.mk { function "file.h" 2 "open_file" with comment := some "Opens." } []
              [.mk parameter [] []],
            .mk { kind := .linkageSpec, inSystemHeader := true }
              [.mk (function "stdio.h" 1 "puts") [] []] [],
            .mk { function "file.h" 3 "helper" with isInline := true } [] [],
            .mk (function "file.h" 4 "open_file") [] []] [],
        .mk (function "mode.h" 2 "close_file") [] []] []

theorem functions_written_once_scattered :
    let job : Job := ⟨(scatteredFunctions.reading true).header, ⟨"demo.dll", "Demo"⟩, .withRules []⟩
    job.options.validLibrary = true ∧
    (scatteredFunctions.libraryFunctions true).map (·.info.name) =
      [some "close_file", some "open_file"] ∧
    ((Stage.functions.run job).run {}).2.output.lines.toList =
      ["[CLink, Import(\"demo.dll\")]", "public static extern int32 CloseFile();", "", "Opens.",
        "[CLink, Import(\"demo.dll\")]", "public static extern int32 OpenFile(int32 mode);", ""] := by
  have hlibrary : Options.validLibrary ⟨"demo.dll", "Demo"⟩ = true := by decide +kernel
  obtain ⟨-, -, -, -, -, -, -, -, hlines, -⟩ := functions_written_once scatteredFunctions true
    ⟨"demo.dll", "Demo"⟩ (.withRules []) hlibrary {}
  exact ⟨hlibrary, by decide +kernel, hlines.trans (by decide +kernel)⟩

end Report

end HeaderBindings
