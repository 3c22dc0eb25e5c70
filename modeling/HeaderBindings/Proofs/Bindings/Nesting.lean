import HeaderBindings.Proofs.Bindings.Inert

/-! The file is well nested and indented. The indentation is one counter that all stages share: the
class opens a block that only the last stage closes, and the structs begin by setting the counter
back to zero inside that block. So from there on every line has one tab less than the braces around
it, which the last stage makes up for by going back a level that is not there. -/

namespace HeaderBindings

open Output

namespace Script

variable {job : Job} {n : Naming}

theorem nested_comment {text : Option String} (h : ∀ comment ∈ text, BraceFree comment) :
    Nested (comment text) := by
  have hfree : BraceFree (text.getD "") := by
    cases text with
    | none => decide
    | some comment => exact h comment rfl
  refine nested_lines fun line hline => ?_
  obtain ⟨l, hl, rfl⟩ := List.mem_map.1 hline
  exact inline_trim hl hfree

theorem nested_constant {item : EnumItem} (hname : Inert item.name)
    (hcomment : ∀ comment ∈ item.comment, BraceFree comment) : Nested (constant item) := by
  have hline :
      Inline ("public const c_int " ++ item.name ++ " = " ++ toString item.value ++ ";") := by
    refine ⟨?_, by simp⟩
    simp only [inert_append, hname, inert_intCast, and_true]
    decide
  exact (nested_comment hcomment).append (.line hline .nil)

theorem nested_enumCase {item : EnumItem} (hname : Inert item.name)
    (hcomment : ∀ comment ∈ item.comment, BraceFree comment) : Nested (enumCase item) := by
  have hline : Inline ("case " ++ item.name ++ " = " ++ toString item.value ++ ";") := by
    refine ⟨?_, by simp⟩
    simp only [inert_append, hname, inert_intCast, and_true]
    decide
  exact (nested_comment hcomment).append (.line hline .nil)

theorem nested_enum {decl : EnumDecl} (hnames : ∀ name ∈ (Declaration.enum decl).names, Inert name)
    (hcomments : ∀ comment ∈ (Declaration.enum decl).comments, BraceFree comment) :
    Nested (enum decl) := by
  obtain ⟨hname, hitems⟩ := List.forall_mem_cons.1 hnames
  have hcomment : ∀ comment ∈ decl.comment, BraceFree comment := fun comment hc =>
    hcomments comment (List.mem_append_left _ (Option.mem_toList.2 hc))
  have hitem (item : EnumItem) (hi : item ∈ decl.items) : Inert item.name :=
    hitems _ (List.mem_map_of_mem hi)
  have hitemComment (item : EnumItem) (hi : item ∈ decl.items) :
      ∀ comment ∈ item.comment, BraceFree comment := fun comment hc =>
    hcomments comment (List.mem_append_right _ (List.mem_filterMap.2 ⟨item, hi, hc⟩))
  refine ((nested_comment hcomment).append ?_).append (.blank .nil)
  split
  · exact .flatMap _ fun item hi => nested_constant (hitem item hi) (hitemComment item hi)
  · have hcases : Nested (decl.items.flatMap enumCase) :=
      .flatMap _ fun item hi => nested_enumCase (hitem item hi) (hitemComment item hi)
    have hhead : Inline ("public enum " ++ decl.name ++ " : c_int") := by
      refine ⟨?_, by simp⟩
      simp only [inert_append, hname, and_true]
      decide
    have hattribute : Inline "[AllowDuplicates]" := ⟨by decide, by decide⟩
    simpa [toString] using Nested.line hattribute (.line hhead (hcases.block .nil))

theorem nested_function (hplain : job.Plain) (hn : ∀ id, Inert (n.name id)) {f : FunctionDecl}
    (hf : f ∈ job.header.functions) : Nested (function job n f) := by
  have hnames := hplain.names _ (Header.function_mem hf)
  obtain ⟨hname, hparameters⟩ := List.forall_mem_cons.1 hnames
  have himport : Inline ("[CLink, Import(\"" ++ job.options.library ++ "\")]") := by
    refine ⟨?_, by simp⟩
    simp only [inert_append, hplain.library, and_true]
    decide
  have hline : Inline (job.functionLine n f) := by
    unfold Job.functionLine
    refine ⟨?_, by simp⟩
    simp only [inert_append, Job.inert_text hn, inert_convertName hname,
      Job.inert_parameterText hn hparameters, and_true]
    decide
  unfold function
  split
  · exact .nil
  · refine (nested_comment fun comment hc => ?_).append
      (.line himport (.line hline (.blank .nil)))
    exact hplain.comments _ (Header.function_mem hf) comment (Option.mem_toList.2 hc)

theorem nested_field (hn : ∀ id, Inert (n.name id)) {f : Field} (hname : Inert f.name)
    (hcomment : ∀ comment ∈ f.comment, BraceFree comment) : Nested (field job n f) := by
  have hline : Inline ("public " ++ job.fieldText n f.name f.type ++ " " ++
      Name.convert .pascal f.name ++ ";") := by
    refine ⟨?_, by simp⟩
    simp only [inert_append, Job.inert_fieldText hn hname, inert_convertName hname, and_true]
    decide
  exact (nested_comment hcomment).append (.line hline (.blank .nil))

theorem nested_constructor {fields : List FieldText}
    (h : ∀ f ∈ fields, Inert f.type ∧ Inert f.name ∧ Inert f.parameter) :
    Nested (constructor fields) := by
  have hparameters : ∀ item ∈ fields.map (fun f => f.type ++ " " ++ f.parameter), Inert item := by
    intro item hitem
    obtain ⟨f, hf, rfl⟩ := List.mem_map.1 hitem
    exact ((h f hf).1.append (by decide)).append (h f hf).2.2
  have hhead : Inline ("public this(" ++ String.intercalate ", "
      (fields.map fun f => f.type ++ " " ++ f.parameter) ++ ")") := by
    refine ⟨?_, by simp⟩
    have hsep : Inert ", " := by decide
    simp only [inert_append, inert_intercalate hsep hparameters, and_true]
    decide
  have hassignments : ∀ line ∈ (assignedFields fields).map (fun f =>
      "this." ++ f.name ++ " = " ++ f.parameter ++ ";"), Inline line := by
    intro line hline
    obtain ⟨f, hf, rfl⟩ := List.mem_map.1 hline
    obtain ⟨-, hname, hparameter⟩ := h f (mem_of_mem_firsts hf)
    refine ⟨?_, by simp⟩
    simp only [inert_append, hname, hparameter, and_true]
    decide
  simpa [constructor] using Nested.line hhead ((nested_lines hassignments).block .nil)

/-- A struct is written with a name of one declaration and the fields of another. -/
theorem nested_struct (hn : ∀ id, Inert (n.name id)) {name : String} {decl : StructDecl}
    (hname : Inert name) (hnames : ∀ name ∈ (Declaration.struct decl).names, Inert name)
    (hcomments : ∀ comment ∈ (Declaration.struct decl).comments, BraceFree comment) :
    Nested (struct job n name decl) := by
  have hfield (f : Field) (hf : f ∈ decl.fields) : Inert f.name :=
    hnames _ (List.mem_cons_of_mem _ (List.mem_map_of_mem hf))
  have hcomment : ∀ comment ∈ decl.comment, BraceFree comment := fun comment hc =>
    hcomments comment (List.mem_append_left _ (Option.mem_toList.2 hc))
  have hfields : Nested (decl.fields.flatMap (field job n)) :=
    .flatMap _ fun f hf => nested_field hn (hfield f hf) fun comment hc =>
      hcomments comment (List.mem_append_right _ (List.mem_filterMap.2 ⟨f, hf, hc⟩))
  have hconstructor : Nested
      (if decl.fields.isEmpty then [] else constructor (decl.fields.map (job.fieldParts n))) := by
    split
    · exact .nil
    · refine nested_constructor fun parts hparts => ?_
      obtain ⟨f, hf, rfl⟩ := List.mem_map.1 hparts
      dsimp only [Job.fieldParts]
      exact ⟨Job.inert_fieldText hn (hfield f hf) _, inert_convertName (hfield f hf) _,
        inert_parameter (hfield f hf)⟩
  have hhead : Inline ("public struct " ++ name) :=
    ⟨(by decide : Inert "public struct ").append hname, by simp⟩
  have hattribute : Inline "[CRepr]" := ⟨by decide, by decide⟩
  have hblock := (hfields.append hconstructor).block (.blank .nil)
  simpa [struct] using (nested_comment hcomment).append (.line hattribute (.line hhead hblock))

theorem nested_plainAlias (hn : ∀ id, Inert (n.name id)) {name : String} (hname : Inert name)
    (id : TypeId) : Nested (plainAlias job n name id) := by
  have hline : Inline ("public typealias " ++ name ++ " = " ++ job.text n id ++ ";") := by
    refine ⟨?_, by simp⟩
    simp only [inert_append, hname, Job.inert_text hn, and_true]
    decide
  unfold plainAlias
  split
  · exact .nil
  · exact .line hline (.blank .nil)

theorem nested_functionAlias (hplain : job.Plain) (hn : ∀ id, Inert (n.name id)) {name : String}
    (hname : Inert name) (id : TypeId) : Nested (functionAlias job n name id) := by
  have hlayer := hplain.layer id
  unfold functionAlias
  cases hnode : job.types.node id with
  | function s =>
    rw [hnode] at hlayer
    have hline : Inline (job.functionTypeLine n (Name.convert .pascal name) s) := by
      unfold Job.functionTypeLine
      refine ⟨?_, by simp⟩
      simp only [inert_append, Job.inert_text hn, inert_convertName hname,
        Job.inert_parameterText hn hlayer, and_true]
      decide
    exact .line hline (.blank .nil)
  | _ => exact .nil

end Script

/-- The stages up to where the structs start. -/
def Stage.upper : List Stage :=
  [.usings, .openWrapper, .functions, .enums]

/-- The stages from the structs on, up to where the class is closed. -/
def Stage.lower : List Stage :=
  [.structs, .typeAliases, .functionAliases]

namespace Job

/-- What stages write to the file of the header, one after the other. -/
def steps (job : Job) (stages : List Stage) : List Step :=
  stages.flatMap (Stage.script job job.fileNaming)

/-- The draft of the file when some stages have been run. -/
def draftAfter (job : Job) (stages : List Stage) : Draft :=
  ((do Emit.collectAliases job; Stage.runAll job stages : Emit (Except Error Unit)).run {}).2

variable {job : Job}

theorem nested_usings (hspace : job.options.NamesSpace) :
    Nested (Stage.usings.script job job.fileNaming) := by
  have hline : Inline ("namespace " ++ job.options.space ++ ";") := by
    refine ⟨?_, by simp⟩
    simp only [inert_append, Options.inert_space hspace, and_true]
    decide
  have hsystem : Inline "using System;" := ⟨by decide, by decide⟩
  have hinterop : Inline "using System.Interop;" := ⟨by decide, by decide⟩
  exact .line hsystem (.line hinterop (.blank (.line hline (.blank .nil))))

theorem nested_functions (hplain : job.Plain) :
    Nested (Stage.functions.script job job.fileNaming) :=
  .flatMap _ fun _ hf => Script.nested_function hplain hplain.name hf

theorem nested_enums (hplain : job.Plain) : Nested (Stage.enums.script job job.fileNaming) :=
  .flatMap _ fun _ hd => Script.nested_enum (hplain.names _ (Header.enum_mem hd))
    (hplain.comments _ (Header.enum_mem hd))

/-- Once at the left margin, the structs are nested. -/
theorem nested_structs (hplain : job.Plain) :
    Nested (job.header.writtenStructs.flatMap fun decl =>
      Script.struct job job.fileNaming decl.name (job.header.definingStruct decl)) := by
  refine .flatMap _ fun decl hdecl => ?_
  have hwritten : decl ∈ job.header.structs := (List.mem_filter.1 (mem_of_mem_firsts hdecl)).1
  have hdefining := Header.struct_mem (Header.definingStruct_mem hdecl).1
  exact Script.nested_struct hplain.name
    (hplain.names _ (Header.struct_mem hwritten) _ List.mem_cons_self)
    (hplain.names _ hdefining) (hplain.comments _ hdefining)

theorem nested_typeAliases (hplain : job.Plain) :
    Nested (Stage.typeAliases.script job job.fileNaming) :=
  .flatMap _ fun entry hentry => Script.nested_plainAlias hplain.name
    (hplain.plainEntry hentry) entry.2

theorem nested_functionAliases (hplain : job.Plain) :
    Nested (Stage.functionAliases.script job job.fileNaming) :=
  .flatMap _ fun entry hentry => Script.nested_functionAlias hplain hplain.name
    (hplain.functionEntry hentry) entry.2

/-- The class is opened at the left margin, and nothing before the structs closes it. -/
theorem laid_upper (hspace : job.options.NamesSpace) (hplain : job.Plain) :
    Laid 0 0 (linesFrom 0 (job.steps Stage.upper)) 1 ∧
      indentAfter 0 (job.steps Stage.upper) = 1 := by
  have husings : Laid 0 0 (linesFrom 0 (Stage.usings.script job job.fileNaming)) 0 :=
    (nested_usings hspace).laid (Int.le_refl 0) rfl
  have hclass : Inline ("public class " ++ job.options.wrapperClass) := by
    refine ⟨?_, by simp⟩
    simp only [inert_append, Options.inert_wrapperClass hspace, and_true]
    decide
  have hopen : Laid 0 0 (linesFrom 0 (Stage.openWrapper.script job job.fileNaming)) 1 :=
    .cons (hclass.laidLine (Int.le_refl 0) rfl)
      (.cons (laidLine_opening (Int.le_refl 0) rfl) (.nil 1))
  have hfunctions : Laid 0 1 (linesFrom 1 (Stage.functions.script job job.fileNaming)) 1 :=
    (nested_functions hplain).laid (by decide) rfl
  have henums : Laid 0 1 (linesFrom 1 (Stage.enums.script job job.fileNaming)) 1 :=
    (nested_enums hplain).laid (by decide) rfl
  have husingsEnd : indentAfter 0 (Stage.usings.script job job.fileNaming) = 0 := rfl
  have hopenEnd : indentAfter 0 (Stage.openWrapper.script job job.fileNaming) = 1 := rfl
  have hfunctionsEnd := (nested_functions hplain).balanced 1
  have henumsEnd := (nested_enums hplain).balanced 1
  simp only [steps, Stage.upper, List.flatMap_cons, List.flatMap_nil, List.append_nil,
    linesFrom_append, indentAfter_append, husingsEnd, hopenEnd, hfunctionsEnd, henumsEnd, and_true]
  exact husings.append (hopen.append (hfunctions.append henums))

/-- From the structs on the lines stand one level further to the left than the braces ask for. -/
theorem laid_lower (hplain : job.Plain) :
    Laid 1 1 (linesFrom 1 (job.steps Stage.lower)) 1 ∧
      indentAfter 1 (job.steps Stage.lower) = 0 := by
  have hstructs : Laid 1 1 (linesFrom 1 (Stage.structs.script job job.fileNaming)) 1 :=
    (nested_structs hplain).laid (by decide) rfl
  have htypes : Laid 1 1 (linesFrom 0 (Stage.typeAliases.script job job.fileNaming)) 1 :=
    (nested_typeAliases hplain).laid (by decide) rfl
  have hfunctions : Laid 1 1 (linesFrom 0 (Stage.functionAliases.script job job.fileNaming)) 1 :=
    (nested_functionAliases hplain).laid (by decide) rfl
  have htypesEnd := (nested_typeAliases hplain).balanced 0
  have hfunctionsEnd := (nested_functionAliases hplain).balanced 0
  simp only [steps, Stage.lower, List.flatMap_cons, List.flatMap_nil, List.append_nil,
    linesFrom_append, indentAfter_append, Stage.indentAfter_structs, htypesEnd, hfunctionsEnd,
    and_true]
  exact hstructs.append (htypes.append hfunctions)

/-- The last stage goes back a level that is not there, and closes the class. -/
theorem laid_close : Laid 0 1 ["\x7d"] 0 := by
  have hline : LaidLine 0 1 (String.ofList (List.replicate 0 '\t') ++ "\x7d") 0 :=
    laidLine_closing (Int.le_refl 0) rfl
  exact .cons hline (.nil 0)

theorem steps_append (first second : List Stage) :
    job.steps (first ++ second) = job.steps first ++ job.steps second :=
  List.flatMap_append

theorem linesFrom_all (hspace : job.options.NamesSpace) (hplain : job.Plain) :
    linesFrom 0 (job.steps Stage.all) = linesFrom 0 (job.steps Stage.upper) ++
      linesFrom 1 (job.steps Stage.lower) ++ ["\x7d"] := by
  have hstages : Stage.all = Stage.upper ++ Stage.lower ++ [Stage.closeWrapper] := rfl
  have hlast : linesFrom 0 (job.steps [Stage.closeWrapper]) = ["\x7d"] :=
    congrArg (fun line => [line]) String.empty_append
  rw [hstages, steps_append, steps_append, linesFrom_append, linesFrom_append, indentAfter_append,
    (laid_upper hspace hplain).2, (laid_lower hplain).2, hlast]

/-- Valid options are refused by no stage, so a run writes what its stages write. -/
theorem lines_draftAfter (hspace : job.options.NamesSpace) (hlibrary : job.options.NamesLibrary)
    (stages : List Stage) :
    (job.draftAfter stages).output.lines.toList = linesFrom 0 (job.steps stages) := by
  have hwrites : Emit.Writes job (Stage.runAll job stages) _ _ := Emit.writes_runAll stages
  have hnone : stages.findSome? (Stage.failure? job.options) = none :=
    List.findSome?_eq_none_iff.2 fun stage _ =>
      Stage.failure?_of_valid (Options.validSpace_iff.2 hspace)
        (Options.validLibrary_iff.2 hlibrary) stage
  have houtput := hwrites.output_eq ((Emit.collectAliases job).run {}).2
  rw [accepted_eq_self hnone] at houtput
  rw [draftAfter]
  refine (congrArg (fun out => out.lines.toList) houtput).trans ?_
  rw [lines_play]
  rfl

/-- A stage goes back to the indentation it starts from, whether it refuses the options or not. -/
theorem indent_run {stage : Stage}
    (h : stage ≠ .openWrapper ∧ stage ≠ .structs ∧ stage ≠ .closeWrapper) (d : Draft) :
    ((stage.run job).run d).2.output.indent = d.output.indent := by
  have hwrites : Emit.Writes job (stage.run job) _ _ := Emit.writes_run stage
  rw [hwrites.output_eq d, indent_play]
  split
  · exact Stage.balanced_script job _ stage h _
  · rfl

theorem indent_run_structs (d : Draft) :
    ((Stage.structs.run job).run d).2.output.indent = 0 := by
  have hwrites : Emit.Writes job (Stage.structs.run job) _ _ := Emit.writes_run .structs
  rw [hwrites.output_eq d, indent_play]
  exact Stage.indentAfter_structs job _ _

/-- The file of a plain header is well nested. Up to the structs every line has as many tabs as
braces are open around it, and from there to the last line one less; the last line has none. The
indentation is changed by the stages that open and close the class and by the structs, which leave
it at the left margin. -/
theorem generate_wellNested (job : Job) (hspace : job.options.NamesSpace)
    (hlibrary : job.options.NamesLibrary) (hplain : job.Plain) :
    ∃ upper lower : List String,
      upper = (job.draftAfter Stage.upper).output.lines.toList ∧
      job.generate.1 = .ok (joined (upper ++ lower ++ ["\x7d"])) ∧
      (joined (upper ++ lower ++ ["\x7d"])).toList.splitOn '\n' =
        (upper ++ lower ++ ["\x7d"]).map String.toList ++ [[]] ∧
      WellNested (joined (upper ++ lower ++ ["\x7d"])).toList ∧
      (∀ before line after, upper = before ++ line :: after → line ≠ "" →
        (tabs line : Int) = lineDepth (depth (joined before).toList) line) ∧
      (∀ before line after, lower = before ++ line :: after → line ≠ "" →
        (tabs line : Int) = lineDepth (depth (joined (upper ++ before)).toList) line - 1) ∧
      tabs "\x7d" = lineDepth (depth (joined (upper ++ lower)).toList) "\x7d" ∧
      (∀ (stage : Stage) (d : Draft),
        stage ≠ .openWrapper ∧ stage ≠ .structs ∧ stage ≠ .closeWrapper →
        ((stage.run job).run d).2.output.indent = d.output.indent) ∧
      ∀ d : Draft, ((Stage.structs.run job).run d).2.output.indent = 0 := by
  have htext : job.generate.1 = .ok (joined (linesFrom 0 (job.steps Stage.all))) := by
    rw [generate_eq_plainFile, plainFile_of_valid (Options.validSpace_iff.2 hspace)
      (Options.validLibrary_iff.2 hlibrary)]
    exact congrArg (fun lines => Except.ok (joined lines)) (job.linesFrom_scripts _).symm
  rw [linesFrom_all hspace hplain] at htext
  have hlines := lines_draftAfter hspace hlibrary Stage.upper
  obtain ⟨hupper, -⟩ := laid_upper hspace hplain
  obtain ⟨hlower, -⟩ := laid_lower hplain
  generalize linesFrom 0 (job.steps Stage.upper) = upper at *
  generalize linesFrom 1 (job.steps Stage.lower) = lower at *
  have hupperDepth := hupper.depth_eq
  have hlowerDepth := hlower.depth_eq
  have hcloseDepth := laid_close.depth_eq
  refine ⟨upper, lower, hlines.symm, htext, ?_, ⟨?_, ?_⟩, ?_, ?_, ?_, ?_, indent_run_structs⟩
  · refine splitOn_joined fun line hline => ?_
    rcases List.mem_append.1 hline with hline | hline
    · exact (List.mem_append.1 hline).elim (hupper.no_feed line) (hlower.no_feed line)
    · exact laid_close.no_feed line hline
  · have hrest : StaysOpen 1 ((joined lower).toList ++ (joined ["\x7d"]).toList) := by
      refine (hlower.staysOpen (by decide)).append ?_
      rw [hlowerDepth]
      exact laid_close.staysOpen (by decide)
    rw [toList_joined_append, toList_joined_append, List.append_assoc]
    refine (hupper.staysOpen (Int.le_refl 0)).append ?_
    rw [hupperDepth]
    exact hrest
  · rw [toList_joined_append, toList_joined_append, depth_append, depth_append]
    omega
  · intro before line after heq hne
    rw [heq] at hupper
    simpa using hupper.tabs_eq hne
  · intro before line after heq hne
    rw [heq] at hlower
    rw [toList_joined_append, depth_append, ← Int.zero_add (depth (joined upper).toList),
      hupperDepth]
    exact hlower.tabs_eq hne
  · have hone : depth (joined (upper ++ lower)).toList = 1 := by
      rw [toList_joined_append, depth_append]
      omega
    rw [hone]
    decide
  · exact fun stage d h => indent_run h d

/-- An enum and a struct with comments of several lines, a struct without fields, a callback and a
name for it, with a rule of the user. -/
def panel : Job where
  header :=
    { types := ⟨#[.builtin .void, .builtin .int, .function ⟨0, [⟨"on_key", 1⟩, ⟨"", 1⟩], true⟩,
        .pointer 2 false, .tagged .struct "panel", .pointer 4 true, .array 1 (some 4)]⟩
      units := [⟨"panel.h",
        [.enum ⟨"edge", [⟨"EDGE_NONE", -1, some "no edge"⟩, ⟨"EDGE_TOP", 0, none⟩],
            some "\tAn edge.\n\n\tThere are two."⟩,
          .enum ⟨"", [⟨"PANEL_MAX", 16, none⟩], none⟩,
          .struct ⟨"canvas", .struct, [], false, some "opaque"⟩,
          .struct ⟨"panel", .struct, [⟨"on_event", 3, some "May be\nempty."⟩, ⟨"edges", 6, none⟩],
            true, none⟩,
          .typeAlias ⟨"panel_fn", 3⟩, .typeAlias ⟨"panel_ref", 5⟩,
          .function ⟨"panel_show", 0, [⟨"panel", 5⟩], false, false, false, some "Shows it."⟩]⟩] }
  options := ⟨"panel.dll", "Tools.Panel"⟩
  typeMap := .withRules [⟨"panel", "Panel"⟩]

theorem generate_wellNested_panel :
    (panel.options.NamesSpace ∧ panel.options.NamesLibrary ∧ panel.Plain) ∧
    ∃ text, panel.generate.1 = .ok text ∧ WellNested text.toList ∧
      ((Stage.structs.run panel).run { output := ⟨#["using System;"], 2⟩ }).2.output.indent = 0 := by
  have hspace : panel.options.NamesSpace := Options.validSpace_iff.1 (by decide)
  have hlibrary : panel.options.NamesLibrary := Options.validLibrary_iff.1 (by decide)
  have hplain : panel.Plain := by
    constructor <;> with_unfolding_all decide
  obtain ⟨upper, lower, -, htext, -, hnested, -, -, -, -, hstructs⟩ :=
    generate_wellNested panel hspace hlibrary hplain
  exact ⟨⟨hspace, hlibrary, hplain⟩, _, htext, hnested, hstructs _⟩

end Job

end HeaderBindings
