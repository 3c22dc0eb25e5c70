import HeaderBindings.Proofs.Bindings.FieldText
import HeaderBindings.Proofs.Bindings.Functions
import HeaderBindings.Proofs.Bindings.Options
import HeaderBindings.Proofs.Bindings.ParameterNames
import HeaderBindings.Proofs.Bindings.Typedefs
import HeaderBindings.Proofs.TypeGraph.Cycles
import HeaderBindings.Proofs.TypeGraph.Growth

/-! The structs and enums that a file mentions. Wherever the text of a type stands in the file, it
is made of the name of the tag that its layers end with; and the stages for structs and enums write
every struct and every enum that has a name. Nothing is written for a union. -/

namespace HeaderBindings

open Output TypeGraph

/-- `part` stands somewhere in `text`. -/
def Occurs (part text : String) : Prop :=
  ∃ before after, text = before ++ part ++ after

theorem Occurs.refl (text : String) : Occurs text text :=
  ⟨"", "", by simp⟩

theorem Occurs.trans {first second third : String} (h : Occurs first second)
    (h' : Occurs second third) : Occurs first third := by
  obtain ⟨before, after, rfl⟩ := h
  obtain ⟨before', after', rfl⟩ := h'
  exact ⟨before' ++ before, after ++ after', by simp only [String.append_assoc]⟩

theorem Occurs.append_left {part text : String} (h : Occurs part text) (front : String) :
    Occurs part (front ++ text) :=
  h.trans ⟨front, "", by simp⟩

theorem Occurs.append_right {part text : String} (h : Occurs part text) (rest : String) :
    Occurs part (text ++ rest) :=
  h.trans ⟨"", rest, by simp⟩

theorem occurs_intercalate {item : String} {items : List String} (sep : String) (h : item ∈ items) :
    Occurs item (sep.intercalate items) := by
  induction items with
  | nil => cases h
  | cons first rest ih =>
    cases rest with
    | nil =>
      rw [List.mem_singleton.1 h, String.intercalate_singleton]
      exact .refl _
    | cons second rest =>
      rw [String.intercalate_cons_cons]
      rcases List.mem_cons.1 h with rfl | h
      · exact ((Occurs.refl _).append_right _).append_right _
      · exact (ih h).append_left _

theorem exists_mem_zipWith {α β γ : Type} {f : α → β → γ} {a : α} {as : List α} {bs : List β}
    (h : a ∈ as) (hlength : as.length ≤ bs.length) : ∃ b, f a b ∈ List.zipWith f as bs := by
  induction as generalizing bs with
  | nil => cases h
  | cons first rest ih =>
    cases bs with
    | nil => simp at hlength
    | cons b bs =>
      rcases List.mem_cons.1 h with rfl | h
      · exact ⟨b, List.mem_cons_self⟩
      · obtain ⟨b', hb'⟩ := ih h (by simpa using hlength)
        exact ⟨b', List.mem_cons_of_mem _ hb'⟩

/-- A tag is defined in a header. A union stands among the structs. -/
def Header.Defines (h : Header) : TagKind → String → Prop
  | .enum, name => ∃ e ∈ h.enums, e.name = name
  | kind, name => ∃ s ∈ h.structs, s.isDefinition ∧ s.kind = kind ∧ s.name = name

namespace Job

/-- A line of the file that a stage writes, and the text of a type that stands in it. -/
inductive Mentions (job : Job) : Stage → TypeId → String → String → Prop
  | result {f : FunctionDecl} (h : f ∈ job.header.libraryFunctions) :
      Mentions job .functions f.result (job.text job.fileNaming f.result)
        (indented 1 (job.functionLine job.fileNaming f))
  | parameter {f : FunctionDecl} {p : Parameter} (h : f ∈ job.header.libraryFunctions)
      (hp : p ∈ f.parameters) :
      Mentions job .functions p.type (job.text job.fileNaming p.type)
        (indented 1 (job.functionLine job.fileNaming f))
  | field {decl : StructDecl} {f : Field} (h : decl ∈ job.header.writtenStructs)
      (hf : f ∈ (job.header.definingStruct decl).fields) :
      Mentions job .structs f.type (job.fieldText job.fileNaming f.name f.type)
        (indented 1 ("public " ++ job.fieldText job.fileNaming f.name f.type ++ " " ++
          Name.convert .pascal f.name ++ ";"))
  | constructor {decl : StructDecl} {f : Field} (h : decl ∈ job.header.writtenStructs)
      (hf : f ∈ (job.header.definingStruct decl).fields) :
      Mentions job .structs f.type (job.fieldText job.fileNaming f.name f.type)
        (indented 1 ("public this(" ++ String.intercalate ", "
          (((job.header.definingStruct decl).fields.map (job.fieldParts job.fileNaming)).map
            fun f => f.type ++ " " ++ f.parameter) ++ ")"))
  | typeAlias {name : String} {id : TypeId}
      (h : (name, id) ∈ (AliasTable.collect job.header).plain)
      (hunknown : job.typeMap.knows name = false) (hne : job.text job.fileNaming id ≠ name) :
      Mentions job .typeAliases id (job.text job.fileNaming id)
        ("public typealias " ++ name ++ " = " ++ job.text job.fileNaming id ++ ";")
  | functionResult {name : String} {id : TypeId} {s : Signature}
      (h : (name, id) ∈ (AliasTable.collect job.header).functions)
      (hs : job.types.node id = .function s) :
      Mentions job .functionAliases s.result (job.text job.fileNaming s.result)
        (job.functionTypeLine job.fileNaming (Name.convert .pascal name) s)
  | functionParameter {name : String} {id : TypeId} {s : Signature} {p : Parameter}
      (h : (name, id) ∈ (AliasTable.collect job.header).functions)
      (hs : job.types.node id = .function s) (hp : p ∈ s.parameters) :
      Mentions job .functionAliases p.type (job.text job.fileNaming p.type)
        (job.functionTypeLine job.fileNaming (Name.convert .pascal name) s)

/-- A line of the file begins the declaration of a struct or an enum called `name`. -/
def Declares (job : Job) (name : String) : Prop :=
  ∃ depth, indented depth ("public struct " ++ name) ∈ Stage.all.flatMap job.block ∨
    indented depth ("public enum " ++ name ++ " : c_int") ∈ Stage.all.flatMap job.block

variable {job : Job} {n : Naming} {stage : Stage} {id b : TypeId} {text line name : String}
  {xs : List TypeId}

theorem occurs_parameterText {p : Parameter} {parameters : List Parameter} (variadic : Bool)
    (h : p ∈ parameters) :
    Occurs (job.text n p.type) (job.parameterText n parameters variadic) := by
  have htype : job.text n p.type ∈ parameters.map fun p => job.text n p.type :=
    List.mem_map_of_mem h
  have hlength : (parameters.map fun p => job.text n p.type).length ≤
      (parameterNames (parameters.map (·.name))).length := by
    simp
  obtain ⟨name, hitem⟩ := exists_mem_zipWith (f := fun type name => type ++ " " ++ name)
    htype hlength
  have hin : Occurs (job.text n p.type) (job.text n p.type ++ " " ++ name) :=
    ((Occurs.refl _).append_right _).append_right _
  exact hin.trans (occurs_intercalate _ (List.mem_append_left _ hitem))

/-- The text of the type stands in the line. -/
theorem occurs_of_mentions (h : job.Mentions stage id text line) : Occurs text line := by
  cases h with
  | result h =>
    apply Occurs.append_left
    iterate 5 apply Occurs.append_right
    exact (Occurs.refl _).append_left _
  | parameter h hp =>
    apply Occurs.append_left
    apply Occurs.append_right
    exact (occurs_parameterText _ hp).append_left _
  | field h hf =>
    apply Occurs.append_left
    iterate 3 apply Occurs.append_right
    exact (Occurs.refl _).append_left _
  | @constructor decl f h hf =>
    apply Occurs.append_left
    apply Occurs.append_right
    apply Occurs.append_left
    have hparts : job.fieldParts job.fileNaming f ∈
        (job.header.definingStruct decl).fields.map (job.fieldParts job.fileNaming) :=
      List.mem_map_of_mem hf
    have hitem := List.mem_map_of_mem
      (f := fun f : FieldText => f.type ++ " " ++ f.parameter) hparts
    exact (((Occurs.refl _).append_right _).append_right _).trans (occurs_intercalate _ hitem)
  | typeAlias h hunknown hne =>
    apply Occurs.append_right
    exact (Occurs.refl _).append_left _
  | functionResult h hs =>
    iterate 5 apply Occurs.append_right
    exact (Occurs.refl _).append_left _
  | functionParameter h hs hp =>
    apply Occurs.append_right
    exact (occurs_parameterText _ hp).append_left _

/-- The lines of a struct are lines of the stage. -/
theorem mem_block_structs {decl : StructDecl} (h : decl ∈ job.header.writtenStructs)
    (hline : line ∈ job.structLines job.fileNaming decl.name (job.header.definingStruct decl)) :
    line ∈ job.block .structs := by
  rw [← linesFrom_struct] at hline
  exact mem_linesFrom_flatMap (fun decl _ => Script.balanced_struct job _ decl.name _) h hline

/-- The line is one of the stage. -/
theorem mem_block_of_mentions (h : job.Mentions stage id text line) : line ∈ job.block stage := by
  have hfunction {f : FunctionDecl} (hf : f ∈ job.header.libraryFunctions) :
      indented 1 (job.functionLine job.fileNaming f) ∈ job.block .functions := by
    rw [block, linesFrom_functions]
    refine List.mem_flatMap_of_mem hf ?_
    simp [functionLines, Stage.indent]
  cases h with
  | result h => exact hfunction h
  | parameter h hp => exact hfunction h
  | field h hf =>
    apply mem_block_structs h
    simp only [structLines, List.mem_append, List.mem_flatMap]
    refine .inl (.inl (.inr ⟨_, hf, ?_⟩))
    simp [fieldLines]
  | @constructor decl f h hf =>
    apply mem_block_structs h
    have hne : (job.header.definingStruct decl).fields ≠ [] := List.ne_nil_of_mem hf
    simp only [structLines, List.mem_append]
    refine .inl (.inr ?_)
    rw [if_neg hne, constructorLines]
    exact List.mem_append_left _ (List.mem_append_left _ List.mem_cons_self)
  | @typeAlias name id h hunknown hne =>
    have hline : (name, job.text job.fileNaming id) ∈ job.aliasLines := by
      refine List.mem_filter.2 ⟨List.mem_map.2 ⟨_, h, rfl⟩, ?_⟩
      simp [hunknown, hne]
    rw [block_typeAliases]
    exact List.mem_flatMap.2 ⟨_, hline, List.mem_cons_self⟩
  | functionResult h hs => exact functionTypeLine_mem_block h hs
  | functionParameter h hs hp => exact functionTypeLine_mem_block h hs

/-- Where a walk lands on a tag, the layers on its way end there. -/
theorem exists_descent_of_namingType {kind : TagKind}
    (hb : job.types.node (job.namingType id).id = .tagged kind name) :
    ∃ xs, Descent job.types job.typeMap.knows id xs (job.namingType id).id := by
  apply exists_descent (job.types.reaches_canonical job.typeMap.knows id)
  change job.types.step? job.typeMap.knows (job.namingType id).id = none
  simp only [step?, hb, CType.inner?]

/-- A type whose layers end with a tag leads to no function. -/
theorem isFunction_eq_false_of_tagged {kind : TagKind}
    (h : Descent job.types job.typeMap.knows id xs b) (hb : job.types.node b = .tagged kind name) :
    ∀ f, job.types.LeadsTo id f → (job.types.node f).isFunction = false := by
  intro f hlead
  refine Bool.eq_false_iff.2 fun hf => ?_
  have hinner : job.types.inner? b = none := inner?_of_node hb
  obtain ⟨ys, hys⟩ := descent_of_leadsTo hlead (inner?_of_isFunction hf)
  obtain ⟨zs, hzs⟩ := descent_of_leadsTo h.leadsTo hinner
  obtain rfl := (hys.unique hzs).2
  rw [hb] at hf
  cases hf

/-- A type whose layers end with a tag is written with the name of the tag, wherever it stands. -/
theorem text_of_mentions {kind : TagKind} (h : job.Mentions stage id text line)
    (hb : job.types.node (job.namingType id).id = .tagged kind name) (hname : name ≠ "") :
    ∃ depth sizes, text = job.typeMap.convert name ++ pointerSuffix depth ++ dimensions sizes := by
  obtain ⟨xs, hdescent⟩ := exists_descent_of_namingType hb
  have hfun := isFunction_eq_false_of_tagged hdescent hb
  have hbase : job.typeMap.baseText (job.types.node (job.namingType id).id) =
      job.typeMap.convert name := by
    rw [hb, TypeMap.baseText, if_neg (by simpa using hname)]
  have hplain : ∃ depth sizes, job.text job.fileNaming id =
      job.typeMap.convert name ++ pointerSuffix depth ++ dimensions sizes := by
    refine ⟨job.types.indirections (xs ++ [(job.namingType id).id]), [], ?_⟩
    rw [fileNaming, text_of_descent hdescent hfun, hbase, dimensions, String.append_empty]
  have hfield (field : String) : ∃ depth sizes, job.fieldText job.fileNaming field id =
      job.typeMap.convert name ++ pointerSuffix depth ++ dimensions sizes := by
    obtain ⟨extents, htext, -⟩ := exists_fieldText_eq (AliasTable.collect job.header) field
      hdescent hfun
    rw [fileNaming, htext, hbase]
    exact exists_storageText_eq _ extents
  cases h with
  | field h hf => exact hfield _
  | constructor h hf => exact hfield _
  | result h => exact hplain
  | parameter h hp => exact hplain
  | typeAlias h hunknown hne => exact hplain
  | functionResult h hs => exact hplain
  | functionParameter h hs hp => exact hplain

/-- Every struct with a name is declared. -/
theorem declares_of_struct {s : StructDecl} (hs : s ∈ job.header.structs) (hkind : s.kind = .struct)
    (hname : s.name ≠ "") : job.Declares s.name := by
  have hnames : s.name ∈ job.header.structNames :=
    Header.mem_structNames.2 ⟨hname, s, hs, hkind, rfl⟩
  rw [← Header.map_name_writtenStructs] at hnames
  obtain ⟨decl, hdecl, hdeclName⟩ := List.mem_map.1 hnames
  have hline : indented 0 ("public struct " ++ s.name) ∈ job.block .structs := by
    apply mem_block_structs hdecl
    rw [indented_zero, hdeclName]
    simp [structLines]
  exact ⟨0, .inl (List.mem_flatMap.2 ⟨.structs, by decide, hline⟩)⟩

/-- Every enum with a name is declared. -/
theorem declares_of_enum {e : EnumDecl} (he : e ∈ job.header.enums) (hname : e.name ≠ "") :
    job.Declares e.name := by
  have hline : indented 1 ("public enum " ++ e.name ++ " : c_int") ∈ job.block .enums := by
    refine mem_linesFrom_flatMap (fun e _ => Script.balanced_enum e) he ?_
    have hempty : e.name.isEmpty = false := by simpa using hname
    simp only [Script.enum, hempty, linesFrom_append, List.mem_append, List.append_assoc]
    refine .inr (.inl ?_)
    rw [Script.balanced_comment]
    exact List.mem_cons_of_mem _ List.mem_cons_self
  exact ⟨1, .inr (List.mem_flatMap.2 ⟨.enums, by decide, hline⟩)⟩

/-- Every struct and every enum that the header defines is declared. -/
theorem declares_of_defines {kind : TagKind} (hkind : kind ≠ .union)
    (h : job.header.Defines kind name) (hname : name ≠ "") : job.Declares name := by
  cases kind with
  | struct =>
    obtain ⟨s, hs, -, hstruct, rfl⟩ := h
    exact declares_of_struct hs hstruct hname
  | union => exact absurd rfl hkind
  | enum =>
    obtain ⟨e, he, rfl⟩ := h
    exact declares_of_enum he hname

/-- The file declares every struct and every enum that it mentions, if the header defines them. A
type is mentioned by a function, a field, a constructor, a plain name or a function type, and what
is written there begins with the name of the tag that the layers of the type end with, as the type
table gives it. -/
theorem mentioned_tags_declared (job : Job) (hspace : job.options.validSpace)
    (hlibrary : job.options.validLibrary) :
    job.generate.1 = .ok (joined (Stage.all.flatMap job.block)) ∧
    ∀ stage id text line, job.Mentions stage id text line →
      line ∈ Stage.all.flatMap job.block ∧ Occurs text line ∧
      ∀ kind name, job.types.node (job.namingType id).id = .tagged kind name → name ≠ "" →
        (∃ depth sizes,
          text = job.typeMap.convert name ++ pointerSuffix depth ++ dimensions sizes) ∧
        (kind ≠ .union → job.header.Defines kind name → job.Declares name) := by
  refine ⟨?_, ?_⟩
  · rw [generate_eq_plainFile, plainFile_of_valid hspace hlibrary]
  · intro stage id text line hmentions
    have hstage : stage ∈ Stage.all := by cases stage <;> decide
    refine ⟨List.mem_flatMap.2 ⟨stage, hstage, mem_block_of_mentions hmentions⟩,
      occurs_of_mentions hmentions, ?_⟩
    intro kind name hb hname
    refine ⟨text_of_mentions hmentions hb hname, ?_⟩
    intro hkind hdefines
    exact declares_of_defines hkind hdefines hname

/-- A struct that holds an array of pointers to itself. -/
def listStruct : StructDecl :=
  ⟨"list", .struct, [⟨"next", 3, none⟩], true, none⟩

/-- A function that takes an enum by the name of a typedef. -/
def sortFunction : FunctionDecl :=
  ⟨"sort", 0, [⟨"mode", 5⟩], false, false, false, none⟩

def lists : Job where
  header :=
    { types := ⟨#[.builtin .void, .tagged .struct "list", .pointer 1 false, .array 2 (some 4),
        .tagged .enum "mode", .typedefOf "mode_t" 4]⟩
      units :=
        [⟨"list.h", [.function sortFunction, .struct listStruct,
          .enum ⟨"mode", [⟨"fast", 1, none⟩], none⟩]⟩] }
  options := ⟨"demo.dll", "Demo"⟩
  typeMap := .withRules []

theorem mentioned_tags_declared_lists :
    (lists.options.validSpace ∧ lists.options.validLibrary) ∧
    lists.fieldText lists.fileNaming "next" 3 = "list*[4]" ∧
    lists.text lists.fileNaming 5 = "mode" ∧ lists.Declares "list" ∧ lists.Declares "mode" := by
  have hspace : lists.options.validSpace := by decide +kernel
  have hlibrary : lists.options.validLibrary := by decide +kernel
  obtain ⟨-, hmentions⟩ := mentioned_tags_declared lists hspace hlibrary
  have hlist : listStruct ∈ lists.header.writtenStructs := by decide +kernel
  have hnext : (⟨"next", 3, none⟩ : Field) ∈ (lists.header.definingStruct listStruct).fields := by
    decide +kernel
  have hsort : sortFunction ∈ lists.header.libraryFunctions := by decide +kernel
  have hmode : (⟨"mode", 5⟩ : Parameter) ∈ sortFunction.parameters := List.mem_cons_self
  obtain ⟨-, -, hstruct⟩ := hmentions _ _ _ _ (.field hlist hnext)
  obtain ⟨-, -, henum⟩ := hmentions _ _ _ _ (.parameter hsort hmode)
  have hstructName : lists.types.node (lists.namingType 3).id = .tagged .struct "list" := by
    decide +kernel
  have henumName : lists.types.node (lists.namingType 5).id = .tagged .enum "mode" := by
    decide +kernel
  refine ⟨⟨hspace, hlibrary⟩, by decide +kernel, by decide +kernel, ?_, ?_⟩
  · apply (hstruct _ _ hstructName (by decide)).2 (by decide)
    exact ⟨listStruct, by decide +kernel, rfl, rfl, rfl⟩
  · apply (henum _ _ henumName (by decide)).2 (by decide)
    exact ⟨⟨"mode", [⟨"fast", 1, none⟩], none⟩, by decide +kernel, rfl⟩

/-- A function that takes a pointer to a union. -/
def readFunction : FunctionDecl :=
  ⟨"read_number", 0, [⟨"value", 2⟩], false, false, false, none⟩

def numbers : Job where
  header :=
    { types := ⟨#[.builtin .int, .tagged .union "number", .pointer 1 false]⟩
      units :=
        [⟨"lib.h", [.struct ⟨"number", .union, [⟨"whole", 0, none⟩], true, none⟩,
          .function readFunction]⟩] }
  options := ⟨"demo.dll", "Demo"⟩
  typeMap := .withRules []

theorem suffix_indented (depth : Nat) (text : String) :
    text.toList <:+ (indented depth text).toList := by
  rw [indented, String.toList_append]
  exact List.suffix_append _ _

theorem not_declares_of_suffix (h : ∀ line ∈ Stage.all.flatMap job.block,
    ¬("public struct " ++ name).toList <:+ line.toList ∧
      ¬("public enum " ++ name ++ " : c_int").toList <:+ line.toList) : ¬job.Declares name := by
  rintro ⟨depth, hline | hline⟩
  · exact (h _ hline).1 (suffix_indented depth _)
  · exact (h _ hline).2 (suffix_indented depth _)

/-- A union that is defined and mentioned is not declared. -/
theorem not_forall_mentioned_declared :
    ¬∀ (job : Job) (stage : Stage) (id : TypeId) (text line : String) (kind : TagKind)
      (name : String), job.options.validSpace → job.options.validLibrary →
      job.types.WellFormed → job.Mentions stage id text line →
      job.types.node (job.namingType id).id = .tagged kind name →
      Options.IsIdentifier name.toList → job.typeMap.knows name = false →
      job.header.Defines kind name → job.Declares name := by
  intro h
  have hread : readFunction ∈ numbers.header.libraryFunctions := by decide +kernel
  have hvalue : (⟨"value", 2⟩ : Parameter) ∈ readFunction.parameters := List.mem_cons_self
  have hdeclared : numbers.Declares "number" :=
    h numbers _ _ _ _ .union "number" (by decide +kernel) (by decide +kernel)
      (Built.of_forall_lt (by decide)).wellFormed (.parameter hread hvalue) (by decide +kernel)
      (Options.isSegment_iff.1 (by decide +kernel)) (by decide +kernel)
      ⟨⟨"number", .union, [⟨"whole", 0, none⟩], true, none⟩, by decide +kernel, rfl, rfl, rfl⟩
  refine not_declares_of_suffix ?_ hdeclared
  decide +kernel

end Job

end HeaderBindings
