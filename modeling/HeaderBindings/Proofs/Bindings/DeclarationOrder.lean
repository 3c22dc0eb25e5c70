import HeaderBindings.Proofs.Bindings.Generate

/-! What the file takes from the order of a header. Enums, functions and named types are written by
stages of their own, and only a struct or a typedef registers names; so of the declarations nothing
counts but the order within each of these three kinds, whichever files they stand in and whatever
stands between them. -/

namespace HeaderBindings

open Output

/-- A declaration that may register names of types: a struct or a typedef. -/
def Declaration.namesTypes : Declaration → Bool
  | .struct _ | .typeAlias _ => true
  | .enum _ | .function _ => false

/-- The structs and the typedefs of a header, in the order of their declarations. -/
def Header.namings (h : Header) : List Declaration :=
  h.declarations.filter Declaration.namesTypes

/-- Two headers with the same types and the same sequence of declarations of each kind. -/
structure Header.SameOrder (h h' : Header) : Prop where
  types : h.types = h'.types
  enums : h.enums = h'.enums
  functions : h.functions = h'.functions
  namings : h.namings = h'.namings

namespace Header

variable {h h' : Header}

theorem structs_eq_filterMap_namings (h : Header) :
    h.structs = h.namings.filterMap Declaration.struct? := by
  unfold structs namings
  induction h.declarations with
  | nil => rfl
  | cons decl rest ih =>
    cases decl with
    | struct decl => exact congrArg (decl :: ·) ih
    | enum _ => exact ih
    | typeAlias _ => exact ih
    | function _ => exact ih

/-- An enum or a function registers no name. -/
theorem aliases_eq_flatMap_namings (h : Header) :
    h.aliases = h.namings.flatMap (aliasesOf h.types) := by
  unfold aliases namings
  induction h.declarations with
  | nil => rfl
  | cons decl rest ih =>
    cases decl with
    | struct decl => exact congrArg (aliasesOf h.types (.struct decl) ++ ·) ih
    | typeAlias decl => exact congrArg (aliasesOf h.types (.typeAlias decl) ++ ·) ih
    | enum _ => exact ih
    | function _ => exact ih

namespace SameOrder

theorem structs (hs : h.SameOrder h') : h.structs = h'.structs := by
  rw [structs_eq_filterMap_namings, hs.namings, ← structs_eq_filterMap_namings]

theorem aliases (hs : h.SameOrder h') : h.aliases = h'.aliases := by
  rw [aliases_eq_flatMap_namings, hs.namings, hs.types, ← aliases_eq_flatMap_namings]

theorem writtenStructs (hs : h.SameOrder h') : h.writtenStructs = h'.writtenStructs := by
  rw [Header.writtenStructs, hs.structs, ← Header.writtenStructs]

theorem definingStruct (hs : h.SameOrder h') (decl : StructDecl) :
    h.definingStruct decl = h'.definingStruct decl := by
  rw [Header.definingStruct, hs.structs, ← Header.definingStruct]

theorem collect (hs : h.SameOrder h') : AliasTable.collect h = AliasTable.collect h' := by
  rw [AliasTable.collect, hs.aliases, ← AliasTable.collect]

end SameOrder

end Header

/-- Two jobs that agree on everything but the declarations. -/
structure Job.SameTypes (job job' : Job) : Prop where
  types : job.types = job'.types
  options : job.options = job'.options
  typeMap : job.typeMap = job'.typeMap

namespace Job.SameTypes

variable {job job' : Job}

theorem typeName (hs : job.SameTypes job') (aliases : AliasTable) (id : TypeId) :
    job.typeName aliases id = job'.typeName aliases id := by
  unfold Job.typeName layerName namingType
  rw [hs.types, hs.typeMap]

theorem suffixedText (hs : job.SameTypes job') (n : Naming) (id : TypeId) :
    job.suffixedText n id = job'.suffixedText n id := by
  unfold Job.suffixedText suffixDepth
  rw [hs.types, hs.typeMap]

theorem text (hs : job.SameTypes job') (n : Naming) (id : TypeId) :
    job.text n id = job'.text n id := by
  induction id using Nat.strongRecOn with
  | _ id ih =>
    rw [Job.text.eq_def job n id, Job.text.eq_def job' n id, hs.types]
    split
    · next element size hn =>
      split
      · next hlt => rw [ih element hlt]
      · exact hs.suffixedText n id
    · exact hs.suffixedText n id

theorem fieldText (hs : job.SameTypes job') (n : Naming) (field : String) (id : TypeId) :
    job.fieldText n field id = job'.fieldText n field id := by
  induction id using Nat.strongRecOn with
  | _ id ih =>
    rw [Job.fieldText.eq_def job n field id, Job.fieldText.eq_def job' n field id, hs.types]
    split
    · rfl
    · split
      · next element size hn =>
        split
        · next hlt => rw [ih element hlt]
        · exact hs.text n id
      · exact hs.text n id

theorem parameterText (hs : job.SameTypes job') (n : Naming) (parameters : List Parameter)
    (variadic : Bool) :
    job.parameterText n parameters variadic = job'.parameterText n parameters variadic := by
  simp only [Job.parameterText, hs.text]

theorem functionScript (hs : job.SameTypes job') (n : Naming) (f : FunctionDecl) :
    Script.function job n f = Script.function job' n f := by
  have hline : job.functionLine n f = job'.functionLine n f := by
    unfold functionLine
    rw [hs.text, hs.parameterText]
  unfold Script.function
  rw [hline, hs.options]

theorem structScript (hs : job.SameTypes job') (n : Naming) (name : String) (decl : StructDecl) :
    Script.struct job n name decl = Script.struct job' n name decl := by
  have hparts : job.fieldParts n = job'.fieldParts n := by
    funext f
    simp only [fieldParts, hs.fieldText]
  have hfield : Script.field job n = Script.field job' n := by
    funext f
    simp only [Script.field, hparts]
  simp only [Script.struct, hfield, hparts]

theorem plainAliasScript (hs : job.SameTypes job') (n : Naming) (name : String) (id : TypeId) :
    Script.plainAlias job n name id = Script.plainAlias job' n name id := by
  simp only [Script.plainAlias, hs.typeMap, hs.text]

theorem functionAliasScript (hs : job.SameTypes job') (n : Naming) (name : String) (id : TypeId) :
    Script.functionAlias job n name id = Script.functionAlias job' n name id := by
  have hline (s : Signature) : job.functionTypeLine n (Name.convert .pascal name) s =
      job'.functionTypeLine n (Name.convert .pascal name) s := by
    unfold functionTypeLine
    rw [hs.text, hs.parameterText]
  simp only [Script.functionAlias, hs.types, hline]

end Job.SameTypes

namespace Header.SameOrder

variable {h h' : Header} {options : Options} {typeMap : TypeMap}

theorem sameTypes (hs : h.SameOrder h') (options : Options) (typeMap : TypeMap) :
    Job.SameTypes ⟨h, options, typeMap⟩ ⟨h', options, typeMap⟩ :=
  ⟨hs.types, rfl, rfl⟩

/-- A stage reads the declarations of its own kind, in their order, and no others. -/
theorem stageScript (hs : h.SameOrder h') (n : Naming) (stage : Stage) :
    stage.script ⟨h, options, typeMap⟩ n = stage.script ⟨h', options, typeMap⟩ n := by
  have ht := hs.sameTypes options typeMap
  cases stage with
  | usings => rfl
  | openWrapper => rfl
  | closeWrapper => rfl
  | functions =>
    have hscript := funext (ht.functionScript n)
    rw [Stage.script, Stage.script, hs.functions, hscript]
  | enums => simp only [Stage.script, hs.enums]
  | structs => simp only [Stage.script, hs.writtenStructs, hs.definingStruct, ht.structScript]
  | typeAliases => simp only [Stage.script, ht.plainAliasScript]
  | functionAliases => simp only [Stage.script, ht.functionAliasScript]

theorem fileNaming (hs : h.SameOrder h') :
    Job.fileNaming ⟨h, options, typeMap⟩ = Job.fileNaming ⟨h', options, typeMap⟩ := by
  have hname := funext ((hs.sameTypes options typeMap).typeName (AliasTable.collect h'))
  simp only [Job.fileNaming, Job.naming, hs.collect, hname]

theorem block (hs : h.SameOrder h') (stage : Stage) :
    Job.block ⟨h, options, typeMap⟩ stage = Job.block ⟨h', options, typeMap⟩ stage := by
  rw [Job.block, hs.fileNaming, hs.stageScript, ← Job.block]

end Header.SameOrder

namespace Job

/-- Headers with the same types give the same file, or the same error, if they have the same
sequence of enums, the same sequence of functions and the same sequence of structs and typedefs.
Which files these stand in, how the three sequences lie among each other, and so in which order
types are named first, leaves no trace. -/
theorem generate_eq_of_sameOrder {h h' : Header} (hs : h.SameOrder h') (options : Options)
    (typeMap : TypeMap) :
    (generate ⟨h, options, typeMap⟩).1 = (generate ⟨h', options, typeMap⟩).1 := by
  have hblocks : block ⟨h, options, typeMap⟩ = block ⟨h', options, typeMap⟩ := funext hs.block
  rw [generate_eq_plainFile, generate_eq_plainFile, plainFile, plainFile, hblocks]

def visitEnum : EnumDecl := ⟨"order", [⟨"first", 0, none⟩], none⟩

def visitFunction : FunctionDecl := ⟨"visit", 0, [⟨"node", 2⟩], false, false, false, none⟩

def visitStruct : StructDecl := ⟨"node", .struct, [⟨"on_visit", 4, none⟩], true, none⟩

/-- A header with the types that the declarations above need. -/
def visits (units : List SourceUnit) : Header where
  types :=
    ⟨#[.builtin .int, .tagged .struct "node", .pointer 1 false, .function ⟨0, [⟨"node", 2⟩], false⟩,
      .pointer 3 false]⟩
  units := units

/-- A struct whose field and a typedef compete for a name, with an enum and a function between. -/
def mixedVisits : Header :=
  visits [⟨"node.h", [.struct visitStruct, .function visitFunction, .enum visitEnum,
    .typeAlias ⟨"OnVisitFn", 4⟩]⟩]

/-- The same declarations in three files, one for each kind. -/
def sortedVisits : Header :=
  visits [⟨"order.h", [.enum visitEnum]⟩, ⟨"node.h", [.struct visitStruct]⟩,
    ⟨"visit.h", [.typeAlias ⟨"OnVisitFn", 4⟩, .function visitFunction]⟩]

theorem generate_eq_of_sameOrder_visits :
    mixedVisits.SameOrder sortedVisits ∧ mixedVisits.declarations ≠ sortedVisits.declarations ∧
    (generate ⟨mixedVisits, ⟨"demo.dll", "Demo"⟩, .withRules []⟩).1 =
      (generate ⟨sortedVisits, ⟨"demo.dll", "Demo"⟩, .withRules []⟩).1 := by
  have hs : mixedVisits.SameOrder sortedVisits := ⟨rfl, rfl, rfl, rfl⟩
  exact ⟨hs, by decide, generate_eq_of_sameOrder hs _ _⟩

end Job

end HeaderBindings
