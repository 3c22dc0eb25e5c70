import HeaderBindings.Bindings
import HeaderBindings.Proofs.Bindings.Writes

/-! What is written for each declaration and by each stage, given how the types are named. These
scripts keep nothing and change nothing; every emitter writes its script. -/

namespace HeaderBindings

namespace Job

variable (job : Job) (n : Naming)

def suffixedText (id : TypeId) : String :=
  n.name id ++ pointerSuffix (job.suffixDepth id)

/-- A type with its pointers. -/
def text (id : TypeId) : String :=
  match job.types.node id with
  | .array element _ => if element < id then text element ++ "*" else job.suffixedText n id
  | _ => job.suffixedText n id
termination_by id

/-- The type of a field. -/
def fieldText (field : String) (id : TypeId) : String :=
  if job.types.isDirectFunctionPointer id then Name.fieldAlias field
  else match job.types.node id with
    | .array element (some size) =>
      if element < id then fieldText field element ++ s!"[{size}]" else job.text n id
    | _ => job.text n id
termination_by id

variable {job n}

theorem text_of_array {id element : TypeId} {size : Option Nat}
    (hn : job.types.node id = .array element size) (hlt : element < id) :
    job.text n id = job.text n element ++ "*" := by
  rw [text.eq_def job n id, hn]
  exact if_pos hlt

theorem text_of_not_array {id : TypeId}
    (hn : ∀ element size, job.types.node id = .array element size → ¬element < id) :
    job.text n id = job.suffixedText n id := by
  rw [text.eq_def]
  split
  · next he => exact if_neg (hn _ _ he)
  · rfl

/-- The recursion of `text`: down the arrays on the outside. -/
@[elab_as_elim]
theorem text_induction (job : Job) {motive : TypeId → Prop}
    (array : ∀ id element size, job.types.node id = .array element size → element < id →
      motive element → motive id)
    (other : ∀ id, (∀ element size, job.types.node id = .array element size → ¬element < id) →
      motive id)
    (id : TypeId) : motive id := by
  induction id using Nat.strongRecOn with
  | _ id ih =>
    by_cases harray : ∃ element size, job.types.node id = .array element size ∧ element < id
    · obtain ⟨element, size, hn, hlt⟩ := harray
      exact array id element size hn hlt (ih element hlt)
    · exact other id fun element size hn hlt => harray ⟨element, size, hn, hlt⟩

/-- The recursion of `fieldText`: down the arrays of constant size on the outside. -/
@[elab_as_elim]
theorem fieldText_induction (job : Job) {motive : TypeId → Prop}
    (array : ∀ id element size, job.types.node id = .array element (some size) → element < id →
      motive element → motive id)
    (other : ∀ id, (∀ element size, job.types.node id = .array element (some size) →
      ¬element < id) → motive id)
    (id : TypeId) : motive id := by
  induction id using Nat.strongRecOn with
  | _ id ih =>
    by_cases harray : ∃ element size, job.types.node id = .array element (some size) ∧ element < id
    · obtain ⟨element, size, hn, hlt⟩ := harray
      exact array id element size hn hlt (ih element hlt)
    · exact other id fun element size hn hlt => harray ⟨element, size, hn, hlt⟩

theorem fieldText_of_direct {field : String} {id : TypeId}
    (hd : job.types.isDirectFunctionPointer id) :
    job.fieldText n field id = Name.fieldAlias field := by
  rw [fieldText.eq_def, if_pos hd]

theorem fieldText_of_array {field : String} {id element : TypeId} {size : Nat}
    (hd : ¬job.types.isDirectFunctionPointer id)
    (hn : job.types.node id = .array element (some size)) (hlt : element < id) :
    job.fieldText n field id = job.fieldText n field element ++ s!"[{size}]" := by
  rw [fieldText.eq_def job n field id, if_neg hd, hn]
  exact if_pos hlt

theorem fieldText_of_not_array {field : String} {id : TypeId}
    (hd : ¬job.types.isDirectFunctionPointer id)
    (hn : ∀ element size, job.types.node id = .array element (some size) → ¬element < id) :
    job.fieldText n field id = job.text n id := by
  rw [fieldText.eq_def, if_neg hd]
  split
  · next he => exact if_neg (hn _ _ he)
  · rfl

variable (job n)

def parameterText (parameters : List Parameter) (variadic : Bool) : String :=
  let items := List.zipWith (fun type name => type ++ " " ++ name)
    (parameters.map fun p => job.text n p.type) (parameterNames (parameters.map (·.name)))
  String.intercalate ", " (items ++ if variadic then ["..."] else [])

/-- What is written of a field. -/
def fieldParts (f : Field) : FieldText :=
  ⟨job.fieldText n f.name f.type, Name.convert .pascal f.name, Name.parameter f.name⟩

/-- The line that declares a function of the library. -/
def functionLine (f : FunctionDecl) : String :=
  "public static extern " ++ job.text n f.result ++ " " ++ Name.convert .pascal f.name ++
    "(" ++ job.parameterText n f.parameters f.variadic ++ ");"

/-- The line that declares a function type. -/
def functionTypeLine (name : String) (s : Signature) : String :=
  "public function " ++ job.text n s.result ++ " " ++ name ++
    "(" ++ job.parameterText n s.parameters s.variadic ++ ");"

end Job

namespace Script

open Output

def comment (text : Option String) : List Step :=
  ((Text.lines (text.getD "").toList).map fun l => String.ofList (Text.trim l)).map .line

def constant (item : EnumItem) : List Step :=
  comment item.comment ++ [.line s!"public const c_int {item.name} = {item.value};"]

def enumCase (item : EnumItem) : List Step :=
  comment item.comment ++ [.line s!"case {item.name} = {item.value};"]

def enum (decl : EnumDecl) : List Step :=
  comment decl.comment ++
    (if decl.name.isEmpty then decl.items.flatMap constant
    else
      [.line "[AllowDuplicates]", .line s!"public enum {decl.name} : c_int", .line "\x7b",
        .deeper] ++ decl.items.flatMap enumCase ++ [.shallower, .line "\x7d"]) ++
    [.blank]

def function (job : Job) (n : Naming) (f : FunctionDecl) : List Step :=
  if f.isInline || f.isOperator then []
  else
    comment f.comment ++
      [.line ("[CLink, Import(\"" ++ job.options.library ++ "\")]"), .line (job.functionLine n f),
        .blank]

def field (job : Job) (n : Naming) (f : Field) : List Step :=
  let parts := job.fieldParts n f
  comment f.comment ++ [.line ("public " ++ parts.type ++ " " ++ parts.name ++ ";"), .blank]

def constructor (fields : List FieldText) : List Step :=
  let parameters := fields.map fun f => f.type ++ " " ++ f.parameter
  let assignments := (assignedFields fields).map fun f =>
    "this." ++ f.name ++ " = " ++ f.parameter ++ ";"
  [.line ("public this(" ++ String.intercalate ", " parameters ++ ")"), .line "\x7b", .deeper] ++
    assignments.map .line ++ [.shallower, .line "\x7d"]

/-- A struct called `name` with the fields of `decl`. -/
def struct (job : Job) (n : Naming) (name : String) (decl : StructDecl) : List Step :=
  comment decl.comment ++
    [.line "[CRepr]", .line ("public struct " ++ name), .line "\x7b", .deeper] ++
    decl.fields.flatMap (field job n) ++
    (if decl.fields.isEmpty then [] else constructor (decl.fields.map (job.fieldParts n))) ++
    [.shallower, .line "\x7d", .blank]

def plainAlias (job : Job) (n : Naming) (name : String) (id : TypeId) : List Step :=
  if job.typeMap.knows name || job.text n id == name then []
  else [.line ("public typealias " ++ name ++ " = " ++ job.text n id ++ ";"), .blank]

def functionAlias (job : Job) (n : Naming) (name : String) (id : TypeId) : List Step :=
  match job.types.node id with
  | .function s => [.line (job.functionTypeLine n (Name.convert .pascal name) s), .blank]
  | _ => []

end Script

/-- What a stage writes that does not fail. -/
def Stage.script (job : Job) (n : Naming) : Stage → List Output.Step
  | .usings =>
    [.line "using System;", .line "using System.Interop;", .blank,
      .line ("namespace " ++ job.options.space ++ ";"), .blank]
  | .openWrapper =>
    [.line ("public class " ++ job.options.wrapperClass), .line "\x7b", .deeper]
  | .functions => job.header.functions.flatMap (Script.function job n)
  | .enums => job.header.enums.flatMap Script.enum
  | .structs =>
    .leftmost :: job.header.writtenStructs.flatMap fun decl =>
      Script.struct job n decl.name (job.header.definingStruct decl)
  | .typeAliases => n.aliases.plain.flatMap fun (name, id) => Script.plainAlias job n name id
  | .functionAliases =>
    n.aliases.functions.flatMap fun (name, id) => Script.functionAlias job n name id
  | .closeWrapper => [.shallower, .line "\x7d"]

namespace Emit

variable {job : Job}

theorem writes_suffixedName (id : TypeId) :
    Writes job (suffixedName job id) (job.suffixedText · id) fun _ => [] :=
  (writes_typeName id).bind fun _ => .pure _

theorem writes_typeText (id : TypeId) :
    Writes job (typeText job id) (job.text · id) fun _ => [] := by
  induction id using Nat.strongRecOn with
  | _ id ih =>
    unfold typeText
    split
    · next element size hn =>
      split
      · next hlt =>
        exact ((ih element hlt).bind fun _ => .pure _).congr
          (fun _ => (Job.text_of_array hn hlt).symm) fun _ => rfl
      · next hlt =>
        refine (writes_suffixedName id).congr (fun _ => ?_) fun _ => rfl
        exact (Job.text_of_not_array fun _ _ he => by rw [hn] at he; cases he; exact hlt).symm
    · next hn =>
      exact (writes_suffixedName id).congr
        (fun _ => (Job.text_of_not_array fun _ _ he => absurd he (hn _ _)).symm) fun _ => rfl

theorem writes_fieldTypeText (field : String) (id : TypeId) :
    Writes job (fieldTypeText job field id) (job.fieldText · field id) fun _ => [] := by
  induction id using Nat.strongRecOn with
  | _ id ih =>
    unfold fieldTypeText
    split
    · next hd =>
      exact (Writes.pure _).congr (fun _ => (Job.fieldText_of_direct hd).symm) fun _ => rfl
    · next hd =>
      split
      · next element size hn =>
        split
        · next hlt =>
          exact ((ih element hlt).bind fun _ => .pure _).congr
            (fun _ => (Job.fieldText_of_array hd hn hlt).symm) fun _ => rfl
        · next hlt =>
          refine (writes_typeText id).congr (fun _ => ?_) fun _ => rfl
          exact (Job.fieldText_of_not_array hd fun _ _ he => by
            rw [hn] at he; cases he; exact hlt).symm
      · next hn =>
        exact (writes_typeText id).congr
          (fun _ => (Job.fieldText_of_not_array hd fun _ _ he => absurd he (hn _ _)).symm)
          fun _ => rfl

theorem writes_parameterList (parameters : List Parameter) (variadic : Bool) :
    Writes job (parameterList job parameters variadic)
      (job.parameterText · parameters variadic) fun _ => [] := by
  refine ((Writes.mapM parameters fun p => writes_typeText p.type).bind fun _ => .pure _).congr
    (fun _ => rfl) fun _ => ?_
  simp

theorem writes_comment (text : Option String) :
    Writes job (comment text) (fun _ => ()) fun _ => Script.comment text :=
  writes_lines _

theorem writes_constant (item : EnumItem) :
    Writes job (constant item) (fun _ => ()) fun _ => Script.constant item :=
  (writes_comment item.comment).seq (writes_line _)

theorem writes_enumCase (item : EnumItem) :
    Writes job (enumCase item) (fun _ => ()) fun _ => Script.enumCase item :=
  (writes_comment item.comment).seq (writes_line _)

theorem writes_enum (decl : EnumDecl) :
    Writes job (enum decl) (fun _ => ()) fun _ => Script.enum decl := by
  unfold enum Script.enum
  by_cases hname : decl.name.isEmpty
  · simp only [hname, if_true]
    refine ((writes_comment decl.comment).seq
      ((Writes.forM decl.items writes_constant).seq writes_blank)).congr (fun _ => rfl) fun _ => ?_
    simp
  · simp only [hname]
    refine ((writes_comment decl.comment).seq ((writes_line _).seq ((writes_line _).seq
      ((writes_line _).seq (writes_deeper.seq ((Writes.forM decl.items writes_enumCase).seq
        (writes_shallower.seq ((writes_line _).seq writes_blank)))))))).congr
      (fun _ => rfl) fun _ => ?_
    simp

theorem writes_function (f : FunctionDecl) :
    Writes job (function job f) (fun _ => ()) (Script.function job · f) := by
  unfold function Script.function
  split
  · exact writes_record (.inl rfl)
  · exact (writes_typeText f.result).bind fun _ =>
      (writes_parameterList f.parameters f.variadic).bind fun _ =>
        (writes_comment f.comment).seq ((writes_line _).seq ((writes_line _).seq writes_blank))

theorem writes_field (f : Field) :
    Writes job (field job f) (job.fieldParts · f) (Script.field job · f) := by
  refine ((writes_fieldTypeText f.name f.type).bind fun _ =>
    (writes_comment f.comment).seq ((writes_line _).seq (writes_blank.seq (.pure _)))).congr
    (fun _ => rfl) fun _ => ?_
  simp [Script.field, Job.fieldParts]

theorem writes_constructor (fields : List FieldText) :
    Writes job (constructor fields) (fun _ => ()) fun _ => Script.constructor fields := by
  refine ((writes_line _).seq ((writes_line _).seq (writes_deeper.seq
    ((writes_lines _).seq (writes_shallower.seq (writes_line _)))))).congr
    (fun _ => rfl) fun _ => ?_
  simp [Script.constructor]

theorem writes_structBody (name : String) (decl : StructDecl) :
    Writes job (structBody job name decl) (fun _ => ()) (Script.struct job · name decl) := by
  have hclose : Writes job (do shallower; line "\x7d"; blank) (fun _ => ())
      fun _ => [.shallower, .line "\x7d", .blank] :=
    writes_shallower.seq ((writes_line _).seq writes_blank)
  have hrest (fields : List FieldText) :
      Writes job
        (if fields.isEmpty then do shallower; line "\x7d"; blank
          else do constructor fields; shallower; line "\x7d"; blank)
        (fun _ => ())
        fun _ => (if fields.isEmpty then [] else Script.constructor fields) ++
          [.shallower, .line "\x7d", .blank] := by
    split
    · exact hclose
    · exact (writes_constructor fields).seq hclose
  refine ((writes_comment decl.comment).seq ((writes_line _).seq ((writes_line _).seq
    ((writes_line _).seq (writes_deeper.seq
      ((Writes.mapM decl.fields writes_field).bind hrest)))))).congr (fun _ => rfl) fun n => ?_
  simp [Script.struct]

theorem writes_struct (decl : StructDecl) :
    Writes job (struct job decl) (fun _ => ())
      (Script.struct job · decl.name (job.header.definingStruct decl)) := by
  unfold struct
  dsimp only
  split
  · exact writes_structBody _ _
  · exact (writes_record (.inl rfl)).seq (writes_structBody _ _)

theorem writes_plainAlias (name : String) (id : TypeId) :
    Writes job (plainAlias job name id) (fun _ => ()) (Script.plainAlias job · name id) := by
  unfold plainAlias Script.plainAlias
  by_cases hknown : job.typeMap.knows name
  · simp only [hknown, if_true, Bool.true_or]
    exact .pure ()
  · simp only [hknown, Bool.false_or]
    have hrest (target : String) :
        Writes job
          (if target = name then Pure.pure ()
            else do line ("public typealias " ++ name ++ " = " ++ target ++ ";"); blank)
          (fun _ => ())
          fun _ => if target == name then []
            else [.line ("public typealias " ++ name ++ " = " ++ target ++ ";"), .blank] := by
      split
      · next h => simpa [h] using Writes.pure ()
      · next h => simpa [h] using (writes_line _).seq writes_blank
    exact (writes_typeText id).bind hrest

theorem writes_functionAlias (name : String) (id : TypeId) :
    Writes job (functionAlias job name id) (fun _ => ()) (Script.functionAlias job · name id) := by
  unfold functionAlias Script.functionAlias
  cases job.types.node id with
  | function s =>
    exact (writes_typeText s.result).bind fun _ =>
      (writes_parameterList s.parameters s.variadic).bind fun _ => (writes_line _).seq writes_blank
  | _ => exact .pure ()

/-- What is written for the registered names is written for those of the first draft. -/
theorem Writes.of_aliases {β : Type} {f : AliasTable → Emit β} {value : AliasTable → Naming → β}
    {script : AliasTable → Naming → List Output.Step}
    (h : ∀ aliases, Writes job (f aliases) (value aliases) (script aliases)) :
    Writes job (do let d ← get; f d.aliases) (fun n => value n.aliases n)
      fun n => script n.aliases n where
  grows d := (h d.aliases).grows d
  value_eq d := (h d.aliases).value_eq d
  output_eq d := (h d.aliases).output_eq d

theorem writes_stage (stage : Stage) :
    Writes job (stage.write job) (fun _ => ()) (stage.script job) := by
  cases stage with
  | usings =>
    exact (writes_line _).seq ((writes_line _).seq (writes_blank.seq
      ((writes_line _).seq writes_blank)))
  | openWrapper => exact (writes_line _).seq ((writes_line _).seq writes_deeper)
  | functions => exact .forM _ writes_function
  | enums => exact .forM _ writes_enum
  | structs =>
    have hleft : Writes job (modifyOutput (·.leftmost)) (fun _ => ()) fun _ => [.leftmost] :=
      writes_modifyOutput fun _ => rfl
    exact hleft.seq (.forM _ writes_struct)
  | typeAliases =>
    exact .of_aliases fun _ => .forM _ fun entry : String × TypeId =>
      writes_plainAlias entry.1 entry.2
  | functionAliases =>
    exact .of_aliases fun _ => .forM _ fun entry : String × TypeId =>
      writes_functionAlias entry.1 entry.2
  | closeWrapper => exact writes_shallower.seq (writes_line _)

end Emit

end HeaderBindings
