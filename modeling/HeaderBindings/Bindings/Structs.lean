import HeaderBindings.Bindings.TypeText

/-! Structs: each name once, with the fields of its definition and a constructor that sets them. -/

namespace HeaderBindings

def firstsBeyond {α : Type} (key : α → String) (seen : List String) : List α → List α
  | [] => []
  | a :: rest =>
    if key a ∈ seen then firstsBeyond key seen rest
    else a :: firstsBeyond key (key a :: seen) rest

/-- The entries whose key no entry before them has. -/
def firsts {α : Type} (key : α → String) (entries : List α) : List α :=
  firstsBeyond key [] entries

/-- What is written of a field: its type, its name, and the parameter of the constructor. -/
structure FieldText where
  type : String
  name : String
  parameter : String
  deriving DecidableEq, Repr

/-- The fields that the constructor sets: of fields with the same written name the first one. -/
def assignedFields (fields : List FieldText) : List FieldText :=
  firsts FieldText.name fields

/-- The structs of a header that are written: those with a name, each name once. -/
def Header.writtenStructs (h : Header) : List StructDecl :=
  firsts StructDecl.name (h.structs.filter fun s => s.kind = .struct && !s.name.isEmpty)

namespace Emit

def field (job : Job) (f : Field) : Emit FieldText := do
  let type ← fieldTypeText job f.name f.type
  let name := Name.convert .pascal f.name
  comment f.comment
  line ("public " ++ type ++ " " ++ name ++ ";")
  blank
  return ⟨type, name, Name.parameter f.name⟩

def constructor (fields : List FieldText) : Emit Unit := do
  let parameters := fields.map fun f => f.type ++ " " ++ f.parameter
  line ("public this(" ++ String.intercalate ", " parameters ++ ")")
  line "\x7b"
  deeper
  lines ((assignedFields fields).map fun f => "this." ++ f.name ++ " = " ++ f.parameter ++ ";")
  shallower
  line "\x7d"

/-- A struct called `name` with the fields of `decl`. -/
def structBody (job : Job) (name : String) (decl : StructDecl) : Emit Unit := do
  comment decl.comment
  line "[CRepr]"
  line ("public struct " ++ name)
  line "\x7b"
  deeper
  let fields ← decl.fields.mapM (field job)
  if fields.isEmpty then pure () else constructor fields
  shallower
  line "\x7d"
  blank

def struct (job : Job) (decl : StructDecl) : Emit Unit := do
  let defining := job.header.definingStruct decl
  if defining.isDefinition then pure ()
  else record ⟨.debug, .generation, "struct is only forward declared: " ++ decl.name⟩
  structBody job decl.name defining

end Emit

end HeaderBindings
