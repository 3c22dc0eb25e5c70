import HeaderBindings.Report.Reading

/-! Reported types as types of the graph. Every use of a type is a type of its own, except for
typedefs, of which there is one for each name. A typedef is in the graph before what it stands for
is, so one that leads back to itself is read once; as each typedef read on the way has a new name,
no more of them are nested than there are declarations. -/

namespace HeaderBindings.Report

/-- The report, the names of its tags, and how a typedef is read. -/
structure TypeReader where
  report : Report
  tagNames : TagNames
  typedef : Entity → Read TypeId

namespace TypeReader

def tagKind (r : TypeReader) (info : TypeInfo) : TagKind :=
  if info.kind = .enum then .enum
  else if ((r.report.declaration? info).map (·.info.kind)) = some .unionDecl then .union
  else .struct

def tagged (r : TypeReader) (info : TypeInfo) : Read TypeId :=
  Read.add (.tagged (r.tagKind info)
    (((r.report.declaration? info).bind r.tagNames.nameOf?).getD ""))

/-- Parameters with the names that stand with the type; where they run out the names are empty. -/
def parameters (names : List String) (types : List TypeId) : List Parameter :=
  types.zipIdx.map fun (type, i) => ⟨names.getD i "", type⟩

/-- A type that only decorates another one stands for its canonical type. -/
def decorates (info : TypeInfo) (canonical : Option ReportedType) : Bool :=
  match canonical with
  | some c => c.info.kind ≠ info.kind && c.info.kind ≠ .unexposed
  | none => false

mutual

/-- Adds a type to the graph. `names` are the names of parameters that stand with it. -/
def read (r : TypeReader) (names : List String) : ReportedType → Read TypeId
  | .mk info pointee element named result canonical arguments =>
    match info.kind.builtin? with
    | some builtin => Read.add (.builtin builtin)
    | none =>
      match info.kind with
      | .pointer | .lvalueReference | .rvalueReference => do
        match ← readOption r names pointee with
        | some id => Read.add (.pointer id ((pointee.map (·.info.isConst)).getD false))
        | none => Read.unresolved info
      | .constantArray | .incompleteArray | .variableArray => do
        match ← readOption r names element with
        | some id => Read.add (.array id (if info.kind = .constantArray then info.size else none))
        | none => Read.unresolved info
      | .typedef =>
        match r.report.declaration? info with
        | some declaration => r.typedef declaration
        | none => Read.unresolved info
      | .elaborated => do
        match ← readOption r names named with
        | some id => return id
        | none => Read.unresolved info
      | .record | .enum => r.tagged info
      | .functionPrototype | .functionNoPrototype => do
        let resultId ← match ← readOption r [] result with
          | some id => pure id
          | none => Read.add (.builtin .void)
        let types ← readAll r arguments
        Read.add (.function ⟨resultId, parameters names types, info.variadic⟩)
      | _ => do
        if decorates info canonical then
          match ← readOption r names canonical with
          | some id => return id
          | none => Read.unresolved info
        else Read.unresolved info

def readOption (r : TypeReader) (names : List String) : Option ReportedType → Read (Option TypeId)
  | none => return none
  | some type => do return some (← read r names type)

def readAll (r : TypeReader) : List ReportedType → Read (List TypeId)
  | [] => return []
  | type :: rest => do
    let id ← read r [] type
    return id :: (← readAll r rest)

end

end TypeReader

/-- The type of a typedef. On its first use it is added, and bound to what it stands for. At most
`budget` typedefs are read one inside the other. -/
def typedefType (report : Report) (tagNames : TagNames) : Nat → Entity → Read TypeId
  | budget, e => do
    let name := e.info.name.getD ""
    let s ← get
    match s.typedefs.lookup name with
    | some id => return id
    | none =>
      let id ← Read.add (.typedef name none)
      modify fun s => { s with typedefs := (name, id) :: s.typedefs }
      match budget, e.info.underlying with
      | budget + 1, some underlying =>
        let reader : TypeReader := ⟨report, tagNames, typedefType report tagNames budget⟩
        let target ← reader.read e.parameterNames underlying
        modify fun s => { s with types := s.types.bind id target }
      | _, _ => pure ()
      return id

def nesting (report : Report) : Nat :=
  report.declarations.size + 1

/-- Adds a type with the parameter names that stand with it. -/
def readType (report : Report) (tagNames : TagNames) (names : List String) (type : ReportedType) :
    Read TypeId :=
  let reader : TypeReader := ⟨report, tagNames, typedefType report tagNames report.nesting⟩
  reader.read names type

end HeaderBindings.Report
