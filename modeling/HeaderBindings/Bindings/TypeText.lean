import HeaderBindings.Bindings.Draft

/-! How a type is written. Its name is found below all pointers, arrays and typedefs and is kept
once it is found; the pointers are written behind it. The pointer that makes a function pointer is
part of the name of the function type. -/

namespace HeaderBindings

/-- Written for a type that has no name. -/
def nameless : String := "void*"

def pointerSuffix (depth : Nat) : String :=
  String.ofList (List.replicate depth '*')

/-- What the log says where a walk comes back to a type. -/
def TypeGraph.cycleRecords (g : TypeGraph) (landing : Landing) : List Log.Record :=
  if landing.looped then
    [⟨.trace, .naming, "type cycle detected at " ++ g.displayName landing.id⟩]
  else []

namespace Job

/-- Where the walk to the type that gives the name ends. It does not go through a typedef that the
type table knows. -/
def namingType (job : Job) (id : TypeId) : TypeGraph.Landing :=
  job.types.canonical job.typeMap.knows id

def functionName (aliases : AliasTable) (function : TypeId) : String :=
  match aliases.nameOf? function with
  | some name => Name.convert .pascal name
  | none => nameless

/-- Name of a type that is no function, from the layer that gives it. -/
def layerName (job : Job) (aliases : AliasTable) (id : TypeId) : String :=
  match job.types.node id with
  | .builtin type => job.typeMap.convert type.spelling
  | .typedef name _ | .tagged _ name => if name.isEmpty then nameless else job.typeMap.convert name
  | .function _ => functionName aliases id
  | .pointer _ _ | .array _ _ | .unresolved _ => nameless

/-- Name of a type, without its pointers. -/
def typeName (job : Job) (aliases : AliasTable) (id : TypeId) : String :=
  match job.types.function? id with
  | some function => functionName aliases function
  | none => job.layerName aliases (job.namingType id).id

/-- What the log says when the name of a type is looked for. -/
def namingRecords (job : Job) (id : TypeId) : List Log.Record :=
  match job.types.function? id with
  | some _ => []
  | none =>
    let landing := job.namingType id
    job.types.cycleRecords landing ++
      match job.types.node landing.id with
      | .pointer _ _ | .array _ _ | .unresolved _ =>
        [⟨.debug, .naming,
          "unresolved type, using " ++ nameless ++ ": " ++ job.types.displayName id⟩]
      | _ => []

/-- Number of pointers written behind the name of a type. -/
def suffixDepth (job : Job) (id : TypeId) : Nat :=
  match job.types.function? id with
  | some _ =>
    if job.types.isDirectFunctionPointer id then job.types.pointerDepth id - 1
    else job.types.pointerDepth id
  | none => job.types.resolvedDepth job.typeMap.knows id

end Job

namespace Emit

/-- Name of a type. Once found it stays, also when the table of names changes. -/
def typeName (job : Job) (id : TypeId) : Emit String := do
  let d ← get
  match d.cache.lookup id with
  | some name => return name
  | none =>
    let name := job.typeName d.aliases id
    set { d with cache := (id, name) :: d.cache, log := d.log ++ (job.namingRecords id).toArray }
    return name

def suffixedName (job : Job) (id : TypeId) : Emit String := do
  return (← typeName job id) ++ pointerSuffix (job.suffixDepth id)

/-- A type with its pointers. An array is written as a pointer to its element. -/
def typeText (job : Job) (id : TypeId) : Emit String :=
  match job.types.node id with
  | .array element _ =>
    if element < id then do return (← typeText job element) ++ "*"
    else suffixedName job id
  | _ => suffixedName job id
termination_by id

/-- The type of a field. A function pointer gets the name of the field, and an array of a constant
size stays an array. -/
def fieldTypeText (job : Job) (field : String) (id : TypeId) : Emit String :=
  if job.types.isDirectFunctionPointer id then pure (Name.fieldAlias field)
  else match job.types.node id with
    | .array element (some size) =>
      if element < id then do return (← fieldTypeText job field element) ++ s!"[{size}]"
      else typeText job id
    | _ => typeText job id
termination_by id

end Emit

end HeaderBindings
