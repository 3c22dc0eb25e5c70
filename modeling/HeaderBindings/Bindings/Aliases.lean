import HeaderBindings.Bindings.Functions

/-! Names for types: plain ones, and those of function types with their signatures. -/

namespace HeaderBindings.Emit

/-- A plain name for a type. A name that the type table knows, or that the type is written with
anyway, needs no line. -/
def plainAlias (job : Job) (name : String) (id : TypeId) : Emit Unit := do
  if job.typeMap.knows name then pure ()
  else
    let target ← typeText job id
    if target = name then pure ()
    else
      line ("public typealias " ++ name ++ " = " ++ target ++ ";")
      blank

def functionAlias (job : Job) (name : String) (id : TypeId) : Emit Unit := do
  match job.types.node id with
  | .function s =>
    let result ← typeText job s.result
    let parameters ← parameterList job s.parameters s.variadic
    line ("public function " ++ result ++ " " ++ Name.convert .pascal name ++
      "(" ++ parameters ++ ");")
    blank
  | _ => pure ()

end HeaderBindings.Emit
