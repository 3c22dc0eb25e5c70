import HeaderBindings.Bindings.TypeText

/-! Functions of the library, as external functions of the class. -/

namespace HeaderBindings

/-- Sets a name that is used before it in the list apart by its position. -/
def distinctNames (position : Nat) (used : List String) : List String → List String
  | [] => []
  | name :: rest =>
    let written := if name ∈ used then name ++ toString position else name
    written :: distinctNames (position + 1) (written :: used) rest

/-- The names that the parameters of a list are written with. -/
def parameterNames (names : List String) : List String :=
  distinctNames 1 [] (names.map Name.parameter)

namespace Emit

/-- A parameter list, without its parentheses. -/
def parameterList (job : Job) (parameters : List Parameter) (variadic : Bool) : Emit String := do
  let types ← parameters.mapM fun p => typeText job p.type
  let names := parameterNames (parameters.map (·.name))
  let items := List.zipWith (fun type name => type ++ " " ++ name) types names
  return String.intercalate ", " (items ++ if variadic then ["..."] else [])

/-- A function. One that is inline or an operator is not in the library. -/
def function (job : Job) (f : FunctionDecl) : Emit Unit := do
  if f.isInline || f.isOperator then
    record ⟨.debug, .generation, "skipping function: " ++ f.name⟩
  else
    let result ← typeText job f.result
    let parameters ← parameterList job f.parameters f.variadic
    comment f.comment
    line ("[CLink, Import(\"" ++ job.options.library ++ "\")]")
    line ("public static extern " ++ result ++ " " ++ Name.convert .pascal f.name ++
      "(" ++ parameters ++ ");")
    blank

end Emit

end HeaderBindings
