import HeaderBindings.Header
import HeaderBindings.Log
import HeaderBindings.Name
import HeaderBindings.TypeGraph.Walk

/-! The registry of type names: names of function types, which a typedef or a field gives them,
and names of other types. The first registration of a name counts. -/

namespace HeaderBindings

/-- A name for a type: for a function type, or a plain one. -/
inductive Alias where
  | function (name : String) (id : TypeId)
  | plain (name : String) (id : TypeId)
  deriving DecidableEq, Repr

structure AliasTable where
  /-- Names of function types in the order of their registration. -/
  functions : List (String × TypeId) := []
  /-- For each function type that has a name, the first one. -/
  firstNames : List (TypeId × String) := []
  /-- Names of other types in the order of their registration. -/
  plain : List (String × TypeId) := []
  deriving DecidableEq, Repr

namespace AliasTable

def function? (t : AliasTable) (name : String) : Option TypeId :=
  t.functions.lookup name

def plain? (t : AliasTable) (name : String) : Option TypeId :=
  t.plain.lookup name

/-- The first name that was registered for the function type `id`. -/
def nameOf? (t : AliasTable) (id : TypeId) : Option String :=
  t.firstNames.lookup id

/-- Registers a name of a function type and says whether the name was free. -/
def addFunction (t : AliasTable) (name : String) (id : TypeId) : Bool × AliasTable :=
  match t.function? name with
  | some _ => (false, t)
  | none =>
    (true,
      { t with
        functions := t.functions ++ [(name, id)]
        firstNames :=
          if (t.nameOf? id).isSome then t.firstNames else t.firstNames ++ [(id, name)] })

/-- Registers a name of another type and says whether the name was free. -/
def addPlain (t : AliasTable) (name : String) (id : TypeId) : Bool × AliasTable :=
  match t.plain? name with
  | some _ => (false, t)
  | none => (true, { t with plain := t.plain ++ [(name, id)] })

def add (t : AliasTable) : Alias → AliasTable
  | .function name id => (t.addFunction name id).2
  | .plain name id => (t.addPlain name id).2

/-- What the log says about a name of a function type that is not free. -/
def takenRecord (name : String) : Log.Record :=
  ⟨.trace, .aliases, "function alias already registered: " ++ name⟩

/-- The records of registering one name. -/
def recordsOf (t : AliasTable) : Alias → List Log.Record
  | .function name _ => if (t.function? name).isSome then [takenRecord name] else []
  | .plain _ _ => []

end AliasTable

namespace Header

/-- The name that a typedef gives its type, and the names that the fields of a struct give to the
function types they lead to. -/
def aliasesOf (g : TypeGraph) : Declaration → List Alias
  | .typeAlias decl =>
    match g.function? decl.type with
    | some function => [.function decl.name function]
    | none => [.plain decl.name decl.type]
  | .struct decl =>
    if decl.kind = .struct then
      decl.fields.filterMap fun field =>
        (g.function? field.type).map fun function => .function (Name.fieldAlias field.name) function
    else []
  | .enum _ | .function _ => []

/-- All names for types that a header gives, in the order of its declarations. -/
def aliases (h : Header) : List Alias :=
  h.declarations.flatMap (aliasesOf h.types)

end Header

namespace AliasTable

/-- The table of all names that a header gives. -/
def collect (h : Header) : AliasTable :=
  h.aliases.foldl add {}

/-- The records of registering names one after the other. -/
def recordsOfAll (t : AliasTable) : List Alias → List Log.Record
  | [] => []
  | a :: rest => t.recordsOf a ++ (t.add a).recordsOfAll rest

end AliasTable

end HeaderBindings
