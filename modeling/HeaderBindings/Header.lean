import HeaderBindings.TypeGraph

/-! A parsed C header: the graph of its types and its declarations, grouped by the file they were
written in. Nothing here changes once the header has been read. -/

namespace HeaderBindings

structure EnumItem where
  name : String
  value : Int
  comment : Option String := none
  deriving DecidableEq, Repr

/-- The name is empty where neither the declaration nor a typedef gives one. -/
structure EnumDecl where
  name : String
  items : List EnumItem
  comment : Option String := none
  deriving DecidableEq, Repr

structure Field where
  name : String
  type : TypeId
  comment : Option String := none
  deriving DecidableEq, Repr

/-- A struct or union. One that is only announced has no fields. -/
structure StructDecl where
  name : String
  kind : TagKind
  fields : List Field
  isDefinition : Bool
  comment : Option String := none
  deriving DecidableEq, Repr

structure TypeAliasDecl where
  name : String
  type : TypeId
  deriving DecidableEq, Repr

structure FunctionDecl where
  name : String
  result : TypeId
  parameters : List Parameter
  isInline : Bool
  isOperator : Bool
  variadic : Bool
  comment : Option String := none
  deriving DecidableEq, Repr

inductive Declaration where
  | enum (decl : EnumDecl)
  | struct (decl : StructDecl)
  | typeAlias (decl : TypeAliasDecl)
  | function (decl : FunctionDecl)
  deriving DecidableEq, Repr

namespace Declaration

def enum? : Declaration → Option EnumDecl
  | .enum decl => some decl
  | _ => none

def struct? : Declaration → Option StructDecl
  | .struct decl => some decl
  | _ => none

def typeAlias? : Declaration → Option TypeAliasDecl
  | .typeAlias decl => some decl
  | _ => none

def function? : Declaration → Option FunctionDecl
  | .function decl => some decl
  | _ => none

end Declaration

/-- The declarations of one file, in the order in which they stand there. -/
structure SourceUnit where
  file : String
  declarations : List Declaration
  deriving DecidableEq, Repr

def SourceUnit.functions (u : SourceUnit) : List FunctionDecl :=
  u.declarations.filterMap Declaration.function?

structure Header where
  types : TypeGraph := {}
  units : List SourceUnit := []
  deriving Repr

namespace Header

def declarations (h : Header) : List Declaration := h.units.flatMap SourceUnit.declarations
def enums (h : Header) : List EnumDecl := h.declarations.filterMap Declaration.enum?
def structs (h : Header) : List StructDecl := h.declarations.filterMap Declaration.struct?
def typeAliases (h : Header) : List TypeAliasDecl := h.declarations.filterMap Declaration.typeAlias?
def functions (h : Header) : List FunctionDecl := h.declarations.filterMap Declaration.function?

end Header

/-- `s` defines what `decl` announces. -/
def StructDecl.defines (s decl : StructDecl) : Bool :=
  s.isDefinition && s.kind == decl.kind && s.name == decl.name

namespace Header

/-- The declaration whose fields `decl` has: the first definition of the same name and kind, or
`decl` itself where it is a definition or there is none. -/
def definingStruct (h : Header) (decl : StructDecl) : StructDecl :=
  if decl.isDefinition then decl else (h.structs.find? (·.defines decl)).getD decl

end Header

end HeaderBindings
