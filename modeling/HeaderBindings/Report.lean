import HeaderBindings.CType
import HeaderBindings.Diagnostic
import HeaderBindings.Text.Letter

/-! What the front-end reports of a header: the tree of its declarations, the types they have, and
its diagnostics. Types form trees too, except that they refer to declarations, and through the
declaration of a typedef back to types; so these references are positions in a list. -/

namespace HeaderBindings

inductive EntityKind where
  | translationUnit | unexposedDecl | structDecl | unionDecl | classDecl | enumDecl | fieldDecl
  | enumConstantDecl | functionDecl | varDecl | parmDecl | typedefDecl | method | namespaceDecl
  | linkageSpec | typeAliasDecl | typeRef | integerLiteral | unexposedAttr
  deriving DecidableEq, Repr

namespace EntityKind

def name : EntityKind → String
  | .translationUnit => "TranslationUnit"
  | .unexposedDecl => "UnexposedDecl"
  | .structDecl => "StructDecl"
  | .unionDecl => "UnionDecl"
  | .classDecl => "ClassDecl"
  | .enumDecl => "EnumDecl"
  | .fieldDecl => "FieldDecl"
  | .enumConstantDecl => "EnumConstantDecl"
  | .functionDecl => "FunctionDecl"
  | .varDecl => "VarDecl"
  | .parmDecl => "ParmDecl"
  | .typedefDecl => "TypedefDecl"
  | .method => "Method"
  | .namespaceDecl => "Namespace"
  | .linkageSpec => "LinkageSpec"
  | .typeAliasDecl => "TypeAliasDecl"
  | .typeRef => "TypeRef"
  | .integerLiteral => "IntegerLiteral"
  | .unexposedAttr => "UnexposedAttr"

/-- A block such as `extern "C"`, whose declarations count as if they stood outside. -/
def isBlock : EntityKind → Bool
  | .linkageSpec | .unexposedDecl => true
  | _ => false

end EntityKind

inductive TypeKind where
  | unexposed | void | bool | charU | uchar | char16 | char32 | ushort | uint | ulong | ulongLong
  | uint128 | charS | schar | wchar | short | int | long | longLong | int128 | float | double
  | longDouble | nullptr | float128 | half | pointer | blockPointer | lvalueReference
  | rvalueReference | record | enum | typedef | functionNoPrototype | functionPrototype
  | constantArray | vector | incompleteArray | variableArray | dependentSizedArray | memberPointer
  | auto | elaborated | attributed
  deriving DecidableEq, Repr

namespace TypeKind

def builtin? : TypeKind → Option BuiltinType
  | .void => some .void
  | .bool => some .bool
  | .charS | .charU => some .char
  | .schar => some .schar
  | .uchar => some .uchar
  | .wchar => some .wchar
  | .char16 => some .char16
  | .char32 => some .char32
  | .short => some .short
  | .ushort => some .ushort
  | .int => some .int
  | .uint => some .uint
  | .long => some .long
  | .ulong => some .ulong
  | .longLong => some .longLong
  | .ulongLong => some .ulongLong
  | .float => some .float
  | .double => some .double
  | .longDouble => some .longDouble
  | _ => none

end TypeKind

/-- What is known of a type apart from the types it is made of. -/
structure TypeInfo where
  kind : TypeKind
  spelling : String := ""
  isConst : Bool := false
  variadic : Bool := false
  size : Option Nat := none
  /-- Position of the declaration the type refers to. -/
  declaration : Option Nat := none
  deriving DecidableEq, Repr

/-- A type. Which of its parts there are depends on its kind; a type without a canonical type is
its own. -/
inductive ReportedType where
  | mk (info : TypeInfo) (pointee element named result canonical : Option ReportedType)
      (arguments : List ReportedType)
  deriving Repr

def ReportedType.info : ReportedType → TypeInfo
  | .mk info _ _ _ _ _ _ => info

/-- Where a declaration stands. -/
structure Location where
  file : String
  line : Nat
  column : Nat
  deriving DecidableEq, Repr

structure EntityInfo where
  kind : EntityKind
  name : Option String := none
  comment : Option String := none
  location : Option Location := none
  inSystemHeader : Bool := false
  isDefinition : Bool := false
  isInline : Bool := false
  variadic : Bool := false
  type : Option ReportedType := none
  /-- What a typedef stands for. -/
  underlying : Option ReportedType := none
  result : Option ReportedType := none
  value : Int := 0
  deriving Repr

/-- A declaration, what stands inside it, and the parameters of a function. -/
inductive Entity where
  | mk (info : EntityInfo) (children arguments : List Entity)
  deriving Repr

namespace Entity

def info : Entity → EntityInfo
  | .mk info _ _ => info

def children : Entity → List Entity
  | .mk _ children _ => children

def arguments : Entity → List Entity
  | .mk _ _ arguments => arguments

def hasSubtext (part : List Char) : List Char → Bool
  | [] => part.isEmpty
  | c :: rest => part.isPrefixOf (c :: rest) || hasSubtext part rest

/-- The name of a struct, union or enum that has one of its own. -/
def ownName? (e : Entity) : Option String :=
  e.info.name.filter fun name =>
    !name.isEmpty && !hasSubtext "(unnamed".toList name.toList &&
      !hasSubtext "(anonymous".toList name.toList

/-- The names of the parameters that stand inside a declaration. -/
def parameterNames (e : Entity) : List String :=
  (e.children.filter fun c => c.info.kind = .parmDecl).map fun c => c.info.name.getD ""

end Entity

structure Report where
  root : Entity
  /-- The declarations that types refer to. -/
  declarations : Array Entity := #[]
  diagnostics : List Diagnostic := []
  deriving Repr

def Report.declaration? (r : Report) (t : TypeInfo) : Option Entity :=
  t.declaration.bind fun i => r.declarations[i]?

/-- The name of an operator of C++: `operator`, and then what cannot go on a name. -/
def isOperatorName (name : String) : Bool :=
  let word := "operator".toList
  word.isPrefixOf name.toList &&
    match (name.toList.drop word.length).head? with
    | some c => !(Text.isAlphanumeric c || c == '_')
    | none => false

end HeaderBindings
