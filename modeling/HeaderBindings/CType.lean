/-! The types of a C header. A type is one layer; the layers below it are named by their ids, so
that two uses of one type are equal exactly when their ids are. -/

namespace HeaderBindings

/-- Position of a type in its graph. -/
abbrev TypeId := Nat

inductive BuiltinType where
  | void | bool | char | schar | uchar | wchar | char16 | char32
  | short | ushort | int | uint | long | ulong | longLong | ulongLong
  | float | double | longDouble
  deriving DecidableEq, Repr

def BuiltinType.spelling : BuiltinType → String
  | .void => "void"
  | .bool => "_Bool"
  | .char => "char"
  | .schar => "signed char"
  | .uchar => "unsigned char"
  | .wchar => "wchar_t"
  | .char16 => "char16_t"
  | .char32 => "char32_t"
  | .short => "short"
  | .ushort => "unsigned short"
  | .int => "int"
  | .uint => "unsigned int"
  | .long => "long"
  | .ulong => "unsigned long"
  | .longLong => "long long"
  | .ulongLong => "unsigned long long"
  | .float => "float"
  | .double => "double"
  | .longDouble => "long double"

inductive TagKind where
  | struct | union | enum
  deriving DecidableEq, Repr

def TagKind.keyword : TagKind → String
  | .struct => "struct"
  | .union => "union"
  | .enum => "enum"

/-- The name is empty where the declaration gives none. -/
structure Parameter where
  name : String
  type : TypeId
  deriving DecidableEq, Repr

structure Signature where
  result : TypeId
  parameters : List Parameter
  variadic : Bool
  deriving DecidableEq, Repr

inductive CType where
  | builtin (type : BuiltinType)
  /-- A use of a typedef, whose target is unknown until it is bound. -/
  | typedef (name : String) (target : Option TypeId)
  | pointer (pointee : TypeId) (isConst : Bool)
  | array (element : TypeId) (size : Option Nat)
  /-- A struct, union or enum, by the name of its declaration. -/
  | tagged (kind : TagKind) (name : String)
  | function (signature : Signature)
  /-- A type that could not be described. -/
  | unresolved (spelling : String)
  deriving DecidableEq, Repr

namespace CType

/-- The type one layer down: what a typedef stands for, a pointer points to or an array holds. -/
def inner? : CType → Option TypeId
  | .typedef _ target => target
  | .pointer pointee _ => some pointee
  | .array element _ => some element
  | .builtin _ | .tagged _ _ | .function _ | .unresolved _ => none

def isFunction : CType → Bool
  | .function _ => true
  | _ => false

/-- A layer that is written as a `*`. -/
def isIndirection : CType → Bool
  | .pointer _ _ | .array _ _ => true
  | _ => false

end CType

end HeaderBindings
