import HeaderBindings.Text.Blank
import HeaderBindings.Text.WordChar

/-! The names that the user chooses and that are written as they are. -/

namespace HeaderBindings

open Text

structure Options where
  /-- The library that the functions are imported from. -/
  library : String
  /-- The namespace of the file; its last segment also names the class around the functions. -/
  space : String
  deriving DecidableEq, Repr

namespace Options

/-- The parts of the namespace between its dots. -/
def segments (o : Options) : List (List Char) :=
  splitAt '.' o.space.toList

/-- A letter of ASCII or an underscore, and then word characters. -/
def isSegment : List Char → Bool
  | [] => false
  | c :: rest => (isAsciiLetter c || c == '_') && rest.all isWordChar

def validSpace (o : Options) : Bool :=
  o.segments.all isSegment

/-- The name is written between double quotes, so it must not hold one. -/
def validLibrary (o : Options) : Bool :=
  !(o.library.toList.all isBlank) && !(o.library.toList.contains '"')

def wrapperClass (o : Options) : String :=
  String.ofList (o.segments.getLastD []) ++ "API"

end Options

end HeaderBindings
