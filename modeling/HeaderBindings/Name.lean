import HeaderBindings.Text.Blank
import HeaderBindings.Text.Uppercase

/-! Names of the generated file. A C name is cut at its underscores and the parts are joined with
their first characters in upper case, in camel case except for the first part. A parameter name
must not be blank or a reserved word. -/

namespace HeaderBindings.Name

open Text

inductive Casing where
  | pascal
  | camel
  deriving DecidableEq, Repr

/-- Joins the parts of a name. `starts` says that the next character begins a part that is to be
capitalised. -/
def joinParts (starts : Bool) : List Char → List Char
  | [] => []
  | c :: r =>
    if c = '_' then joinParts true r
    else (if starts then uppercase c else [c]) ++ joinParts false r

def convert (casing : Casing) (name : String) : String :=
  String.ofList (joinParts (casing = .pascal) name.toList)

/-- Words that are no parameter names. -/
def reservedWords : List String :=
  ["in", "out", "ref", "mut", "this", "params", "delegate", "base", "function", "internal",
   "var", "let", "new", "delete", "default", "case", "class", "struct", "scope", "append"]

/-- A parameter called `this` would hide the receiver of a constructor, so it gets a name of its
own; the other reserved words are lengthened. -/
def legalParameter (name : String) : String :=
  if name.toList.all isBlank then "value"
  else if name = "this" then "allocator"
  else if name ∈ reservedWords then name ++ "Value"
  else name

/-- Name of a parameter that C calls `name`. -/
def parameter (name : String) : String :=
  legalParameter (convert .camel name)

/-- Name of the function type of a field that holds a function pointer. -/
def fieldAlias (field : String) : String :=
  convert .pascal field ++ "Fn"

end HeaderBindings.Name
