import HeaderBindings.Bindings.Options
import HeaderBindings.Error
import HeaderBindings.Path
import HeaderBindings.TypeMap

/-! The configuration of a run. Its parts come from files and from the command line, each part with
some of the values; parts are merged from left to right, and the result must have all values that
a run cannot do without. -/

namespace HeaderBindings

/-- The language a header is read as. -/
inductive Language where
  | c
  | cpp
  deriving DecidableEq, Repr

namespace Language

def name : Language → String
  | .c => "c"
  | .cpp => "c++"

def ofName? : String → Option Language
  | "c" => some .c
  | "c++" => some .cpp
  | _ => none

def defaultStandard : Language → String
  | .c => "gnu11"
  | .cpp => "gnu++20"

end Language

/-- A configuration in which any value may be missing. -/
structure PartialConfig where
  header : Option Path := none
  output : Option Path := none
  library : Option String := none
  space : Option String := none
  includeDirs : List Path := []
  /-- Arguments for the front-end, behind all others. -/
  extraArguments : List String := []
  language : Option Language := none
  standard : Option String := none
  skipSystemHeaders : Option Bool := none
  typeRules : List TypeRule := []
  deriving DecidableEq, Repr

namespace PartialConfig

/-- Values of `other` count before those of `p`, and its lists are appended. -/
def merge (p other : PartialConfig) : PartialConfig where
  header := other.header.or p.header
  output := other.output.or p.output
  library := other.library.or p.library
  space := other.space.or p.space
  includeDirs := p.includeDirs ++ other.includeDirs
  extraArguments := p.extraArguments ++ other.extraArguments
  language := other.language.or p.language
  standard := other.standard.or p.standard
  skipSystemHeaders := other.skipSystemHeaders.or p.skipSystemHeaders
  typeRules := p.typeRules ++ other.typeRules

/-- The paths as seen from the directory `dir`. -/
def relativeTo (p : PartialConfig) (dir : Path) : PartialConfig :=
  { p with
    header := p.header.map dir.join
    output := p.output.map dir.join
    includeDirs := p.includeDirs.map dir.join }

end PartialConfig

structure Config where
  header : Path
  output : Path
  library : String
  space : String
  includeDirs : List Path := []
  extraArguments : List String := []
  language : Language := .c
  standard : Option String := none
  skipSystemHeaders : Bool := true
  typeRules : List TypeRule := []
  deriving DecidableEq, Repr

namespace Config

def required {α : Type} (value : Option α) (key : String) : Except Error α :=
  match value with
  | some a => .ok a
  | none => .error ⟨.invalidConfig (.missing key), []⟩

/-- The complete configuration, if no required value is missing. -/
def ofPartial (p : PartialConfig) : Except Error Config := do
  let header ← required p.header "header"
  let output ← required p.output "output"
  let library ← required p.library "library"
  let space ← required p.space "namespace"
  return {
    header, output, library, space
    includeDirs := p.includeDirs
    extraArguments := p.extraArguments
    language := p.language.getD .c
    standard := p.standard
    skipSystemHeaders := p.skipSystemHeaders.getD true
    typeRules := p.typeRules }

def options (c : Config) : Options :=
  ⟨c.library, c.space⟩

def typeMap (c : Config) : TypeMap :=
  TypeMap.withRules c.typeRules

/-- The arguments that name the include directories. The front-end takes text only. -/
def includeArguments : List Path → Except Error (List String)
  | [] => .ok []
  | dir :: rest =>
    match dir.text? with
    | none => .error ⟨.pathNotUnicode dir.shown, []⟩
    | some text => (includeArguments rest).map fun arguments => "-I" :: text :: arguments

/-- The arguments of the front-end. -/
def arguments (c : Config) : Except Error (List String) := do
  let includes ← includeArguments c.includeDirs
  return ["-x", c.language.name, "-std=" ++ c.standard.getD c.language.defaultStandard] ++
    includes ++ c.extraArguments

end Config

end HeaderBindings
