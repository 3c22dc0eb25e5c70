import HeaderBindings.Header
import HeaderBindings.Report.TagNames
import HeaderBindings.Text.Quoted

/-! The state in which a report is read: the graph of the types so far, the typedefs in it by name,
and the declarations in the order in which they were found. -/

namespace HeaderBindings

structure Reading where
  types : TypeGraph := {}
  /-- The type of each typedef, from the moment its first use is found. -/
  typedefs : List (String × TypeId) := []
  /-- Names of the functions found. -/
  functions : List String := []
  /-- Declarations with the files they stand in. -/
  declarations : Array (String × Declaration) := #[]
  log : Log := #[]
  deriving Repr

abbrev Read := StateM Reading

namespace Read

def record (level : Log.Level) (text : String) : Read Unit :=
  modify fun s => { s with log := s.log.push ⟨level, .parsing, text⟩ }

def add (type : CType) : Read TypeId := do
  let s ← get
  set { s with types := s.types.add type }
  return s.types.size

def declare (e : Entity) (declaration : Declaration) : Read Unit :=
  modify fun s =>
    { s with declarations :=
        s.declarations.push (((e.info.location.map Location.file).getD ""), declaration) }

def unresolved (info : TypeInfo) : Read TypeId := do
  record .trace ("unresolved type: " ++ info.spelling)
  add (.unresolved info.spelling)

end Read

end HeaderBindings
