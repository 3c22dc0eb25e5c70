import HeaderBindings.Report

/-! Names of structs, unions and enums. One without a name of its own goes by the first typedef
for it, which is found by the place of its declaration. -/

namespace HeaderBindings

mutual

/-- The type below all elaborations such as `struct` or `enum` in front of a name. -/
def ReportedType.plain : ReportedType → ReportedType
  | .mk info pointee element named result canonical arguments =>
    if info.kind = .elaborated then
      ReportedType.plainOr (.mk info pointee element named result canonical arguments) named
    else .mk info pointee element named result canonical arguments

def ReportedType.plainOr (outer : ReportedType) : Option ReportedType → ReportedType
  | none => outer
  | some inner => inner.plain

end

/-- The declaration of the struct, union or enum that a type is. -/
def Report.tagDeclaration? (r : Report) (t : ReportedType) : Option Entity :=
  let info := t.plain.info
  if info.kind = .record || info.kind = .enum then r.declaration? info else none

/-- Names by the places of the declarations that have no other; the first one counts. -/
abbrev TagNames := List (Location × String)

/-- The name that a typedef gives, if what it stands for has none of its own. -/
def Report.tagNameOf (r : Report) (e : Entity) : TagNames :=
  match e.info.underlying.bind r.tagDeclaration? with
  | none => []
  | some declaration =>
    if declaration.ownName?.isSome then []
    else match declaration.info.location, e.info.name with
      | some location, some name => [(location, name)]
      | _, _ => []

mutual

def Report.tagNamesIn (r : Report) : Entity → TagNames
  | .mk info children arguments =>
    if info.kind = .typedefDecl then r.tagNameOf (.mk info children arguments)
    else if info.kind.isBlock then r.tagNamesInAll children
    else []

def Report.tagNamesInAll (r : Report) : List Entity → TagNames
  | [] => []
  | e :: rest => r.tagNamesIn e ++ r.tagNamesInAll rest

end

def Report.tagNames (r : Report) : TagNames :=
  r.tagNamesInAll r.root.children

/-- The name of a struct, union or enum. -/
def TagNames.nameOf? (names : TagNames) (e : Entity) : Option String :=
  e.ownName?.or (e.info.location.bind fun location => names.lookup location)

end HeaderBindings
