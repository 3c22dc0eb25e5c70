import HeaderBindings.Report.Types

/-! The declarations of a report. Blocks are opened, system headers are left out if that is asked
for, and what is defined inside a struct or union comes before it. -/

namespace HeaderBindings

/-- How a report is read. -/
structure Reader where
  report : Report
  tagNames : TagNames
  skipSystemHeaders : Bool

namespace Reader

def enumItem? (e : Entity) : Option EnumItem :=
  if e.info.kind = .enumConstantDecl then
    e.info.name.map fun name => ⟨name, e.info.value, e.info.comment⟩
  else none

/-- An enum that is only announced is left out. -/
def enum (r : Reader) (e : Entity) : Read Unit :=
  if e.info.isDefinition then
    Read.declare e (.enum
      ⟨(r.tagNames.nameOf? e).getD "", e.children.filterMap enumItem?, e.info.comment⟩)
  else pure ()

/-- A field without a name or a type is left out. -/
def field (r : Reader) (e : Entity) : Read (List Field) := do
  match e.info.name, e.info.type with
  | some name, some type =>
    let id ← r.report.readType r.tagNames e.parameterNames type
    return [⟨name, id, e.info.comment⟩]
  | _, _ => return []

def locationText : Option Location → String
  | none => "None"
  | some l => "Some((" ++ Text.quoted l.file ++ s!", {l.line}, {l.column}))"

def nameText : Option String → String
  | none => "None"
  | some name => "Some(" ++ Text.quoted name ++ ")"

mutual

/-- A struct or union. One without a name is left out together with what it holds. -/
def record (r : Reader) (kind : TagKind) : Entity → Read Unit
  | .mk info children arguments => do
    let e := Entity.mk info children arguments
    match r.tagNames.nameOf? e with
    | none => Read.record .trace ("skipping anonymous record at " ++ locationText info.location)
    | some name =>
      let fields ← if info.isDefinition then members r children else pure []
      Read.declare e (.struct ⟨name, kind, fields, info.isDefinition, info.comment⟩)

/-- The fields among the members of a struct or union. What the members define is declared. -/
def members (r : Reader) : List Entity → Read (List Field)
  | [] => return []
  | .mk info children arguments :: rest => do
    let e := Entity.mk info children arguments
    let fields ← match info.kind with
      | .fieldDecl => field r e
      | .structDecl => do record r .struct (.mk info children arguments); pure []
      | .unionDecl => do record r .union (.mk info children arguments); pure []
      | .enumDecl => do enum r e; pure []
      | _ => pure []
    return fields ++ (← members r rest)

end

/-- A typedef that stands for something. -/
def typedef (r : Reader) (e : Entity) : Read Unit := do
  match e.info.name with
  | none => pure ()
  | some name =>
    let id ← r.report.typedefType r.tagNames r.report.nesting e
    let s ← get
    match s.types.node id with
    | .typedef _ (some target) => Read.declare e (.typeAlias ⟨name, target⟩)
    | _ => Read.record .debug ("typedef without underlying type: " ++ name)

def parameter (r : Reader) (e : Entity) : Read Parameter := do
  let type ← match e.info.type with
    | some type => r.report.readType r.tagNames e.parameterNames type
    | none => Read.add (.unresolved "")
  return ⟨e.info.name.getD "", type⟩

/-- A function, at its first declaration. -/
def function (r : Reader) (e : Entity) : Read Unit := do
  match e.info.name with
  | none => pure ()
  | some name =>
    let s ← get
    if s.functions.contains name then
      Read.record .trace ("function already declared: " ++ name)
    else
      set { s with functions := name :: s.functions }
      let result ← match e.info.result with
        | some type => r.report.readType r.tagNames [] type
        | none => Read.add (.builtin .void)
      let parameters ← e.arguments.mapM (parameter r)
      Read.declare e (.function
        ⟨name, result, parameters, e.info.isInline, isOperatorName name, e.info.variadic,
          e.info.comment⟩)

mutual

def entity (r : Reader) : Entity → Read Unit
  | .mk info children arguments => do
    let e := Entity.mk info children arguments
    if r.skipSystemHeaders && info.inSystemHeader then pure ()
    else match info.kind with
      | .enumDecl => enum r e
      | .structDecl => record r .struct e
      | .unionDecl => record r .union e
      | .typedefDecl => typedef r e
      | .functionDecl => function r e
      | .linkageSpec | .unexposedDecl => entities r children
      | kind => Read.record .trace ("skipping entity: " ++ kind.name ++ " " ++ nameText info.name)

def entities (r : Reader) : List Entity → Read Unit
  | [] => pure ()
  | e :: rest => do
    entity r e
    entities r rest

end

end Reader

namespace SourceUnit

/-- Puts a declaration at the end of the unit of its file, which is a new one if there is none. -/
def place (units : List SourceUnit) (file : String) (declaration : Declaration) : List SourceUnit :=
  match units with
  | [] => [⟨file, [declaration]⟩]
  | u :: rest =>
    if u.file = file then { u with declarations := u.declarations ++ [declaration] } :: rest
    else u :: place rest file declaration

/-- Declarations by the files they stand in. -/
def group (declarations : List (String × Declaration)) : List SourceUnit :=
  declarations.foldl (fun units (file, declaration) => place units file declaration) []

end SourceUnit

namespace Report

/-- All of a report, read in order. -/
def reading (report : Report) (skipSystemHeaders : Bool) : Reading :=
  ((Reader.entities ⟨report, report.tagNames, skipSystemHeaders⟩ report.root.children).run {}).2

end Report

def Reading.header (s : Reading) : Header :=
  ⟨s.types, SourceUnit.group s.declarations.toList⟩

end HeaderBindings
