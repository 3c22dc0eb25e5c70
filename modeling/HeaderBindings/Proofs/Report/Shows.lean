import HeaderBindings.Proofs.TypeGraph.Kept
import HeaderBindings.Proofs.Report.Types

/-! What a type of the graph has to be to show a reported one. Elaborations, and types that only
decorate another, leave no type of their own; a struct, union or enum goes by the name that the
table has for its declaration; a typedef is shown by the typedef of its name, whatever that stands
for. So a graph in which typedefs come to be bound shows what it showed before. -/

namespace HeaderBindings

/-- What a reported type is read to. -/
inductive TypeKind.Form where
  | builtin (type : BuiltinType)
  | reference
  | array
  | typedef
  | elaborated
  | tag
  | function
  /-- One that only decorates another, or cannot be described. -/
  | other
  deriving DecidableEq, Repr

def TypeKind.form (kind : TypeKind) : TypeKind.Form :=
  match kind.builtin? with
  | some type => .builtin type
  | none =>
    match kind with
    | .pointer | .lvalueReference | .rvalueReference => .reference
    | .constantArray | .incompleteArray | .variableArray => .array
    | .typedef => .typedef
    | .elaborated => .elaborated
    | .record | .enum => .tag
    | .functionPrototype | .functionNoPrototype => .function
    | _ => .other

namespace Report

def tagKind (report : Report) (info : TypeInfo) : TagKind :=
  if info.kind = .enum then .enum
  else if ((report.declaration? info).map (·.info.kind)) = some .unionDecl then .union
  else .struct

/-- Something that a type of this kind is made of has not been reported. -/
def isPartial (report : Report) : ReportedType → Bool
  | .mk info pointee element named _ canonical _ =>
    match info.kind.form with
    | .reference => pointee.isNone
    | .array => element.isNone
    | .typedef => (report.declaration? info).isNone
    | .elaborated => named.isNone
    | .other => !TypeReader.decorates info canonical
    | .builtin _ | .tag | .function => false

/-- The type `id` shows a reported type, with the names of parameters that stand with it. -/
inductive Shows (report : Report) (tagNames : TagNames) (g : TypeGraph) :
    List String → ReportedType → TypeId → Prop
  | builtin {names : List String} {type : ReportedType} {id : TypeId} {builtin : BuiltinType}
      (hform : type.info.kind.form = .builtin builtin) (hid : g.Holds id (.builtin builtin)) :
      Shows report tagNames g names type id
  | reference {names : List String} {info : TypeInfo} {pointee : ReportedType}
      {element named result canonical : Option ReportedType} {arguments : List ReportedType}
      {id pointeeId : TypeId} (hform : info.kind.form = .reference)
      (hpointee : Shows report tagNames g names pointee pointeeId)
      (hid : g.Holds id (.pointer pointeeId pointee.info.isConst)) :
      Shows report tagNames g names
        (.mk info (some pointee) element named result canonical arguments) id
  | array {names : List String} {info : TypeInfo} {element : ReportedType}
      {pointee named result canonical : Option ReportedType} {arguments : List ReportedType}
      {id elementId : TypeId} (hform : info.kind.form = .array)
      (helement : Shows report tagNames g names element elementId)
      (hid : g.Holds id
        (.array elementId (if info.kind = .constantArray then info.size else none))) :
      Shows report tagNames g names
        (.mk info pointee (some element) named result canonical arguments) id
  | typedef {names : List String} {type : ReportedType} {id : TypeId} {declaration : Entity}
      {target : Option TypeId} (hform : type.info.kind.form = .typedef)
      (hdeclaration : report.declaration? type.info = some declaration)
      (hid : g.Holds id (.typedef (typedefName declaration) target)) :
      Shows report tagNames g names type id
  | elaborated {names : List String} {info : TypeInfo} {named : ReportedType}
      {pointee element result canonical : Option ReportedType} {arguments : List ReportedType}
      {id : TypeId} (hform : info.kind.form = .elaborated)
      (hnamed : Shows report tagNames g names named id) :
      Shows report tagNames g names
        (.mk info pointee element (some named) result canonical arguments) id
  | tag {names : List String} {type : ReportedType} {id : TypeId}
      (hform : type.info.kind.form = .tag)
      (hid : g.Holds id (.tagged (report.tagKind type.info)
        (((report.declaration? type.info).bind tagNames.nameOf?).getD ""))) :
      Shows report tagNames g names type id
  | function {names : List String} {info : TypeInfo}
      {pointee element named result canonical : Option ReportedType}
      {arguments : List ReportedType} {id resultId : TypeId} {types : List TypeId}
      (hform : info.kind.form = .function)
      (hresult : ∀ type ∈ result, Shows report tagNames g [] type resultId)
      (hvoid : result = none → g.Holds resultId (.builtin .void))
      (hlength : arguments.length = types.length)
      (harguments : ∀ entry ∈ arguments.zip types, Shows report tagNames g [] entry.1 entry.2)
      (hid : g.Holds id (.function ⟨resultId, TypeReader.parameters names types, info.variadic⟩)) :
      Shows report tagNames g names
        (.mk info pointee element named result canonical arguments) id
  | canonical {names : List String} {info : TypeInfo} {canonical : ReportedType}
      {pointee element named result : Option ReportedType} {arguments : List ReportedType}
      {id : TypeId} (hform : info.kind.form = .other)
      (hdecorates : TypeReader.decorates info (some canonical) = true)
      (hcanonical : Shows report tagNames g names canonical id) :
      Shows report tagNames g names
        (.mk info pointee element named result (some canonical) arguments) id
  | unresolved {names : List String} {type : ReportedType} {id : TypeId}
      (hpartial : report.isPartial type = true)
      (hid : g.Holds id (.unresolved type.info.spelling)) :
      Shows report tagNames g names type id

variable {report : Report} {tagNames : TagNames} {g g' : TypeGraph} {names : List String}
  {type : ReportedType} {id : TypeId}

/-- A graph that is refined shows what it showed. -/
theorem Shows.refines (h : report.Shows tagNames g names type id) (hg : g.Refines g') :
    report.Shows tagNames g' names type id := by
  have hkeep {x : TypeId} {type : CType} (hx : g.Holds x type)
      (htype : ∀ name target, type ≠ .typedef name target) : g'.Holds x type :=
    hg.holds x type hx htype
  induction h with
  | builtin hform hid => exact .builtin hform (hkeep hid (by simp))
  | reference hform _ hid ih => exact .reference hform ih (hkeep hid (by simp))
  | array hform _ hid ih => exact .array hform ih (hkeep hid (by simp))
  | typedef hform hdeclaration hid =>
    obtain ⟨target, hid'⟩ := hg.typedef _ _ _ hid
    exact .typedef hform hdeclaration hid'
  | elaborated hform _ ih => exact .elaborated hform ih
  | tag hform hid => exact .tag hform (hkeep hid (by simp))
  | function hform _ hvoid hlength _ hid ihresult iharguments =>
    exact .function hform ihresult (fun h => hkeep (hvoid h) (by simp)) hlength iharguments
      (hkeep hid (by simp))
  | canonical hform hdecorates _ ih => exact .canonical hform hdecorates ih
  | unresolved hpartial hid => exact .unresolved hpartial (hkeep hid (by simp))

end Report

end HeaderBindings
