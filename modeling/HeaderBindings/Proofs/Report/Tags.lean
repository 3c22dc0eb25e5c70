import HeaderBindings.Proofs.Report.Found

/-! The names of structs, unions and enums. One goes by the same name where it is declared and in
every type that refers to it, however deep inside another type it stands and whichever is read
first, since the names are found before anything is read. -/

namespace HeaderBindings

/-- A way from a type to one that it is made of. -/
inductive TypePart where
  | pointee
  | element
  | named
  | result
  | argument (position : Nat)
  | canonical
  deriving DecidableEq, Repr

namespace TypeKind

theorem form_eq_tag_iff {kind : TypeKind} : kind.form = .tag ↔ kind = .record ∨ kind = .enum := by
  cases kind <;> decide

theorem form_eq_elaborated_iff {kind : TypeKind} :
    kind.form = .elaborated ↔ kind = .elaborated := by
  cases kind <;> decide

end TypeKind

namespace ReportedType

/-- The type that is read for a part of a type. -/
def part? : ReportedType → TypePart → Option ReportedType
  | .mk info pointee element named result canonical arguments, part =>
    match info.kind.form, part with
    | .reference, .pointee => pointee
    | .array, .element => element
    | .elaborated, .named => named
    | .function, .result => result
    | .function, .argument position => arguments[position]?
    | .other, .canonical => if Report.TypeReader.decorates info canonical then canonical else none
    | _, _ => none

def at? (type : ReportedType) : List TypePart → Option ReportedType
  | [] => some type
  | part :: path => (type.part? part).bind fun inner => at? inner path

end ReportedType

namespace TypeGraph

/-- What stands for a part of a type in the graph. A name or a decoration leaves no type there. -/
def part? (g : TypeGraph) (id : TypeId) : TypePart → Option TypeId
  | .named | .canonical => some id
  | .pointee =>
    match g.node id with
    | .pointer pointee _ => some pointee
    | _ => none
  | .element =>
    match g.node id with
    | .array element _ => some element
    | _ => none
  | .result =>
    match g.node id with
    | .function s => some s.result
    | _ => none
  | .argument position =>
    match g.node id with
    | .function s => s.parameters[position]?.map (·.type)
    | _ => none

def at? (g : TypeGraph) (id : TypeId) : List TypePart → Option TypeId
  | [] => some id
  | part :: path => (g.part? id part).bind fun inner => at? g inner path

end TypeGraph

namespace Report

variable {report : Report} {tagNames : TagNames} {g : TypeGraph} {names : List String}
  {type inner : ReportedType} {id : TypeId}

/-- Nothing is read of a type that lacks what it is made of. -/
theorem part?_of_isPartial {part : TypePart} (h : report.isPartial type = true) :
    type.part? part = none := by
  obtain ⟨info, pointee, element, named, result, canonical, arguments⟩ := type
  rw [isPartial] at h
  simp only [ReportedType.part?]
  split <;> simp_all

/-- A part of a type is shown by that part of what shows it. -/
theorem Shows.part? {part : TypePart} (h : report.Shows tagNames g names type id)
    (hpart : type.part? part = some inner) :
    ∃ id' names', g.part? id part = some id' ∧ report.Shows tagNames g names' inner id' := by
  cases h with
  | reference hform hpointee hid =>
    cases part <;> simp only [ReportedType.part?, hform, Option.some.injEq, reduceCtorEq] at hpart
    subst hpart
    exact ⟨_, names, by rw [TypeGraph.part?, hid.node_eq], hpointee⟩
  | array hform helement hid =>
    cases part <;> simp only [ReportedType.part?, hform, Option.some.injEq, reduceCtorEq] at hpart
    subst hpart
    exact ⟨_, names, by rw [TypeGraph.part?, hid.node_eq], helement⟩
  | elaborated hform hnamed =>
    cases part <;> simp only [ReportedType.part?, hform, Option.some.injEq, reduceCtorEq] at hpart
    subst hpart
    exact ⟨id, names, rfl, hnamed⟩
  | canonical hform hdecorates hcanonical =>
    cases part <;>
      simp only [ReportedType.part?, hform, hdecorates, if_true, Option.some.injEq, reduceCtorEq]
        at hpart
    subst hpart
    exact ⟨id, names, rfl, hcanonical⟩
  | @function names info _ _ _ result _ arguments id resultId types hform hresult hvoid hlength
      harguments hid =>
    cases part <;> simp only [ReportedType.part?, hform, reduceCtorEq] at hpart
    · exact ⟨_, [], by rw [TypeGraph.part?, hid.node_eq], hresult _ hpart⟩
    · next position =>
      obtain ⟨hlt, rfl⟩ := List.getElem?_eq_some_iff.1 hpart
      have hlt' : position < types.length := hlength ▸ hlt
      refine ⟨types[position], [], ?_, harguments (_, _) ?_⟩
      · simp only [TypeGraph.part?, hid.node_eq]
        rw [← List.getElem?_map, TypeReader.types_parameters, List.getElem?_eq_getElem hlt']
      · refine List.mem_iff_getElem.2 ⟨position, ?_, List.getElem_zip⟩
        rw [List.length_zip]
        exact Nat.lt_min.2 ⟨hlt, hlt'⟩
  | unresolved hpartial hid =>
    rw [part?_of_isPartial hpartial] at hpart
    cases hpart
  | builtin hform _ | typedef hform _ _ | tag hform _ =>
    obtain ⟨info, pointee, element, named, result, canonical, arguments⟩ := type
    change info.kind.form = _ at hform
    simp only [ReportedType.part?, hform, reduceCtorEq] at hpart

theorem Shows.at? {path : List TypePart} (h : report.Shows tagNames g names type id)
    (hat : type.at? path = some inner) :
    ∃ id' names', g.at? id path = some id' ∧ report.Shows tagNames g names' inner id' := by
  induction path generalizing type id names with
  | nil =>
    cases hat
    exact ⟨id, names, rfl, h⟩
  | cons part path ih =>
    obtain ⟨next, hnext, hrest⟩ := Option.bind_eq_some_iff.1 hat
    obtain ⟨nextId, names', hid, hshows⟩ := h.part? hnext
    obtain ⟨id', names'', hid', hshows'⟩ := ih hshows hrest
    exact ⟨id', names'', Option.bind_eq_some_iff.2 ⟨nextId, hid, hid'⟩, hshows'⟩

theorem plain_of_ne (h : type.info.kind ≠ .elaborated) : type.plain = type := by
  obtain ⟨info, pointee, element, named, result, canonical, arguments⟩ := type
  rw [ReportedType.plain]
  exact if_neg h

theorem plain_of_named {info : TypeInfo} {pointee element result canonical : Option ReportedType}
    {arguments : List ReportedType} (h : info.kind = .elaborated) :
    (ReportedType.mk info pointee element (some inner) result canonical arguments).plain =
      inner.plain := by
  rw [ReportedType.plain, if_pos h, ReportedType.plainOr]

theorem form_of_tagDeclaration? {e : Entity} (h : report.tagDeclaration? type = some e) :
    type.plain.info.kind.form = .tag ∧ report.declaration? type.plain.info = some e := by
  unfold tagDeclaration? at h
  dsimp only at h
  split at h
  · next hkind => exact ⟨TypeKind.form_eq_tag_iff.2 (by simpa using hkind), h⟩
  · cases h

theorem plain_of_isPartial (h : report.isPartial type = true) : type.plain = type := by
  obtain ⟨info, pointee, element, named, result, canonical, arguments⟩ := type
  rw [ReportedType.plain]
  split
  · next hkind =>
    rw [isPartial, TypeKind.form_eq_elaborated_iff.2 hkind] at h
    rw [Option.isNone_iff_eq_none.1 h, ReportedType.plainOr]
  · rfl

theorem isPartial_of_tag (h : type.info.kind.form = .tag) : report.isPartial type = false := by
  obtain ⟨info, pointee, element, named, result, canonical, arguments⟩ := type
  rw [isPartial, show info.kind.form = .tag from h]

/-- A struct, union or enum is shown by a type of its name, elaborated or not. -/
theorem Shows.tagged {e : Entity} (h : report.Shows tagNames g names type id)
    (htag : report.tagDeclaration? type = some e) :
    g.Holds id (.tagged (report.tagKind type.plain.info) ((tagNames.nameOf? e).getD "")) := by
  obtain ⟨hform, hdeclaration⟩ := form_of_tagDeclaration? htag
  -- but for elaborated types the form is that of the type itself
  have hself {type : ReportedType} {form : TypeKind.Form} (htag : type.plain.info.kind.form = .tag)
      (hown : type.info.kind.form = form) (hne : form ≠ .elaborated) : form = .tag := by
    have hkind : type.info.kind ≠ .elaborated := fun hkind => hne (by
      rw [← hown, TypeKind.form_eq_elaborated_iff.2 hkind])
    rwa [plain_of_ne hkind, hown] at htag
  induction h with
  | @elaborated _ info named pointee element result canonical arguments _ helaborated _ ih =>
    have hplain : (ReportedType.mk info pointee element (some named) result canonical
      arguments).plain = named.plain :=
        plain_of_named (TypeKind.form_eq_elaborated_iff.1 helaborated)
    rw [tagDeclaration?, hplain] at htag
    rw [hplain] at hform hdeclaration ⊢
    exact ih htag hform hdeclaration
  | @tag _ type _ hkind hid =>
    have hplain : type.plain = type := plain_of_ne fun helaborated => by
      cases hkind.symm.trans (TypeKind.form_eq_elaborated_iff.2 helaborated)
    rw [hplain] at hdeclaration ⊢
    rwa [hdeclaration, Option.bind_some] at hid
  | unresolved hpartial hid =>
    rw [plain_of_isPartial hpartial] at hform
    rw [isPartial_of_tag hform] at hpartial
    cases hpartial
  | builtin hkind _ | reference hkind _ _ | array hkind _ _ | typedef hkind _ _
  | function hkind _ _ _ _ _ | canonical hkind _ _ =>
    cases hself hform hkind (by simp)

end Report

/-- The name of a struct, union or enum that is declared. -/
def Declaration.tagName? : Declaration → Option String
  | .enum decl => some decl.name
  | .struct decl => some decl.name
  | .typeAlias _ | .function _ => none

/-- The declaration `d` of an entity has a type, which is read to `id`. -/
inductive Declaration.Uses : Entity → Declaration → ReportedType → TypeId → Prop
  | field {e field : Entity} {decl : StructDecl} {f : Field} {type : ReportedType}
      (hmem : (field, f) ∈ (e.children.filter Entity.isField).zip decl.fields)
      (htype : field.info.type = some type) : Uses e (.struct decl) type f.type
  | result {e : Entity} {decl : FunctionDecl} {type : ReportedType}
      (htype : e.info.result = some type) : Uses e (.function decl) type decl.result
  | parameter {e parameter : Entity} {decl : FunctionDecl} {p : Parameter} {type : ReportedType}
      (hmem : (parameter, p) ∈ e.arguments.zip decl.parameters)
      (htype : parameter.info.type = some type) : Uses e (.function decl) type p.type

namespace Report

/-- The name of a struct, union or enum, empty where it has none. -/
def tagName (report : Report) (e : Entity) : String :=
  (report.tagNames.nameOf? e).getD ""

/-- A typedef with a name for a struct, union or enum that has none and stands at `location`. -/
def givesName (report : Report) (location : Location) (t : Entity) : Bool :=
  t.info.kind = .typedefDecl && t.info.name.isSome &&
    (t.info.underlying.bind report.tagDeclaration?).any fun declaration =>
      declaration.ownName?.isNone && declaration.info.location = some location

/-- All structs, unions and enums that a type is made of are shown where they stand, each by a tag
of the name that its declarations have. -/
def ShowsTags (report : Report) (g : TypeGraph) (type : ReportedType) (id : TypeId) : Prop :=
  ∀ path inner declaration e, type.at? path = some inner →
    report.tagDeclaration? inner = some declaration →
    e.info.name = declaration.info.name → e.info.location = declaration.info.location →
    ∃ id', g.at? id path = some id' ∧
      g.Holds id' (.tagged (report.tagKind inner.plain.info) (report.tagName e))

variable {report : Report} {tagNames : TagNames} {g : TypeGraph} {type : ReportedType}
  {names : List String} {id : TypeId} {e e' : Entity} {d : Declaration}

theorem isSome_name_of_givesName {location : Location} {t : Entity}
    (h : report.givesName location t = true) : t.info.name.isSome := by
  rw [givesName, Bool.and_eq_true, Bool.and_eq_true] at h
  exact h.1.2

theorem lookup_tagNameOf (report : Report) (t : Entity) (location : Location) :
    (if t.info.kind = .typedefDecl then report.tagNameOf t else []).lookup location =
      if report.givesName location t then t.info.name else none := by
  by_cases hkind : t.info.kind = .typedefDecl
  · rw [if_pos hkind, tagNameOf, givesName, decide_eq_true hkind]
    cases hdeclaration : t.info.underlying.bind report.tagDeclaration? with
    | none => simp
    | some declaration =>
      rw [Option.any_some, ← Option.not_isSome (declaration.ownName?)]
      dsimp only
      cases declaration.ownName?.isSome with
      | true => simp
      | false =>
        rw [if_neg Bool.false_ne_true]
        cases declaration.info.location with
        | none => simp
        | some place =>
          cases t.info.name with
          | none => simp
          | some name =>
            by_cases heq : location = place
            · simp [heq]
            · simp [List.lookup_cons, beq_eq_false_iff_ne.2 heq, Ne.symm heq]
  · rw [if_neg hkind, givesName, decide_eq_false hkind]
    rfl

/-- The table has the name of the first typedef that gives one. -/
theorem lookup_tagNames (report : Report) (location : Location) :
    report.tagNames.lookup location =
      ((report.visited false).find? (report.givesName location)).bind (·.info.name) := by
  rw [tagNames, tagNamesInAll_eq, visited]
  induction Entity.openedAll false report.root.children with
  | nil => rfl
  | cons t rest ih =>
    rw [List.flatMap_cons, List.lookup_append, ih, lookup_tagNameOf, List.find?_cons]
    cases hgives : report.givesName location t with
    | true =>
      obtain ⟨name, hname⟩ := Option.isSome_iff_exists.1 (isSome_name_of_givesName hgives)
      rw [if_pos rfl, hname]
      simp [hname]
    | false => rfl

theorem nameOf?_congr (names : TagNames) (hname : e.info.name = e'.info.name)
    (hlocation : e.info.location = e'.info.location) : names.nameOf? e = names.nameOf? e' := by
  rw [TagNames.nameOf?, TagNames.nameOf?, Entity.ownName?, Entity.ownName?, hname, hlocation]

theorem Shows.showsTags (h : report.Shows report.tagNames g names type id) :
    report.ShowsTags g type id := by
  intro path inner declaration e hat htag hname hlocation
  obtain ⟨id', names', hid', hshows⟩ := h.at? hat
  refine ⟨id', hid', ?_⟩
  rw [tagName, nameOf?_congr _ hname hlocation]
  exact hshows.tagged htag

theorem Declares.tagName? (h : report.Declares report.tagNames g e d) (htag : e.info.kind.isTag) :
    d.tagName? = some (report.tagName e) := by
  cases h with
  | enum => rfl
  | record _ hname _ =>
    rw [tagName, hname]
    rfl
  | typeAlias hkind | function hkind =>
    rw [hkind] at htag
    cases htag

/-- Every type that a declaration has shows what was reported. -/
theorem Declares.shows (h : report.Declares tagNames g e d) (huses : d.Uses e type id) :
    ∃ names, report.Shows tagNames g names type id := by
  cases h with
  | enum | typeAlias => cases huses
  | record _ _ hfields =>
    cases huses with
    | @field field _ _ _ hmem htype =>
      split at hfields
      · exact ⟨field.parameterNames, (List.forall₂_zip hfields hmem).shows _ htype⟩
      · cases hfields
        rw [List.zip_nil_right] at hmem
        cases hmem
  | function _ _ hresult hparameters =>
    cases huses with
    | result htype => exact ⟨[], hresult.1 _ htype⟩
    | @parameter parameter _ _ _ hmem htype =>
      exact ⟨parameter.parameterNames, (List.forall₂_zip hparameters hmem).shows _ htype⟩

/-- A typedef stands for what one of its name in the report stands for. -/
theorem exists_shows_of_holds (report : Report) (skip : Bool) {name : String} {target : TypeId}
    (hid : (report.reading skip).types.Holds id (.typedef name (some target))) :
    ∃ t type names, report.Contains t ∧ typedefName t = name ∧ t.info.underlying = some type ∧
      report.Shows report.tagNames (report.reading skip).types names type target := by
  have hfinds := report.finds_reading skip
  obtain ⟨new, hnew, hsettled⟩ := hfinds.grows.typedefs
  have hmem : (name, id) ∈ new := by
    have hmem := hfinds.tidy.mem id name _ hid
    rwa [hnew, List.append_nil] at hmem
  obtain ⟨t, bound, ht, hname, hbound, hshows⟩ := hsettled _ hmem
  cases hbound.unique hid
  generalize hunderlying : t.info.underlying = underlying at hshows
  cases hshows with
  | some hshows => exact ⟨t, _, _, ht, hname, hunderlying, hshows⟩

theorem nameOf?_of_nameless (report : Report) (h : e.ownName? = none) :
    report.tagNames.nameOf? e = e.info.location.bind fun location =>
      ((report.visited false).find? (report.givesName location)).bind (·.info.name) := by
  rw [TagNames.nameOf?, h, Option.none_or]
  exact congrArg e.info.location.bind (funext report.lookup_tagNames)

theorem tagName_of_ownName? (report : Report) {name : String} (h : e.ownName? = some name) :
    report.tagName e = name := by
  rw [tagName, TagNames.nameOf?, h]
  rfl

theorem Declares.isSome_nameOf? {kind : TagKind} (h : report.Declares tagNames g e d)
    (hkind : e.info.kind.record? = some kind) : (tagNames.nameOf? e).isSome := by
  cases h with
  | record _ hname _ => rw [hname]; rfl
  | enum henum _ | typeAlias henum _ _ | function henum _ _ _ =>
    rw [henum] at hkind
    cases hkind

/-- A struct, union or enum is declared by the name by which all types refer to it: its own, or else
that of the first typedef for it. Without either it is nameless in types, and it is not declared if
it is a struct or union. -/
theorem tags_agree (report : Report) (skip : Bool) :
    let s := report.reading skip
    let declarations := (report.declared skip).zip s.declarations.toList
    ((report.declared skip).length = s.declarations.size ∧
      s.header.declarations.Perm (s.declarations.toList.map Prod.snd)) ∧
    (∀ e entry, (e, entry) ∈ declarations → e.info.kind.isTag →
      entry.2.tagName? = some (report.tagName e)) ∧
    (∀ e entry type id, (e, entry) ∈ declarations → entry.2.Uses e type id →
      report.ShowsTags s.types type id) ∧
    (∀ id name target, s.types.Holds id (.typedef name (some target)) → ∃ t type,
      report.Contains t ∧ typedefName t = name ∧ t.info.underlying = some type ∧
        report.ShowsTags s.types type target) ∧
    (∀ e name, e.ownName? = some name → report.tagName e = name) ∧
    (∀ e, e.ownName? = none → report.tagNames.nameOf? e = e.info.location.bind fun location =>
      ((report.visited false).find? (report.givesName location)).bind (·.info.name)) ∧
    (∀ e, e ∈ report.visited false ↔ Entity.Reached false report.root.children e) ∧
    ∀ e ∈ report.declared skip, ∀ kind, e.info.kind.record? = some kind →
      (report.tagNames.nameOf? e).isSome := by
  intro s declarations
  obtain ⟨hlength, hzip⟩ := List.forall₂_iff_zip.1 (report.forall₂_places skip)
  refine ⟨⟨hlength.trans Array.length_toList, SourceUnit.group_perm _⟩,
    fun e entry hentry htag => (hzip hentry).2.tagName? htag,
    fun e entry type id hentry huses => ?_, fun id name target hid => ?_,
    fun e name => report.tagName_of_ownName?, fun e => report.nameOf?_of_nameless,
    fun e => Entity.mem_openedAll, fun e he kind hkind => ?_⟩
  · obtain ⟨names, hshows⟩ := (hzip hentry).2.shows huses
    exact hshows.showsTags
  · obtain ⟨t, type, names, ht, hname, htype, hshows⟩ := report.exists_shows_of_holds skip hid
    exact ⟨t, type, ht, hname, htype, hshows.showsTags⟩
  · obtain ⟨i, hi, rfl⟩ := List.mem_iff_getElem.1 he
    have hmem : (_, _) ∈ declarations := List.mem_iff_getElem.2 ⟨i, by
      rw [List.length_zip, ← hlength, Nat.min_self]; exact hi, List.getElem_zip⟩
    exact (hzip hmem).2.isSome_nameOf? hkind

namespace Marks

def plain (info : TypeInfo) : ReportedType :=
  .mk info none none none none none []

def struct (position : Nat) : ReportedType :=
  .mk { kind := .elaborated } none none
    (some (plain { kind := .record, declaration := some position })) none none []

def pointer (type : ReportedType) : ReportedType :=
  .mk { kind := .pointer } (some type) none none none none []

def mark : Entity :=
  let size : EntityInfo :=
    { kind := .fieldDecl, name := some "size", type := some (plain { kind := .int }) }
  .mk { kind := .structDecl, location := some ⟨"lib.h", 1, 9⟩, isDefinition := true }
    [.mk size [] []] []

def marks : Entity :=
  .mk { kind := .fieldDecl, name := some "marks", type := some (pointer (struct 0)) } [] []

def page : Entity :=
  .mk { kind := .structDecl, name := some "page", location := some ⟨"lib.h", 2, 8⟩,
        isDefinition := true } [marks] []

def parameter : Entity :=
  .mk { kind := .parmDecl, name := some "page", type := some (pointer (struct 1)) } [] []

def turn : Entity :=
  .mk { kind := .functionDecl, name := some "turn" } [] [parameter]

/-- A function takes a pointer to a struct that is declared after it. Before that struct there is
one without a name, for which a system header has a typedef. -/
def header : Report :=
  let markType : EntityInfo :=
    { kind := .typedefDecl, name := some "mark_t", underlying := some (struct 0),
      inSystemHeader := true }
  { root := .mk { kind := .translationUnit }
      [turn, mark, page, .mk { kind := .linkageSpec } [.mk markType [] []] []] []
    declarations := #[mark, page] }

end Marks

theorem tags_agree_marks :
    Marks.header.tagName Marks.mark = "mark_t" ∧
    (Marks.header.reading true).declarations.toList.map (·.2.tagName?) =
      [none, some "mark_t", some "page"] ∧
    (Marks.header.reading true).types.at? 2 [.pointee] = some 1 ∧
    (Marks.header.reading true).types.Holds 1 (.tagged .struct "page") ∧
    (Marks.header.reading true).types.at? 5 [.pointee] = some 4 ∧
    (Marks.header.reading true).types.Holds 4 (.tagged .struct "mark_t") := by
  obtain ⟨-, htag, huses, -⟩ := tags_agree Marks.header true
  let turn : FunctionDecl := ⟨"turn", 0, [⟨"page", 2⟩], false, false, false, none⟩
  let mark : StructDecl := ⟨"mark_t", .struct, [⟨"size", 3, none⟩], true, none⟩
  let page : StructDecl := ⟨"page", .struct, [⟨"marks", 5, none⟩], true, none⟩
  have hdeclarations : (Marks.header.reading true).declarations.toList =
      [("", .function turn), ("lib.h", .struct mark), ("lib.h", .struct page)] := by decide +kernel
  have hdeclared : Marks.header.declared true = [Marks.turn, Marks.mark, Marks.page] := rfl
  have hzip {e : Entity} {entry : String × Declaration}
      (h : (e, entry) ∈ [(Marks.turn, ("", Declaration.function turn)),
        (Marks.mark, ("lib.h", .struct mark)), (Marks.page, ("lib.h", .struct page))]) :
      (e, entry) ∈ (Marks.header.declared true).zip
        (Marks.header.reading true).declarations.toList := by
    rw [hdeclarations, hdeclared]
    exact h
  have hmark : "mark_t" = Marks.header.tagName Marks.mark :=
    Option.some.inj (htag Marks.mark ("lib.h", .struct mark) (hzip (.tail _ (.head _))) rfl)
  have hpage : "page" = Marks.header.tagName Marks.page :=
    Option.some.inj
      (htag Marks.page ("lib.h", .struct page) (hzip (.tail _ (.tail _ (.head _)))) rfl)
  have hturned := huses Marks.turn _ _ _ (hzip (.head _)) (.parameter (.head _) rfl)
  have hmarked := huses Marks.page _ _ _ (hzip (.tail _ (.tail _ (.head _)))) (.field (.head _) rfl)
  obtain ⟨id, hid, hturned⟩ := hturned [.pointee] (Marks.struct 1) Marks.page _ rfl rfl rfl rfl
  obtain ⟨id', hid', hmarked⟩ := hmarked [.pointee] (Marks.struct 0) Marks.mark _ rfl rfl rfl rfl
  have hfirst : (Marks.header.reading true).types.at? 2 [.pointee] = some 1 := by decide +kernel
  have hsecond : (Marks.header.reading true).types.at? 5 [.pointee] = some 4 := by decide +kernel
  obtain rfl : id = 1 := Option.some.inj (hid.symm.trans hfirst)
  obtain rfl : id' = 4 := Option.some.inj (hid'.symm.trans hsecond)
  have hkind : ∀ i < 2, Marks.header.tagKind (Marks.struct i).plain.info = .struct := by
    decide +kernel
  rw [← hpage, hkind 1 (by omega)] at hturned
  rw [← hmark, hkind 0 (by omega)] at hmarked
  refine ⟨hmark.symm, ?_, hfirst, hturned, hsecond, hmarked⟩
  rw [hdeclarations]
  rfl

end Report

end HeaderBindings
