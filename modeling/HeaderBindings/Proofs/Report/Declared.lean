import HeaderBindings.Proofs.Report.Tidy
import HeaderBindings.Report.Declarations

/-! Which entities a header declares, and what their declarations say. A struct or union without a
name declares nothing, nor does what stands inside it; a function is declared once, and a typedef
where it stands for something. A declaration says of its entity what was reported of it, with types
of the graph that show the reported ones. -/

namespace HeaderBindings

def EntityKind.record? : EntityKind → Option TagKind
  | .structDecl => some .struct
  | .unionDecl => some .union
  | _ => none

def EntityKind.isTag : EntityKind → Bool
  | .structDecl | .unionDecl | .enumDecl => true
  | _ => false

theorem EntityKind.isTag_of_record? {kind : EntityKind} {tag : TagKind}
    (h : kind.record? = some tag) : kind.isTag := by
  cases kind <;> first | rfl | cases h

theorem EntityKind.record?_of_ne {kind : EntityKind} (hstruct : kind ≠ .structDecl)
    (hunion : kind ≠ .unionDecl) : kind.record? = none := by
  cases kind <;> first | rfl | contradiction

namespace Entity

/-- The file of the unit in which an entity is declared. -/
def file (e : Entity) : String :=
  (e.info.location.map Location.file).getD ""

/-- A field with a name and a type. -/
def isField (e : Entity) : Bool :=
  e.info.kind = .fieldDecl && e.info.name.isSome && e.info.type.isSome

end Entity

mutual

/-- What a struct, union or enum declares: what is declared inside it, and then itself. -/
def TagNames.declaredIn (names : TagNames) : Entity → List Entity
  | .mk info children arguments =>
    match info.kind with
    | .enumDecl => if info.isDefinition then [.mk info children arguments] else []
    | .structDecl | .unionDecl =>
      if (names.nameOf? (.mk info children arguments)).isSome then
        (if info.isDefinition then names.declaredInAll children else []) ++
          [.mk info children arguments]
      else []
    | _ => []

def TagNames.declaredInAll (names : TagNames) : List Entity → List Entity
  | [] => []
  | e :: rest => names.declaredIn e ++ names.declaredInAll rest

end

namespace TagNames

/-- From an entity one comes to what it declares, through definitions that have names. -/
inductive Lifts (names : TagNames) : Entity → Entity → Prop
  | enum {e : Entity} (hkind : e.info.kind = .enumDecl) (hdefinition : e.info.isDefinition = true) :
      Lifts names e e
  | record {e : Entity} {kind : TagKind} {name : String} (hkind : e.info.kind.record? = some kind)
      (hname : names.nameOf? e = some name) : Lifts names e e
  | inside {b c e : Entity} {kind : TagKind} {name : String}
      (hkind : b.info.kind.record? = some kind) (hname : names.nameOf? b = some name)
      (hdefinition : b.info.isDefinition = true) (hmem : c ∈ b.children)
      (h : Lifts names c e) : Lifts names b e

variable (names : TagNames) {e : Entity} {kind : TagKind} {name : String}

theorem declaredIn_of_enum (hkind : e.info.kind = .enumDecl) :
    names.declaredIn e = if e.info.isDefinition then [e] else [] := by
  obtain ⟨info, children, arguments⟩ := e
  rw [declaredIn, show info.kind = .enumDecl from hkind]
  rfl

theorem declaredIn_of_named (hkind : e.info.kind.record? = some kind)
    (hname : names.nameOf? e = some name) :
    names.declaredIn e =
      (if e.info.isDefinition then names.declaredInAll e.children else []) ++ [e] := by
  obtain ⟨info, children, arguments⟩ := e
  have hsome : (names.nameOf? (.mk info children arguments)).isSome = true := by rw [hname]; rfl
  change info.kind.record? = some kind at hkind
  rw [declaredIn]
  cases hk : info.kind <;> simp_all [EntityKind.record?] <;> rfl

theorem declaredIn_of_nameless (hkind : e.info.kind.record? = some kind)
    (hname : names.nameOf? e = none) : names.declaredIn e = [] := by
  obtain ⟨info, children, arguments⟩ := e
  change info.kind.record? = some kind at hkind
  rw [declaredIn]
  cases hk : info.kind <;> simp_all [EntityKind.record?]

theorem declaredIn_of_other (hkind : e.info.kind.record? = none)
    (henum : e.info.kind ≠ .enumDecl) : names.declaredIn e = [] := by
  obtain ⟨info, children, arguments⟩ := e
  change info.kind.record? = none at hkind
  change info.kind ≠ .enumDecl at henum
  rw [declaredIn]
  cases hk : info.kind <;> simp_all [EntityKind.record?]

theorem declaredInAll_eq_flatMap (es : List Entity) :
    names.declaredInAll es = es.flatMap names.declaredIn := by
  induction es with
  | nil => rfl
  | cons e rest ih => rw [declaredInAll, ih, List.flatMap_cons]

mutual

theorem lifts_of_mem_declaredIn : ∀ b, e ∈ names.declaredIn b → names.Lifts b e
  | .mk info children arguments, he => by
    have hinside := lifts_of_mem_declaredInAll children
    generalize hb : Entity.mk info children arguments = b at he
    obtain rfl : b.children = children := congrArg Entity.children hb.symm
    by_cases henum : b.info.kind = .enumDecl
    · rw [names.declaredIn_of_enum henum] at he
      split at he
      · next hdefinition =>
        obtain rfl := List.mem_singleton.1 he
        exact .enum henum hdefinition
      · cases he
    · cases hrecord : b.info.kind.record? with
      | none =>
        rw [names.declaredIn_of_other hrecord henum] at he
        cases he
      | some kind =>
        cases hname : names.nameOf? b with
        | none =>
          rw [names.declaredIn_of_nameless hrecord hname] at he
          cases he
        | some name =>
          rw [names.declaredIn_of_named hrecord hname] at he
          rcases List.mem_append.1 he with he | he
          · split at he
            · next hdefinition =>
              obtain ⟨c, hc, hlifts⟩ := hinside he
              exact .inside hrecord hname hdefinition hc hlifts
            · cases he
          · obtain rfl := List.mem_singleton.1 he
            exact .record hrecord hname

theorem lifts_of_mem_declaredInAll : ∀ es, e ∈ names.declaredInAll es →
    ∃ c ∈ es, names.Lifts c e
  | b :: rest, he => by
    rw [declaredInAll] at he
    rcases List.mem_append.1 he with he | he
    · exact ⟨b, List.mem_cons_self, lifts_of_mem_declaredIn b he⟩
    · obtain ⟨c, hc, hlifts⟩ := lifts_of_mem_declaredInAll rest he
      exact ⟨c, List.mem_cons_of_mem _ hc, hlifts⟩

end

theorem mem_declaredIn {b : Entity} : e ∈ names.declaredIn b ↔ names.Lifts b e := by
  refine ⟨names.lifts_of_mem_declaredIn b, fun h => ?_⟩
  induction h with
  | enum hkind hdefinition =>
    rw [names.declaredIn_of_enum hkind, if_pos hdefinition]
    exact List.mem_singleton_self _
  | record hkind hname =>
    rw [names.declaredIn_of_named hkind hname]
    exact List.mem_append_right _ (List.mem_singleton_self _)
  | inside hkind hname hdefinition hmem _ ih =>
    rw [names.declaredIn_of_named hkind hname, if_pos hdefinition, declaredInAll_eq_flatMap]
    exact List.mem_append_left _ (List.mem_flatMap_of_mem hmem ih)

variable {names}

/-- Only structs, unions and enums are declared this way, and declare anything. -/
theorem Lifts.isTag {b : Entity} (h : names.Lifts b e) :
    b.info.kind.isTag ∧ e.info.kind.isTag := by
  induction h with
  | enum hkind _ => rw [hkind]; exact ⟨rfl, rfl⟩
  | record hkind _ =>
    exact ⟨EntityKind.isTag_of_record? hkind, EntityKind.isTag_of_record? hkind⟩
  | inside hkind _ _ _ _ ih => exact ⟨EntityKind.isTag_of_record? hkind, ih.2⟩

end TagNames

namespace Reading

/-- What the typedef of a name stands for. -/
def target? (s : Reading) (name : String) : Option TypeId :=
  (s.typedefs.lookup name).bind fun id =>
    match s.types.node id with
    | .typedef _ target => target
    | _ => none

end Reading

/-- `bound` says which typedefs in a graph stand for something. -/
def TypeGraph.Bounds (g : TypeGraph) (bound : String → Bool) : Prop :=
  ∀ id name target, g.Holds id (.typedef name target) → bound name = target.isSome

/-- What is declared by an entity, where `bound` says which typedefs stand for something and `seen`
names the functions before. -/
def TagNames.declaredBy (names : TagNames) (bound : String → Bool) (seen : List String)
    (e : Entity) : List Entity :=
  match e.info.kind with
  | .functionDecl => if e.info.name.all (· ∈ seen) then [] else [e]
  | .typedefDecl => if e.info.name.any bound then [e] else []
  | _ => names.declaredIn e

/-- The names of the functions up to an entity. -/
def Entity.seenAfter (seen : List String) (e : Entity) : List String :=
  match e.info.kind, e.info.name with
  | .functionDecl, some name => if name ∈ seen then seen else name :: seen
  | _, _ => seen

/-- What is declared by entities that are read one after the other. -/
def TagNames.declaredAlong (names : TagNames) (bound : String → Bool) (seen : List String) :
    List Entity → List Entity
  | [] => []
  | e :: rest => names.declaredBy bound seen e ++ declaredAlong names bound (e.seenAfter seen) rest

theorem TagNames.declaredBy_of_ne {names : TagNames} {bound : String → Bool} {seen : List String}
    {e : Entity} (hfunction : e.info.kind ≠ .functionDecl) (htypedef : e.info.kind ≠ .typedefDecl) :
    names.declaredBy bound seen e = names.declaredIn e := by
  unfold declaredBy
  split
  · next hkind => exact absurd hkind hfunction
  · next hkind => exact absurd hkind htypedef
  · rfl

theorem TagNames.declaredBy_of_isTag {names : TagNames} {bound : String → Bool}
    {seen : List String} {e : Entity} (h : e.info.kind.isTag) :
    names.declaredBy bound seen e = names.declaredIn e := by
  refine declaredBy_of_ne (fun hfunction => ?_) fun htypedef => ?_
  · rw [hfunction] at h
    cases h
  · rw [htypedef] at h
    cases h

theorem TagNames.eq_or_lifts_of_mem_declaredBy {names : TagNames} {bound : String → Bool}
    {seen : List String} {d e : Entity} (hd : d ∈ names.declaredBy bound seen e) :
    d = e ∨ names.Lifts e d := by
  unfold declaredBy at hd
  split at hd
  · split at hd
    · cases hd
    · exact .inl (List.mem_singleton.1 hd)
  · split at hd
    · exact .inl (List.mem_singleton.1 hd)
    · cases hd
  · exact .inr (names.mem_declaredIn.1 hd)

theorem Entity.seenAfter_of_ne {seen : List String} {e : Entity}
    (hfunction : e.info.kind ≠ .functionDecl) : e.seenAfter seen = seen := by
  unfold seenAfter
  split
  · next hkind _ => exact absurd hkind hfunction
  · rfl

namespace Report

variable (report : Report) (tagNames : TagNames)

/-- A field as it is declared by an entity. -/
structure ShowsField (g : TypeGraph) (e : Entity) (f : Field) : Prop where
  name_eq : e.info.name = some f.name
  comment_eq : f.comment = e.info.comment
  shows : ∀ type ∈ e.info.type, report.Shows tagNames g e.parameterNames type f.type

structure ShowsParameter (g : TypeGraph) (e : Entity) (p : Parameter) : Prop where
  name_eq : p.name = e.info.name.getD ""
  shows : ∀ type ∈ e.info.type, report.Shows tagNames g e.parameterNames type p.type
  holds : e.info.type = none → g.Holds p.type (.unresolved "")

/-- What a declaration says of the entity that it was read from. -/
inductive Declares (g : TypeGraph) : Entity → Declaration → Prop
  | enum {e : Entity} (hkind : e.info.kind = .enumDecl) (hdefinition : e.info.isDefinition = true) :
      Declares g e (.enum ⟨(tagNames.nameOf? e).getD "", e.children.filterMap Reader.enumItem?,
        e.info.comment⟩)
  | record {e : Entity} {kind : TagKind} {name : String} {fields : List Field}
      (hkind : e.info.kind.record? = some kind) (hname : tagNames.nameOf? e = some name)
      (hfields : List.Forall₂ (report.ShowsField tagNames g)
        (if e.info.isDefinition then e.children.filter Entity.isField else []) fields) :
      Declares g e (.struct ⟨name, kind, fields, e.info.isDefinition, e.info.comment⟩)
  | typeAlias {e : Entity} {name : String} {id target : TypeId}
      (hkind : e.info.kind = .typedefDecl) (hname : e.info.name = some name)
      (hid : g.Holds id (.typedef name (some target))) :
      Declares g e (.typeAlias ⟨name, target⟩)
  | function {e : Entity} {name : String} {result : TypeId} {parameters : List Parameter}
      (hkind : e.info.kind = .functionDecl) (hname : e.info.name = some name)
      (hresult : report.ShowsResult tagNames g e.info.result result)
      (hparameters : List.Forall₂ (report.ShowsParameter tagNames g) e.arguments parameters) :
      Declares g e (.function ⟨name, result, parameters, e.info.isInline, isOperatorName name,
        e.info.variadic, e.info.comment⟩)

/-- A declaration, in the file of its entity. -/
def Places (g : TypeGraph) (e : Entity) (entry : String × Declaration) : Prop :=
  entry.1 = e.file ∧ report.Declares tagNames g e entry.2

variable {report tagNames} {g g' : TypeGraph}

theorem ShowsField.keeps {e : Entity} {f : Field} (h : report.ShowsField tagNames g e f)
    (hg : g.Keeps g') : report.ShowsField tagNames g' e f :=
  ⟨h.name_eq, h.comment_eq, fun type htype => (h.shows type htype).keeps hg⟩

theorem ShowsParameter.keeps {e : Entity} {p : Parameter}
    (h : report.ShowsParameter tagNames g e p) (hg : g.Keeps g') :
    report.ShowsParameter tagNames g' e p :=
  ⟨h.name_eq, fun type htype => (h.shows type htype).keeps hg, fun hnone => hg _ _ (h.holds hnone)⟩

theorem Declares.keeps {e : Entity} {d : Declaration} (h : report.Declares tagNames g e d)
    (hg : g.Keeps g') : report.Declares tagNames g' e d := by
  cases h with
  | enum hkind hdefinition => exact .enum hkind hdefinition
  | record hkind hname hfields =>
    exact .record hkind hname (hfields.imp fun _ _ h => h.keeps hg)
  | typeAlias hkind hname hid => exact .typeAlias hkind hname (hg _ _ hid)
  | function hkind hname hresult hparameters =>
    exact .function hkind hname (hresult.keeps hg) (hparameters.imp fun _ _ h => h.keeps hg)

end Report

end HeaderBindings
