import HeaderBindings.Proofs.Report.Tags

/-! Definitions inside other definitions. What is defined in the body of a struct or union is
declared beside it, at any depth, as long as all structs and unions around it have names. A nameless
one is left out with all that it holds. -/

namespace HeaderBindings

namespace Entity

/-- Going down from an entity through the bodies of the structs and unions `path`, one comes to
another. -/
inductive Nests : Entity → List Entity → Entity → Prop
  | here {e : Entity} : Nests e [] e
  | inside {b c e : Entity} {kind : TagKind} {path : List Entity}
      (hkind : b.info.kind.record? = some kind) (hdefinition : b.info.isDefinition = true)
      (hmem : c ∈ b.children) (h : Nests c path e) : Nests b (b :: path) e

/-- A definition of an enum, or of a struct or union with a name of its own. -/
def isLiftable (e : Entity) : Bool :=
  e.info.isDefinition &&
    (e.info.kind = .enumDecl || e.info.kind.record?.isSome && e.ownName?.isSome)

end Entity

namespace TagNames

variable {names : TagNames} {b e : Entity}

theorem lifts_self (names : TagNames) (h : e.isLiftable = true) : names.Lifts e e := by
  simp only [Entity.isLiftable, Bool.and_eq_true, Bool.or_eq_true, decide_eq_true_eq] at h
  obtain ⟨hdefinition, henum | ⟨hrecord, hname⟩⟩ := h
  · exact .enum henum hdefinition
  · obtain ⟨kind, hkind⟩ := Option.isSome_iff_exists.1 hrecord
    obtain ⟨name, hname⟩ := Option.isSome_iff_exists.1 hname
    exact .record hkind (by rw [nameOf?, hname, Option.some_or])

theorem Lifts.exists_nests (h : names.Lifts b e) :
    ∃ path, b.Nests path e ∧ ∀ r ∈ path, (names.nameOf? r).isSome := by
  induction h with
  | enum | record => exact ⟨[], .here, List.forall_mem_nil _⟩
  | inside hkind hname hdefinition hmem _ ih =>
    obtain ⟨path, hnests, hnamed⟩ := ih
    exact ⟨_, .inside hkind hdefinition hmem hnests,
      List.forall_mem_cons.2 ⟨by rw [hname]; rfl, hnamed⟩⟩

theorem Lifts.of_nests {path : List Entity} (hpath : b.Nests path e)
    (hnamed : ∀ r ∈ path, (names.nameOf? r).isSome) (h : names.Lifts e e) : names.Lifts b e := by
  induction hpath with
  | here => exact h
  | inside hkind hdefinition hmem _ ih =>
    obtain ⟨hname, hrest⟩ := List.forall_mem_cons.1 hnamed
    obtain ⟨name, hname⟩ := Option.isSome_iff_exists.1 hname
    exact .inside hkind hname hdefinition hmem (ih hrest h)

/-- Functions and typedefs apart, an entity declares the same wherever it stands. -/
theorem filter_declaredBy (names : TagNames) (bound : String → Bool) (seen : List String)
    (b : Entity) :
    (names.declaredBy bound seen b).filter (·.info.kind.isTag) = names.declaredIn b := by
  cases htag : b.info.kind.isTag with
  | true =>
    rw [declaredBy_of_isTag htag]
    exact List.filter_eq_self.2 fun e he => (names.mem_declaredIn.1 he).isTag.2
  | false =>
    have hlifts (e : Entity) : ¬names.Lifts b e := fun h => by
      rw [h.isTag.1] at htag
      cases htag
    rw [List.eq_nil_iff_forall_not_mem.2 fun e he => hlifts e (names.mem_declaredIn.1 he)]
    refine List.filter_eq_nil_iff.2 fun e he => ?_
    rcases eq_or_lifts_of_mem_declaredBy he with rfl | h
    · rw [htag]
      exact Bool.false_ne_true
    · exact absurd h (hlifts e)

theorem filter_declaredAlong (names : TagNames) (bound : String → Bool) (seen : List String)
    (es : List Entity) :
    (names.declaredAlong bound seen es).filter (·.info.kind.isTag) = es.flatMap names.declaredIn := by
  induction es generalizing seen with
  | nil => rfl
  | cons b rest ih =>
    rw [declaredAlong, List.filter_append, filter_declaredBy, ih, List.flatMap_cons]

end TagNames

namespace Report

variable {report : Report} {skip : Bool} {e : Entity}

theorem mem_declared_iff (h : e.isLiftable = true) :
    e ∈ report.declared skip ↔ ∃ b ∈ report.visited skip, ∃ path, b.Nests path e ∧
      ∀ r ∈ path, (report.tagNames.nameOf? r).isSome := by
  have htag : e.info.kind.isTag := (report.tagNames.lifts_self h).isTag.2
  have hmem : e ∈ report.declared skip ↔
      e ∈ (report.visited skip).flatMap report.tagNames.declaredIn := by
    rw [← report.tagNames.filter_declaredAlong _ [], List.mem_filter, and_iff_left htag]
    rfl
  rw [hmem, List.mem_flatMap]
  refine exists_congr fun b => and_congr_right fun _ => ?_
  rw [TagNames.mem_declaredIn]
  refine ⟨TagNames.Lifts.exists_nests, fun ⟨path, hpath, hnamed⟩ => ?_⟩
  exact .of_nests hpath hnamed (report.tagNames.lifts_self h)

/-- A definition inside others is declared exactly if all structs and unions around it have names. -/
theorem nested_declared_iff (report : Report) (skip : Bool) :
    let s := report.reading skip
    (report.declared skip).filter (·.info.kind.isTag) =
      (report.visited skip).flatMap report.tagNames.declaredIn ∧
    (∀ e, e.isLiftable = true → (e ∈ report.declared skip ↔
      ∃ b ∈ report.visited skip, ∃ path, b.Nests path e ∧
        ∀ r ∈ path, (report.tagNames.nameOf? r).isSome)) ∧
    (∀ e ∈ report.declared skip, ∃ d ∈ s.header.declarations,
      report.Declares report.tagNames s.types e d) ∧
    ∀ d ∈ s.header.declarations, ∃ e ∈ report.declared skip,
      report.Declares report.tagNames s.types e d :=
  ⟨report.tagNames.filter_declaredAlong _ _ _, fun _ => mem_declared_iff,
    fun _ => exists_declaration, fun _ => exists_declares⟩

namespace Layers

def int : ReportedType :=
  .mk { kind := .int, spelling := "int" } none none none none none []

def inner : Entity :=
  .mk { kind := .structDecl, name := some "inner", location := some ⟨"lib.h", 3, 12⟩,
        isDefinition := true }
    [.mk { kind := .fieldDecl, name := some "x", type := some int } [] []] []

def middle (name : Option String) : Entity :=
  let record : ReportedType :=
    .mk { kind := .record, spelling := "struct inner", declaration := some 0 }
      none none none none none []
  .mk { kind := .structDecl, name, location := some ⟨"lib.h", 2, 3⟩, isDefinition := true }
    [inner, .mk { kind := .fieldDecl, name := some "nested", type := some record } [] []] []

def outer (name : Option String) : Entity :=
  .mk { kind := .structDecl, name := some "outer", location := some ⟨"lib.h", 1, 8⟩,
        isDefinition := true }
    [middle name, .mk { kind := .fieldDecl, name := some "id", type := some int } [] []] []

/-- Three structs, one inside the other. The one in the middle may have a name. -/
def header (name : Option String) : Report where
  root := .mk { kind := .translationUnit } [outer name] []
  declarations := #[inner]

theorem nests_inner (name : Option String) :
    (outer name).Nests [outer name, middle name] inner :=
  .inside (c := middle name) rfl rfl (.head _) (.inside rfl rfl (.head _) .here)

end Layers

theorem nested_declared_iff_layers :
    Layers.inner.isLiftable = true ∧
    Layers.inner ∈ (Layers.header (some "mid")).declared false ∧
    ((Layers.header (some "mid")).reading false).header.declarations.map (·.tagName?) =
      [some "inner", some "mid", some "outer"] := by
  obtain ⟨-, hdeclared, -, -⟩ := nested_declared_iff (Layers.header (some "mid")) false
  have hliftable : Layers.inner.isLiftable = true := by decide +kernel
  refine ⟨hliftable, ?_, by decide +kernel⟩
  refine (hdeclared _ hliftable).2 ⟨Layers.outer (some "mid"), .head _, _, Layers.nests_inner _, ?_⟩
  decide +kernel

/-- What stands inside a nameless struct is lost, whatever its own name. -/
theorem not_forall_nested_declared :
    ¬∀ (report : Report) (skip : Bool) (b e : Entity) (path : List Entity),
      b ∈ report.visited skip → path ≠ [] → b.Nests path e → e.isLiftable = true →
      ∃ d ∈ (report.reading skip).header.declarations,
        report.Declares report.tagNames (report.reading skip).types e d := by
  intro h
  obtain ⟨d, hd, hdeclares⟩ := h (Layers.header none) false (Layers.outer none) Layers.inner _
    (.head _) (List.cons_ne_nil _ _) (Layers.nests_inner none) (by decide +kernel)
  have hname : (Layers.header none).tagName Layers.inner = "inner" := by decide +kernel
  have hlost : ∀ d ∈ ((Layers.header none).reading false).header.declarations,
      d.tagName? ≠ some "inner" := by
    decide +kernel
  exact hlost d hd ((hdeclares.tagName? rfl).trans (congrArg some hname))

end Report

end HeaderBindings
