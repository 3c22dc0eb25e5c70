import HeaderBindings.Proofs.AliasTable
import HeaderBindings.Proofs.Bindings.Operations
import HeaderBindings.Proofs.Bindings.Structs
import HeaderBindings.Proofs.Bindings.TypeText
import HeaderBindings.Proofs.Report.Found

/-! Typedefs from their declarations to their uses. There is one type for each name, which is bound
at most once and then stays bound, so the line that is written for a declaration and the text of
every use come from one and the same type. -/

namespace HeaderBindings

open Output

namespace TypeGraph

variable {g : TypeGraph}

/-- Where the layers below a type end, a walk that stops at some typedefs ends as well. -/
theorem Descent.exists_stop {id b : TypeId} {xs : List TypeId}
    (h : Descent g (fun _ => false) id xs b) (stop : String → Bool) :
    ∃ ys c, Descent g stop id ys c := by
  induction h with
  | @bottom id hb =>
    refine ⟨[], id, .bottom ?_⟩
    cases hs : g.step? stop id with
    | none => rfl
    | some next =>
      rw [step?_never, inner?_of_step? hs] at hb
      cases hb
  | @layer id next _ _ hs _ ih =>
    cases hstop : g.step? stop id with
    | none => exact ⟨[], id, .bottom hstop⟩
    | some other =>
      rw [step?_never, inner?_of_step? hstop] at hs
      cases hs
      obtain ⟨ys, c, hrest⟩ := ih
      exact ⟨id :: ys, c, .layer hstop hrest⟩

end TypeGraph

namespace Job

open TypeGraph

variable {job : Job}

/-- A typedef that the type table does not know is written as what it stands for. -/
theorem text_of_typedef {aliases : AliasTable} {id target b : TypeId} {name : String}
    {xs : List TypeId} (hn : job.types.node id = .typedef name (some target))
    (hunknown : job.typeMap.knows name = false) (hfun : job.types.function? target = none)
    (h : Descent job.types (fun _ => false) id xs b) :
    job.text (job.naming aliases) id = job.text (job.naming aliases) target := by
  have hinner : job.types.inner? id = some target := inner?_of_node hn
  have hstep : job.types.step? job.typeMap.knows id = some target := by
    simp only [step?, hn, hunknown]
    rfl
  have hnone := function?_eq_none_iff.1 hfun
  have hnone' := function?_eq_none_iff.1 ((function?_of_inner? hinner).trans hfun)
  obtain ⟨ys, c, hdescent⟩ := h.exists_stop job.typeMap.knows
  cases hdescent with
  | bottom hb => rw [hb] at hstep; cases hstep
  | @layer _ next _ ys hs rest =>
    obtain rfl : next = target := Option.some.inj (hs.symm.trans hstep)
    have htypedef : ¬(job.types.node id).isIndirection := by rw [hn]; simp [CType.isIndirection]
    rw [text_of_descent (.layer hs rest) hnone', text_of_descent rest hnone, List.cons_append,
      indirections_cons, if_neg htypedef, Nat.zero_add]

/-- The names that get a line of their own, with what they are written to stand for. -/
def aliasLines (job : Job) : List (String × String) :=
  ((AliasTable.collect job.header).plain.map fun entry =>
    (entry.1, job.text job.fileNaming entry.2)).filter fun line =>
      !(job.typeMap.knows line.1 || line.2 == line.1)

/-- A line stands for the typedef `id`, which is written as the line says where the layers below it
end. -/
structure LineOf (job : Job) (line : String × String) (id target : TypeId) : Prop where
  holds : job.types.Holds id (.typedef line.1 (some target))
  text_eq : ∀ xs b, TypeGraph.Descent job.types (fun _ => false) id xs b →
    job.text job.fileNaming id = line.2

theorem block_typeAliases (job : Job) : job.block .typeAliases =
    job.aliasLines.flatMap fun line =>
      ["public typealias " ++ line.1 ++ " = " ++ line.2 ++ ";", ""] := by
  rw [block, Stage.script, linesFrom_flatMap fun entry _ =>
    Script.balanced_plainAlias job _ entry.1 entry.2, aliasLines]
  change List.flatMap _ (AliasTable.collect job.header).plain = _
  induction (AliasTable.collect job.header).plain with
  | nil => rfl
  | cons entry rest ih =>
    have halias : linesFrom Stage.typeAliases.indent
        (Script.plainAlias job job.fileNaming entry.1 entry.2) =
        if !(job.typeMap.knows entry.1 || job.text job.fileNaming entry.2 == entry.1) then
          ["public typealias " ++ entry.1 ++ " = " ++ job.text job.fileNaming entry.2 ++ ";", ""]
        else [] := by
      rw [Script.plainAlias]
      cases job.typeMap.knows entry.1 || job.text job.fileNaming entry.2 == entry.1 with
      | true => rfl
      | false =>
        change [indented 0 _, ""] = _
        rw [indented_zero]
        rfl
    rw [List.flatMap_cons, ih, List.map_cons, List.filter_cons, halias]
    split
    · rfl
    · rfl

end Job

namespace Reading

variable {s : Reading}

theorem Tidy.unique (hs : s.Tidy) {id id' : TypeId} {name : String} {target target' : Option TypeId}
    (hid : s.types.Holds id (.typedef name target))
    (hid' : s.types.Holds id' (.typedef name target')) : id = id' ∧ target = target' :=
  ⟨Option.some.inj ((hs.lookup_eq hid).symm.trans (hs.lookup_eq hid')),
    (hs.target?_eq hid).symm.trans (hs.target?_eq hid')⟩

end Reading

namespace Report

open Relation

variable {report : Report} {skip : Bool}

/-- The typedef of an alias that is declared. -/
theorem holds_of_mem_typeAliases {decl : TypeAliasDecl}
    (h : decl ∈ (report.reading skip).header.typeAliases) :
    ∃ id, (report.reading skip).types.Holds id (.typedef decl.name (some decl.type)) := by
  obtain ⟨d, hd, hdecl⟩ := List.mem_filterMap.1 h
  obtain ⟨e, -, hdeclares⟩ := exists_declares hd
  cases hdeclares with
  | typeAlias hkind hname hid =>
    cases hdecl
    exact ⟨_, hid⟩
  | enum => cases hdecl
  | record => cases hdecl
  | function => cases hdecl

/-- What is read later leaves all types as they are, and only takes steps that are allowed. -/
theorem grows_after {before after : List Entity} (h : report.visited skip = before ++ after) :
    report.Grows report.tagNames
      ((before.forM (Reader.entity (report.reader skip))).run {}).2 (report.reading skip) := by
  have hvisited : ∀ e ∈ before ++ after, e ∈ report.visited skip := fun e he => h ▸ he
  obtain ⟨_, hbefore, -⟩ := (report.reader skip).finds_forM before
    (fun e he => hvisited e (List.mem_append_left _ he)) tidy_empty
  obtain ⟨_, hafter, -⟩ := (report.reader skip).finds_forM after
    (fun e he => hvisited e (List.mem_append_right _ he)) hbefore.tidy
  have hrun : (before ++ after).forM (Reader.entity (report.reader skip)) = (do
      before.forM (Reader.entity (report.reader skip))
      after.forM (Reader.entity (report.reader skip))) := List.forM_append
  rw [reading_eq_forM, h, hrun]
  exact hafter.grows

/-- Every line stands for a typedef. -/
theorem exists_lineOf {options : Options} {typeMap : TypeMap} {line : String × String} :
    let job : Job := ⟨(report.reading skip).header, options, typeMap⟩
    line ∈ job.aliasLines → ∃ id target, job.LineOf line id target := by
  intro job hline
  obtain ⟨hline, hwritten⟩ := List.mem_filter.1 hline
  obtain ⟨⟨name, target⟩, hplain, rfl⟩ := List.mem_map.1 hline
  obtain ⟨halias, hfun⟩ := AliasTable.typeAlias_of_mem_plain hplain
  obtain ⟨id, hid⟩ := holds_of_mem_typeAliases halias
  have hunknown : job.typeMap.knows name = false := by
    simp only [Bool.not_eq_true', Bool.or_eq_false_iff] at hwritten
    exact hwritten.1
  exact ⟨id, target, hid, fun xs b hdescent =>
    Job.text_of_typedef hid.node_eq hunknown hfun hdescent⟩

/-- For each name there is one typedef, which is added unbound, bound at most once and never changed
afterwards; each alias that is declared is what it is bound to. So where the layers below it end, it
reads in every use as in its own line. -/
theorem typedefs_agree (report : Report) (skip : Bool) :
    let s := report.reading skip
    (∀ id id' name target target', s.types.Holds id (.typedef name target) →
      s.types.Holds id' (.typedef name target') → id = id') ∧
    ReflTransGen TypeGraph.Step {} s.types ∧
    (∀ g, ReflTransGen TypeGraph.Step g s.types → ∀ id name target,
      g.Holds id (.typedef name (some target)) →
        s.types.Holds id (.typedef name (some target))) ∧
    (∀ before after, report.visited skip = before ++ after →
      let s' := ((before.forM (Reader.entity (report.reader skip))).run {}).2
      s'.types.Keeps s.types ∧ ReflTransGen TypeGraph.Step s'.types s.types) ∧
    (∀ decl ∈ s.header.typeAliases, ∃ id,
      s.types.Holds id (.typedef decl.name (some decl.type)) ∧
      ∀ id' target', s.types.Holds id' (.typedef decl.name target') →
        id' = id ∧ target' = some decl.type) ∧
    ∀ options typeMap,
      let job : Job := ⟨s.header, options, typeMap⟩
      (∀ text, job.generate.1 = .ok text → text = joined (Stage.all.flatMap job.block)) ∧
      (job.block .typeAliases = job.aliasLines.flatMap fun line =>
        ["public typealias " ++ line.1 ++ " = " ++ line.2 ++ ";", ""]) ∧
      ∀ line ∈ job.aliasLines, ∃ id target,
        s.types.Holds id (.typedef line.1 (some target)) ∧
        ∀ xs b, TypeGraph.Descent s.types (fun _ => false) id xs b → ∀ ops : List Operation,
          (∀ op ∈ ops, op.registers = false) →
            ((Emit.typeText job id).run (Operation.runAll job {} (.collect :: ops))).1 =
              line.2 := by
  intro s
  have hfinds := report.finds_reading skip
  refine ⟨fun id id' name target target' hid hid' => (hfinds.tidy.unique hid hid').1,
    hfinds.grows.steps, fun g hg id name target => TypeGraph.holds_of_steps hg,
    fun before after h => ⟨(grows_after h).keeps, (grows_after h).steps⟩, fun decl hdecl => ?_,
    fun options typeMap => ?_⟩
  · obtain ⟨id, hid⟩ := holds_of_mem_typeAliases hdecl
    refine ⟨id, hid, fun id' target' hid' => ?_⟩
    exact hfinds.tidy.unique hid' hid
  · intro job
    refine ⟨fun text htext => ?_, job.block_typeAliases, fun line hline => ?_⟩
    · rw [job.generate_eq_plainFile, Job.plainFile] at htext
      split at htext
      · cases htext
      · exact (Except.ok.inj htext).symm
    · obtain ⟨id, target, hid, htext⟩ := exists_lineOf hline
      refine ⟨id, target, hid, fun xs b hdescent ops hops => ?_⟩
      rw [(Emit.writes_typeText id).value_eq, Operation.naming_runAll_collect ops hops]
      exact htext xs b hdescent

/-- A typedef that a function uses before it is declared, that is declared once more by way of
itself, and one that leads back to itself. -/
def redeclared : Report :=
  let plain (info : TypeInfo) : ReportedType := .mk info none none none none none []
  let use (name : String) (position : Nat) : ReportedType :=
    plain { kind := .typedef, spelling := name, declaration := some position }
  let pointer (type : ReportedType) : ReportedType :=
    .mk { kind := .pointer } (some type) none none none none []
  let typedef (name : String) (type : ReportedType) : Entity :=
    .mk { kind := .typedefDecl, name := some name, underlying := some type } [] []
  let length := typedef "len_t" (plain { kind := .uint, spelling := "unsigned int" })
  let again := typedef "len_t" (use "len_t" 0)
  let self := typedef "self_t" (pointer (use "self_t" 2))
  let function : EntityInfo :=
    { kind := .functionDecl, name := some "length", result := some (use "len_t" 0) }
  { root := .mk { kind := .translationUnit } [.mk function [] [], length, again, self] []
    declarations := #[length, again, self] }

theorem typedefs_agree_redeclared :
    let s := redeclared.reading false
    let job : Job := ⟨s.header, ⟨"demo.dll", "Demo"⟩, .withRules []⟩
    let name := "len_t"
    s.header.typeAliases = [⟨name, 1⟩, ⟨name, 1⟩, ⟨"self_t", 3⟩] ∧
    job.aliasLines = [(name, "uint32"), ("self_t", "void**")] ∧
    s.types.Holds 0 (.typedef name (some 1)) ∧
    ((Emit.typeText job 0).run
      (Operation.runAll job {} [.collect, .text 3, .stage .functions])).1 = "uint32" := by
  intro s job name
  obtain ⟨hunique, -, -, -, -, hlines⟩ := typedefs_agree redeclared false
  obtain ⟨-, -, hline⟩ := hlines ⟨"demo.dll", "Demo"⟩ (.withRules [])
  have hwritten : job.aliasLines = [(name, "uint32"), ("self_t", "void**")] := by decide +kernel
  have hlen : (name, "uint32") ∈ job.aliasLines := hwritten ▸ List.mem_cons_self
  have hfirst : s.types.Holds 0 (.typedef name (some 1)) := by
    unfold TypeGraph.Holds
    decide +kernel
  obtain ⟨id, target, hid, htext⟩ := hline _ hlen
  obtain rfl : id = 0 := hunique _ _ _ _ _ hid hfirst
  have hdescent : TypeGraph.Descent s.types (fun _ => false) 0 [0] 1 :=
    .layer (by decide +kernel) (.bottom (by decide +kernel))
  refine ⟨by decide +kernel, hwritten, hfirst, ?_⟩
  exact htext _ _ hdescent [.text 3, .stage .functions] (by decide)

end Report

end HeaderBindings
