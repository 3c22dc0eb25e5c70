import HeaderBindings.Proofs.Bindings.Enums
import HeaderBindings.Proofs.Bindings.Independent
import HeaderBindings.Proofs.TypeMap.WholeWords

/-! Names that are a single word and no pattern of a rule. They are written as they are, where they
are declared and where they are used, whatever rules stand in front of the built-in ones. -/

namespace HeaderBindings

open Output TypeGraph

namespace TypeGraph

variable {g : TypeGraph} {b : TypeId} {name : String}

/-- A tag, or a typedef that has not been bound, with that name. -/
def Unbound (g : TypeGraph) (b : TypeId) (name : String) : Prop :=
  g.node b = .typedef name none ∨ ∃ kind, g.node b = .tagged kind name

theorem Unbound.inner? (h : g.Unbound b name) : g.inner? b = none := by
  rcases h with h | ⟨kind, h⟩
  · exact inner?_of_node h
  · exact inner?_of_node h

theorem Unbound.function? (h : g.Unbound b name) : g.function? b = none := by
  refine function?_eq_none_iff.2 fun f hlead => ?_
  rcases Relation.ReflTransGen.cases_head hlead with rfl | ⟨next, hstep, -⟩
  · rcases h with h | ⟨kind, h⟩ <;> rw [h] <;> rfl
  · rw [h.inner?] at hstep
    cases hstep

theorem Unbound.step? (h : g.Unbound b name) (stop : String → Bool) : g.step? stop b = none := by
  cases hs : g.step? stop b with
  | none => rfl
  | some next =>
    have hinner := inner?_of_step? hs
    rw [h.inner?] at hinner
    cases hinner

theorem Unbound.baseText (h : g.Unbound b name) (hne : name ≠ "") (map : TypeMap) :
    map.baseText (g.node b) = map.convert name := by
  rcases h with h | ⟨kind, h⟩
  · rw [h, TypeMap.baseText_typedef hne]
  · rw [h, TypeMap.baseText_tagged hne]

end TypeGraph

namespace Emit

variable {job : Job}

/-- What a script adds to the lines. -/
theorem Writes.mem_lines {α : Type} {e : Emit α} {value : Naming → α}
    {script : Naming → List Output.Step} (h : Writes job e value script) (d : Draft) {line : String}
    (hline : line ∈ linesFrom d.output.indent (script (d.naming job))) :
    line ∈ (e.run d).2.output.lines := by
  rw [← Array.mem_toList_iff, h.output_eq, lines_play]
  exact List.mem_append_right _ hline

theorem struct_line (d : Draft) (decl : StructDecl) :
    Job.indented d.output.indent ("public struct " ++ decl.name) ∈
      ((struct job decl).run d).2.output.lines := by
  apply (writes_struct decl).mem_lines
  rw [Job.linesFrom_structAt, Job.structLinesAt]
  simp only [List.mem_append, List.mem_cons, true_or, or_true]

theorem enum_line (job : Job) (d : Draft) {decl : EnumDecl} (hne : decl.name ≠ "") :
    Job.indented d.output.indent ("public enum " ++ decl.name ++ " : c_int") ∈
      ((enum decl).run d).2.output.lines := by
  have hwrites : Writes job (enum decl) _ _ := writes_enum decl
  apply hwrites.mem_lines
  rw [Job.linesFrom_enum, Job.enumLines, if_neg hne]
  simp only [List.mem_append, List.mem_cons, true_or, or_true]

theorem plainAlias_line {d : Draft} {name : String} {id : TypeId}
    (hunknown : job.typeMap.knows name = false) (hne : ((typeText job id).run d).1 ≠ name) :
    Job.indented d.output.indent
        ("public typealias " ++ name ++ " = " ++ ((typeText job id).run d).1 ++ ";") ∈
      ((plainAlias job name id).run d).2.output.lines := by
  apply (writes_plainAlias name id).mem_lines
  rw [(writes_typeText id).value_eq] at hne ⊢
  have hother : (job.text (d.naming job) id == name) = false := beq_eq_false_iff_ne.2 hne
  rw [Script.plainAlias, hunknown, hother]
  exact List.mem_cons_self

end Emit

namespace TypeMap

open Text

/-- A word that is the pattern of no rule, and is not `unsigned`, is converted to itself. So a tag
or an unbound typedef of that name is written as it is, with a `*` for each pointer and array around
it, and it is the name in the line that declares it. -/
theorem words_verbatim {extra : List TypeRule} (hpatterns : ∀ rule ∈ extra, rule.pattern ≠ "")
    {name : String} (hne : name ≠ "") (hword : ∀ c ∈ name.toList, isWordChar c)
    (hunknown : (withRules extra).knows name = false) (hunsigned : name ≠ "unsigned") :
    (withRules extra).convert name = name ∧
    ∀ (job : Job) (aliases : AliasTable) (ops : List Operation) (b : TypeId),
      job.typeMap = withRules extra → job.types.Unbound b name →
      let d := Operation.runAll job { aliases } ops
      let text (x : TypeId) := ((Emit.typeText job x).run d).1
      text b = name ∧
      (∀ x layers, Descent job.types job.typeMap.knows x layers b →
        text x = name ++ pointerSuffix (job.types.indirections layers)) ∧
      (∀ decl : StructDecl, decl.name = name →
        Job.indented d.output.indent ("public struct " ++ text b) ∈
          ((Emit.struct job decl).run d).2.output.lines) ∧
      (∀ decl : EnumDecl, decl.name = name →
        Job.indented d.output.indent ("public enum " ++ text b ++ " : c_int") ∈
          ((Emit.enum decl).run d).2.output.lines) ∧
      ∀ target, text target ≠ name →
        Job.indented d.output.indent
            ("public typealias " ++ text b ++ " = " ++ text target ++ ";") ∈
          ((Emit.plainAlias job name target).run d).2.output.lines := by
  have hconvert : (withRules extra).convert name = name :=
    convert_of_word (fun _ h => pattern_ne_empty_of_mem_withRules hpatterns h) hword hunknown
      hunsigned
  refine ⟨hconvert, fun job aliases ops b hmap hb => ?_⟩
  intro d text
  have htext (x : TypeId) (layers : List TypeId)
      (hx : Descent job.types job.typeMap.knows x layers b) :
      text x = name ++ pointerSuffix (job.types.indirections layers) := by
    change ((Emit.typeText job x).run d).1 = _
    rw [Emit.typeText_runAll ops hx hb.function?, hb.baseText hne, hmap, hconvert]
  have hbottom : text b = name :=
    (htext b [] (.bottom (hb.step? _))).trans (String.append_empty)
  refine ⟨hbottom, htext, ?_, ?_, ?_⟩
  · intro decl hdecl
    rw [hbottom, ← hdecl]
    exact Emit.struct_line d decl
  · intro decl hdecl
    rw [hbottom, ← hdecl]
    exact Emit.enum_line job d (hdecl ▸ hne)
  · intro target htarget
    rw [hbottom]
    exact Emit.plainAlias_line (by rw [hmap]; exact hunknown) htarget

/-- Rules for the parts of a name. -/
def partRules : List TypeRule :=
  [⟨"point", "Vector"⟩, ⟨"int", "i32"⟩, ⟨"_t", "Type"⟩]

/-- A struct whose name starts with one pattern, ends with another and holds all of them. -/
def points : Job where
  header := { types := ⟨#[.tagged .struct "point_int_t", .pointer 0 false]⟩ }
  options := ⟨"demo.dll", "Demo"⟩
  typeMap := withRules partRules

theorem words_verbatim_points :
    (withRules partRules).convert "point_int_t" = "point_int_t" ∧
    (withRules partRules).convert "point int _t" = "Vector i32 Type" ∧
    ((Emit.typeText points 1).run (Operation.runAll points {} [.collect, .name 1])).1 =
      "point_int_t*" := by
  have hpatterns : ∀ rule ∈ partRules, rule.pattern ≠ "" := by decide
  have hword : ∀ c ∈ "point_int_t".toList, isWordChar c := List.all_eq_true.1 (by decide +kernel)
  have hunknown : (withRules partRules).knows "point_int_t" = false := by decide +kernel
  obtain ⟨hconvert, hjob⟩ := words_verbatim hpatterns (by decide) hword hunknown (by decide)
  have hunbound : points.types.Unbound 0 "point_int_t" := .inr ⟨.struct, rfl⟩
  have hdescent : Descent points.types points.typeMap.knows 1 [1] 0 := .layer rfl (.bottom rfl)
  obtain ⟨-, htext, -⟩ := hjob points {} [.collect, .name 1] 0 rfl hunbound
  exact ⟨hconvert, by decide +kernel, htext 1 [1] hdescent⟩

end TypeMap

end HeaderBindings
