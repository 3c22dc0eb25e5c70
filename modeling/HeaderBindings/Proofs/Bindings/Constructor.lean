import HeaderBindings.Proofs.Bindings.Structs

/-! The constructor of a struct next to its fields. Both are made from the list of fields: what a
field is written with is what its parameter is written with, none is left out of the parameters, and
the body sets each name that is written once, to the first parameter that is there for it. -/

namespace HeaderBindings.Emit

open Job Output

/-- What a struct is written as at any indentation. -/
theorem lines_structBody (job : Job) (d : Draft) (name : String) (decl : StructDecl) :
    ((structBody job name decl).run d).2.output.lines.toList = d.output.lines.toList ++
      structLinesAt d.output.indent name decl
        (fun f => ((fieldTypeText job f.name f.type).run d).1)
        (fun f => Name.convert .pascal f.name) (fun f => Name.parameter f.name)
        (firsts (fun f => Name.convert .pascal f.name) decl.fields) := by
  have htype (f : Field) : ((fieldTypeText job f.name f.type).run d).1 =
      job.fieldText (d.naming job) f.name f.type :=
    (writes_fieldTypeText f.name f.type).value_eq d
  simp only [htype]
  rw [(writes_structBody name decl).output_eq d, lines_play, linesFrom_structAt]

/-- A struct has a constructor if it has a field. Each field gives a parameter of the type that the
field is written with, in the order of the fields, and each name of a field is set once, where it
comes up first, to the parameter of the first field of that name. -/
theorem constructor_mirrors_fields (job : Job) (d : Draft) (name : String) (decl : StructDecl) :
    let type (f : Field) := ((fieldTypeText job f.name f.type).run d).1
    let written (f : Field) := Name.convert .pascal f.name
    let parameter (f : Field) := Name.legalParameter (Name.convert .camel f.name)
    let assigned := firsts written decl.fields
    let out := ((structBody job name decl).run d).2.output
    out.lines.toList = d.output.lines.toList ++
      structLinesAt d.output.indent name decl type written parameter assigned ∧
    out.indent = d.output.indent ∧
    assigned.map written = (decl.fields.map written).eraseDups ∧
    ∀ f ∈ assigned, decl.fields.find? (written · == written f) = some f := by
  intro type written parameter assigned out
  refine ⟨lines_structBody job d name decl, ?_, map_firsts written decl.fields,
    fun f hf => find?_of_mem_firsts hf⟩
  change ((structBody job name decl).run d).2.output.indent = _
  rw [(writes_structBody name decl).output_eq d, indent_play]
  exact Script.balanced_struct job _ name decl d.output.indent

end HeaderBindings.Emit
