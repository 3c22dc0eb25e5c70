import HeaderBindings.Proofs.Bindings.Constructor
import HeaderBindings.Proofs.Bindings.ParameterNames
import HeaderBindings.Proofs.Name.Parameters

/-! The parameter names of a file are neither blank nor reserved, whatever the names in the header
are. Conversion comes first and can make a reserved word, which is then replaced; the position that
sets a name apart is appended after that, and no reserved word ends in a digit. -/

namespace HeaderBindings

open Job Output Text
open Name (Legal legalParameter legal_legalParameter legalParameter_eq_self_iff reservedWords)

theorem not_endsInDigit_of_mem_reservedWords : ∀ word ∈ reservedWords, ¬endsInDigit word := by
  decide

/-- A position behind a name does not make it blank or a reserved word. -/
theorem Name.Legal.append_toString {name : String} (h : Legal name) (position : Nat) :
    Legal (name ++ toString position) where
  not_blank hblank := by
    rw [String.toList_append, List.all_append, Bool.and_eq_true] at hblank
    exact h.not_blank hblank.1
  not_reserved hmem :=
    not_endsInDigit_of_mem_reservedWords _ hmem (endsInDigit_append_toString name position)

theorem legal_of_mem_parameterNames {names : List String} {written : String}
    (h : written ∈ parameterNames names) : Legal written := by
  obtain ⟨before, name, -, hplain | hposition⟩ := exists_of_mem_parameterNames h
  · rw [hplain]
    exact legal_legalParameter _
  · rw [hposition]
    exact (legal_legalParameter _).append_toString _

namespace Emit

/-- The names in a parameter list, and those in the parameters of a constructor, one for each
parameter and each field. None of them is blank or reserved, and each is a name that is kept where
it is given to a parameter. -/
theorem written_parameters_legal (job : Job) (d : Draft) (parameters : List Parameter)
    (variadic : Bool) (name : String) (decl : StructDecl) :
    let names := parameterNames (parameters.map (·.name))
    let parameter (f : Field) := legalParameter (Name.convert .camel f.name)
    ((parameterList job parameters variadic).run d).1 =
      String.intercalate ", "
        (List.zipWith (fun type name => type ++ " " ++ name)
          (parameters.map fun p => job.text (d.naming job) p.type) names ++
        if variadic then ["..."] else []) ∧
    names.length = parameters.length ∧
    ((structBody job name decl).run d).2.output.lines.toList = d.output.lines.toList ++
      structLinesAt d.output.indent name decl
        (fun f => ((fieldTypeText job f.name f.type).run d).1)
        (fun f => Name.convert .pascal f.name) parameter
        (firsts (fun f => Name.convert .pascal f.name) decl.fields) ∧
    ∀ written ∈ names ++ decl.fields.map parameter,
      ¬written.toList.all isBlank ∧ written ∉ reservedWords ∧
        legalParameter written = written := by
  intro names parameter
  refine ⟨(writes_parameterList parameters variadic).value_eq d, by simp [names],
    lines_structBody job d name decl, fun written hmem => ?_⟩
  have hlegal : Legal written := by
    rcases List.mem_append.1 hmem with hmem | hmem
    · exact legal_of_mem_parameterNames hmem
    · obtain ⟨f, -, rfl⟩ := List.mem_map.1 hmem
      exact legal_legalParameter _
  exact ⟨hlegal.not_blank, hlegal.not_reserved, legalParameter_eq_self_iff.2 hlegal⟩

/-- A reserved word and a name that is converted to it, and two blank names. -/
def ports : List Parameter :=
  [⟨"in", 1⟩, ⟨"in_", 1⟩, ⟨"_ ", 1⟩, ⟨"\t", 1⟩]

/-- The same names for fields. -/
def portFields : StructDecl where
  name := "ports"
  kind := .struct
  fields := ports.map fun p => ⟨p.name, p.type, none⟩
  isDefinition := true

theorem written_parameters_legal_ports :
    let int := area.text (({} : Draft).naming area) 1
    ((parameterList area ports false).run {}).1 = String.intercalate ", "
      [int ++ " " ++ "inValue", int ++ " " ++ "inValue2", int ++ " " ++ "value",
        int ++ " " ++ "value4"] ∧
    portFields.fields.map (fun f => Name.parameter f.name) =
      ["inValue", "inValue", "value", "value"] ∧
    "inValue" ∉ reservedWords ∧ legalParameter "inValue2" = "inValue2" ∧
    "value4".toList.all isBlank = false := by
  intro int
  obtain ⟨htext, -, -, hlegal⟩ :=
    written_parameters_legal area {} ports false "ports" portFields
  have hnames : parameterNames (ports.map (·.name)) =
      ["inValue", "inValue2", "value", "value4"] := by decide
  have hfields : portFields.fields.map (fun f => Name.parameter f.name) =
      ["inValue", "inValue", "value", "value"] := by decide
  rw [hnames] at htext hlegal
  obtain ⟨-, hreserved, -⟩ := hlegal "inValue" (List.mem_append_left _ (by decide))
  obtain ⟨-, -, hkept⟩ := hlegal "inValue2" (List.mem_append_left _ (by decide))
  obtain ⟨hblank, -, -⟩ := hlegal "value4" (List.mem_append_left _ (by decide))
  exact ⟨htext, hfields, hreserved, hkept, Bool.eq_false_iff.2 hblank⟩

end Emit

end HeaderBindings
