import HeaderBindings.Proofs.Bindings.FunctionNames

/-! The laws of the conversion, for names of any characters, and what follows for the function types
that fields give: their names are converted where they are registered and once more where they are
declared, and the second time nothing changes. So a field is written with the name that the line of
its function type has. -/

namespace HeaderBindings.Emit

open Job Output Text
open Name (Casing convert fieldAlias partwise)

/-- The lines of a name of a function type. -/
theorem lines_functionAlias {job : Job} {id : TypeId} {s : Signature} (d : Draft) (name : String)
    (hs : job.types.node id = .function s) :
    ((functionAlias job name id).run d).2.output.lines.toList = d.output.lines.toList ++
      [indented d.output.indent
        (job.functionTypeLine (d.naming job) (convert .pascal name) s), ""] := by
  rw [(writes_functionAlias name id).output_eq d, lines_play, linesFrom_functionAlias _ name hs]

/-- A name is converted part by part, so at each underscore it can be cut in two. Nothing is left to
convert after that: there is no underscore, the same conversion again changes nothing, and a name in
camel case is a name for the conversion to Pascal case like the one it comes from. The name that a
field gives its function type is written as it is where the type is declared. -/
theorem conversion_laws (casing : Casing) (a b : String) :
    convert casing (a ++ "_" ++ b) = convert casing a ++ convert .pascal b ∧
    (convert casing a).toList = partwise (casing = .pascal) (splitAt '_' a.toList) ∧
    '_' ∉ (convert casing a).toList ∧
    convert casing (convert casing a) = convert casing a ∧
    convert .pascal (convert .camel a) = convert .pascal a ∧
    convert .pascal (fieldAlias a) = fieldAlias a ∧
    ∀ (job : Job) (d : Draft) (id : TypeId) (s : Signature), job.types.node id = .function s →
      ((functionAlias job (fieldAlias a) id).run d).2.output.lines.toList =
        d.output.lines.toList ++ [indented d.output.indent
          (job.functionTypeLine (d.naming job) (fieldAlias a) s), ""] := by
  have hparts : (convert casing a).toList = Name.joinParts (casing = .pascal) a.toList :=
    String.toList_ofList
  refine ⟨Name.convert_append_underscore casing a b, ?_, ?_, Name.convert_convert casing a,
    Name.convert_convert_camel a, Name.convert_fieldAlias a, fun job d id s hs => ?_⟩
  · rw [hparts, Name.joinParts_eq_partwise]
  · rw [hparts]
    exact Name.underscore_notMem_joinParts _ _
  · rw [lines_functionAlias d _ hs, Name.convert_fieldAlias]

/-- A function type for a field. -/
def events : Job where
  header := { types := ⟨#[.builtin .void, .builtin .int, .function ⟨0, [⟨"code", 1⟩], false⟩]⟩ }
  options := ⟨"demo.dll", "Demo"⟩
  typeMap := .withRules []

/-- A letter whose upper case is two, underscores in a row, in front and at the end. -/
theorem conversion_laws_events :
    let code : Signature := ⟨0, [⟨"code", 1⟩], false⟩
    convert .camel "_on__ßend_" = "OnSSend" ∧
    convert .pascal (convert .camel "on__ßend_") = "OnSSend" ∧
    ((functionAlias events (fieldAlias "on__ßend_") 2).run {}).2.output.lines.toList =
      [indented 0 (events.functionTypeLine (({} : Draft).naming events) "OnSSendFn" code), ""] := by
  intro code
  obtain ⟨hcut, -⟩ := conversion_laws .camel "" "on__ßend_"
  obtain ⟨-, -, -, -, hcamel, -, hline⟩ := conversion_laws .camel "on__ßend_" ""
  have hcode := hline events {} 2 code rfl
  rw [show fieldAlias "on__ßend_" = "OnSSendFn" by decide] at hcode ⊢
  exact ⟨hcut.trans (by decide), hcamel.trans (by decide), hcode⟩

end HeaderBindings.Emit
