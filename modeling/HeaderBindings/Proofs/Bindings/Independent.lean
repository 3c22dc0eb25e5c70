import HeaderBindings.Proofs.Bindings.FieldText
import HeaderBindings.Proofs.Bindings.Operations
import HeaderBindings.Proofs.TypeGraph.Cycles

/-! Types that lead to no function. What is registered are names of function types, so such a type
has one name under all tables. It is written alike after all operations, whatever was registered
meanwhile and whenever its name was kept. -/

namespace HeaderBindings

open TypeGraph

/-- Each type has the name that it gets under some table. -/
def Naming.Found (job : Job) (n : Naming) : Prop :=
  ∀ id, ∃ aliases, n.name id = job.typeName aliases id

namespace Job

variable {job : Job} {n : Naming} {aliases : AliasTable} {id : TypeId}

theorem isFunction_namingType (h : job.types.function? id = none) :
    (job.types.node (job.namingType id).id).isFunction = false := by
  refine Bool.eq_false_iff.2 fun hf => ?_
  rw [function?_of_canonical hf] at h
  cases h

theorem typeName_eq_baseText (h : job.types.function? id = none) :
    job.typeName aliases id =
      job.typeMap.baseText (job.types.node (job.namingType id).id) := by
  simp only [typeName, h]
  exact layerName_eq_baseText (isFunction_namingType h)

theorem name_of_found (hn : n.Found job) (h : job.types.function? id = none) :
    n.name id = job.typeName aliases id := by
  obtain ⟨table, hname⟩ := hn id
  rw [hname, typeName_eq_baseText h, typeName_eq_baseText h]

theorem suffixedText_of_found (hn : n.Found job) (h : job.types.function? id = none) :
    job.suffixedText n id = job.suffixedText (job.naming aliases) id := by
  rw [suffixedText, suffixedText, name_of_found hn h, naming]

theorem text_of_found (hn : n.Found job) (h : job.types.function? id = none) :
    job.text n id = job.text (job.naming aliases) id := by
  induction id using text_induction job with
  | array id element size hnode hlt ih =>
    have hinner : job.types.inner? id = some element := inner?_of_node hnode
    rw [text_of_array hnode hlt, text_of_array hnode hlt,
      ih ((function?_of_inner? hinner).symm.trans h)]
  | other id hnone =>
    rw [text_of_not_array hnone, text_of_not_array hnone, suffixedText_of_found hn h]

theorem fieldText_of_found (field : String) (hn : n.Found job) (h : job.types.function? id = none) :
    job.fieldText n field id = job.fieldText (job.naming aliases) field id := by
  have hdirect {id : TypeId} (h : job.types.function? id = none) :
      ¬job.types.isDirectFunctionPointer id :=
    not_isDirectFunctionPointer (function?_eq_none_iff.1 h)
  induction id using fieldText_induction job with
  | array id element size hnode hlt ih =>
    have hinner : job.types.inner? id = some element := inner?_of_node hnode
    rw [fieldText_of_array (hdirect h) hnode hlt, fieldText_of_array (hdirect h) hnode hlt,
      ih ((function?_of_inner? hinner).symm.trans h)]
  | other id hnone =>
    rw [fieldText_of_not_array (hdirect h) hnone, fieldText_of_not_array (hdirect h) hnone,
      text_of_found hn h]

end Job

namespace Operation

/-- A name that is kept was found under the table before some of the operations. -/
theorem exists_table (job : Job) (aliases : AliasTable) (ops : List Operation) (id : TypeId) :
    ∃ before, before <+: ops ∧
      ((runAll job { aliases } ops).naming job).name id =
        job.typeName (runAll job { aliases } before).aliases id := by
  cases hc : (runAll job { aliases } ops).cache.lookup id with
  | none =>
    refine ⟨ops, List.prefix_refl ops, ?_⟩
    simp only [Draft.naming, hc, Option.getD_none]
  | some name =>
    obtain ⟨before, op, after, rfl, -, -, hname⟩ := exists_first_run ops { aliases } rfl hc
    refine ⟨before, List.prefix_append before (op :: after), ?_⟩
    simp only [Draft.naming, hc, Option.getD_some, hname]

theorem found_runAll (job : Job) (aliases : AliasTable) (ops : List Operation) :
    ((runAll job { aliases } ops).naming job).Found job := by
  intro id
  obtain ⟨before, -, hname⟩ := exists_table job aliases ops id
  exact ⟨_, hname⟩

end Operation

namespace Emit

variable {job : Job} {aliases : AliasTable} {id b : TypeId} {layers : List TypeId}

/-- The text of a type that leads to no function, after any operations. -/
theorem typeText_runAll (ops : List Operation) (h : Descent job.types job.typeMap.knows id layers b)
    (hnone : job.types.function? b = none) :
    ((typeText job id).run (Operation.runAll job { aliases } ops)).1 =
      job.typeMap.baseText (job.types.node b) ++
        pointerSuffix (job.types.indirections layers) := by
  have hid : job.types.function? id = none := h.function?_eq.trans hnone
  have htext : job.text (job.naming aliases) id = _ :=
    Job.text_of_descent h (function?_eq_none_iff.1 hid)
  rw [(writes_typeText id).value_eq, Job.text_of_found (Operation.found_runAll job aliases ops) hid,
    htext, indirections_append, indirections_bottom h.step?_bottom, Nat.add_zero]

/-- The text of a field whose type leads to no function, after any operations. -/
theorem fieldTypeText_runAll (ops : List Operation) (field : String) (hg : job.types.WellFormed)
    (h : Descent job.types job.typeMap.knows id layers b) (hnone : job.types.function? b = none) :
    ((fieldTypeText job field id).run (Operation.runAll job { aliases } ops)).1 =
      storageText (job.typeMap.baseText (job.types.node b)) (job.types.fieldExtents layers) := by
  have hid : job.types.function? id = none := h.function?_eq.trans hnone
  rw [(writes_fieldTypeText field id).value_eq,
    Job.fieldText_of_found field (Operation.found_runAll job aliases ops) hid,
    Job.fieldText_of_descent aliases field hg h (function?_eq_none_iff.1 hid)]

end Emit

end HeaderBindings
