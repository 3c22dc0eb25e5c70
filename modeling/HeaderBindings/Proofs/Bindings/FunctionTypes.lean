import HeaderBindings.Proofs.AliasTable
import HeaderBindings.Proofs.Bindings.Generate
import HeaderBindings.Proofs.Bindings.TypeText
import HeaderBindings.Proofs.Name
import HeaderBindings.Proofs.TypeGraph.Pointers

/-! The names of function types that a file uses, and the lines that declare them. Every entry of
the table has its line; a type that leads to a function is named after an entry for that function,
and a field that holds a callback after an entry for its own name, which may be another's. -/

namespace HeaderBindings

open Output TypeGraph

/-- Array sizes as they stand behind the type of a field, given from the outside in. -/
def dimensions : List Nat → String
  | [] => ""
  | size :: inner => dimensions inner ++ s!"[{size}]"

namespace Header

variable {h : Header} {decl : StructDecl}

theorem definingStruct_eq_or (h : Header) (decl : StructDecl) :
    h.definingStruct decl = decl ∨
      h.definingStruct decl ∈ h.structs ∧ (h.definingStruct decl).kind = decl.kind := by
  unfold definingStruct
  split
  · exact .inl rfl
  · cases hfind : h.structs.find? (·.defines decl) with
    | none => exact .inl rfl
    | some s =>
      have hdefines := List.find?_some hfind
      simp only [StructDecl.defines, Bool.and_eq_true, beq_iff_eq] at hdefines
      exact .inr ⟨List.mem_of_find?_eq_some hfind, hdefines.1.2⟩

/-- The fields that are written for a struct are those of a struct of the header. -/
theorem definingStruct_mem (hdecl : decl ∈ h.writtenStructs) :
    h.definingStruct decl ∈ h.structs ∧ (h.definingStruct decl).kind = .struct := by
  obtain ⟨hmem, hwritten⟩ := List.mem_filter.1 (mem_of_mem_firsts hdecl)
  simp only [Bool.and_eq_true, decide_eq_true_eq] at hwritten
  rcases h.definingStruct_eq_or decl with heq | ⟨hin, hkind⟩
  · rw [heq]; exact ⟨hmem, hwritten.1⟩
  · exact ⟨hin, hkind.trans hwritten.1⟩

end Header

namespace Job

variable {job : Job} {id f : TypeId}

/-- Every name in the table of function types has its line. -/
theorem functionTypeLine_mem_block {name : String} {s : Signature}
    (hentry : (name, id) ∈ (AliasTable.collect job.header).functions)
    (hs : job.types.node id = .function s) :
    job.functionTypeLine job.fileNaming (Name.convert .pascal name) s ∈
      job.block .functionAliases := by
  refine mem_linesFrom_flatMap (fun entry _ => Script.balanced_functionAlias job _ entry.1 entry.2)
    hentry ?_
  simp only [Script.functionAlias, hs, Stage.indent, linesFrom, List.replicate_zero]
  exact List.mem_cons.2 (.inl (String.empty_append).symm)

theorem exists_signature (h : (job.types.node id).isFunction) :
    ∃ s, job.types.node id = .function s := by
  cases hn : job.types.node id with
  | function s => exact ⟨s, rfl⟩
  | _ => rw [hn] at h; cases h

theorem typeName_of_function (aliases : AliasTable) (hf : job.types.function? id = some f) :
    job.typeName aliases id = functionName aliases f := by
  simp only [typeName, hf]

theorem fieldText_of_callback (n : Naming) (field : String) {sizes : List Nat}
    (h : job.types.Callback id sizes) :
    job.fieldText n field id = Name.fieldAlias field ++ dimensions sizes := by
  induction h with
  | pointer h => rw [fieldText_of_direct h, dimensions, String.append_empty]
  | @array id element size sizes hn hlt _ ih =>
    have hdirect : ¬job.types.isDirectFunctionPointer id := by
      rw [isDirectFunctionPointer, pointerDepth, hn]
      simp
    rw [fieldText_of_array hdirect hn hlt, ih, dimensions, String.append_assoc]

/-- The name of a callback field is in the table, for the first type that it was registered for. -/
theorem exists_registered {decl : StructDecl} {field : Field} {sizes : List Nat}
    (hdecl : decl ∈ job.header.writtenStructs)
    (hfield : field ∈ (job.header.definingStruct decl).fields)
    (hc : job.types.Callback field.type sizes) :
    ∃ own used, job.types.function? field.type = some own ∧
      (Name.fieldAlias field.name, own) ∈ job.header.functionNames ∧
      (AliasTable.collect job.header).function? (Name.fieldAlias field.name) = some used := by
  obtain ⟨own, hown⟩ := hc.exists_function
  obtain ⟨hstruct, hkind⟩ := Header.definingStruct_mem hdecl
  have hmem := Header.mem_functionNames_of_field hstruct hkind hfield hown
  obtain ⟨used, hused⟩ := AliasTable.exists_function?_of_mem_functionNames hmem
  exact ⟨own, used, hown, hmem, hused⟩

/-- The name that a callback field is written with stands for the function of the first declaration
that registers it. That is the function of the field itself, or the field registers the name later,
in vain; so the field is written with its own signature unless the name is registered with another
one before. -/
theorem first_registration_types_field (job : Job) {decl : StructDecl} {field : Field}
    {sizes : List Nat} (hdecl : decl ∈ job.header.writtenStructs)
    (hfield : field ∈ (job.header.definingStruct decl).fields)
    (hc : job.types.Callback field.type sizes) :
    (∀ n, job.fieldText n field.name field.type =
      Name.fieldAlias field.name ++ dimensions sizes) ∧
    ∃ own used before after,
      job.types.function? field.type = some own ∧
      (AliasTable.collect job.header).function? (Name.fieldAlias field.name) = some used ∧
      (job.types.node used).isFunction ∧
      job.header.functionNames = before ++ (Name.fieldAlias field.name, used) :: after ∧
      (∀ entry ∈ before, entry.1 ≠ Name.fieldAlias field.name) ∧
      (used = own ∨ (Name.fieldAlias field.name, own) ∈ after) ∧
      ∀ earlier later,
        job.header.functionNames = earlier ++ (Name.fieldAlias field.name, own) :: later →
        (∀ id, (Name.fieldAlias field.name, id) ∈ earlier →
          job.types.node id = job.types.node own) →
        job.types.node used = job.types.node own := by
  obtain ⟨own, used, hown, hmem, hused⟩ := exists_registered hdecl hfield hc
  have hlookup := hused
  rw [AliasTable.function?_collect] at hlookup
  obtain ⟨before, after, hsplit, hbefore⟩ := List.lookup_eq_some_iff.1 hlookup
  have hfirst : ∀ entry ∈ before, entry.1 ≠ Name.fieldAlias field.name :=
    fun entry hentry => (bne_iff_ne.1 (hbefore entry hentry)).symm
  refine ⟨fun n => fieldText_of_callback n field.name hc, own, used, before, after, hown, hused,
    Header.isFunction_of_mem_functionNames (mem_of_lookup hlookup), hsplit, hfirst, ?_,
    fun earlier later hown' hsame => ?_⟩
  · rw [hsplit] at hmem
    rcases List.mem_append.1 hmem with hin | hin
    · exact absurd rfl (hfirst _ hin)
    · rcases List.mem_cons.1 hin with heq | hin
      · exact .inl (Prod.mk.inj heq).2.symm
      · exact .inr hin
  · rw [hown', List.lookup_append, List.lookup_cons_self] at hlookup
    cases hearlier : earlier.lookup (Name.fieldAlias field.name) with
    | none =>
      rw [hearlier] at hlookup
      rw [Option.some.inj hlookup]
    | some first =>
      rw [hearlier] at hlookup
      obtain rfl : first = used := Option.some.inj hlookup
      exact hsame first (mem_of_lookup hearlier)

/-- A struct with a callback. -/
def timerStruct : StructDecl :=
  ⟨"timer", .struct, [⟨"on_event", 5, none⟩], true, none⟩

/-- The struct, and before it a typedef of another signature with the name that its field
registers. -/
def rivals : Job where
  header :=
    { types := ⟨#[.builtin .void, .builtin .int, .function ⟨0, [⟨"event", 1⟩], false⟩,
        .pointer 2 false, .function ⟨1, [], false⟩, .pointer 4 false]⟩
      units := [⟨"rivals.h", [.typeAlias ⟨"OnEventFn", 3⟩, .struct timerStruct]⟩] }
  options := ⟨"demo.dll", "Demo"⟩
  typeMap := .withRules []

theorem first_registration_types_field_rivals :
    (timerStruct ∈ rivals.header.writtenStructs ∧
      ⟨"on_event", 5, none⟩ ∈ (rivals.header.definingStruct timerStruct).fields ∧
      rivals.types.Callback 5 []) ∧
    ∃ own used, rivals.types.function? 5 = some own ∧
      (AliasTable.collect rivals.header).function? "OnEventFn" = some used ∧ used ≠ own := by
  have hdecl : timerStruct ∈ rivals.header.writtenStructs := by decide +kernel
  have hfield : (⟨"on_event", 5, none⟩ : Field) ∈
      (rivals.header.definingStruct timerStruct).fields := by
    decide +kernel
  have hc : rivals.types.Callback 5 [] := .pointer (by decide +kernel)
  obtain ⟨-, own, used, -, -, hown, hused, -⟩ :=
    first_registration_types_field rivals hdecl hfield hc
  have hname : Name.fieldAlias "on_event" = "OnEventFn" := by decide +kernel
  have howner : rivals.types.function? 5 = some 4 := by decide +kernel
  have hfirst : (AliasTable.collect rivals.header).function? "OnEventFn" = some 2 := by
    decide +kernel
  rw [hname] at hused
  obtain rfl : 4 = own := Option.some.inj (howner.symm.trans hown)
  obtain rfl : 2 = used := Option.some.inj (hfirst.symm.trans hused)
  exact ⟨⟨hdecl, hfield, hc⟩, 4, 2, hown, hused, by decide⟩

/-- A field is not always written with its own signature. -/
theorem not_forall_own_signature :
    ¬∀ (job : Job) (decl : StructDecl) (field : Field) (sizes : List Nat),
      decl ∈ job.header.writtenStructs → field ∈ (job.header.definingStruct decl).fields →
      job.types.Callback field.type sizes →
      ∃ own used, job.types.function? field.type = some own ∧
        (AliasTable.collect job.header).function? (Name.fieldAlias field.name) = some used ∧
        job.types.node used = job.types.node own := by
  intro h
  obtain ⟨own, used, hown, hused, hsame⟩ := h rivals timerStruct
    ⟨"on_event", 5, none⟩ [] (by decide +kernel) (by decide +kernel) (.pointer (by decide +kernel))
  have howner : rivals.types.function? 5 = some 4 := by decide +kernel
  have hfirst : (AliasTable.collect rivals.header).function? (Name.fieldAlias "on_event") =
      some 2 := by
    decide +kernel
  obtain rfl : 4 = own := Option.some.inj (howner.symm.trans hown)
  obtain rfl : 2 = used := Option.some.inj (hfirst.symm.trans hused)
  cases hsame

end Job

end HeaderBindings
