import HeaderBindings.Proofs.AliasTable.Registrations
import HeaderBindings.Proofs.Bindings.FunctionTypes
import HeaderBindings.Proofs.Bindings.Structs

/-! The names under which function types are declared. No two entries of the table have the same
name, but a name is converted where its line is written, and the conversion may give two names of
the table one name in the file. A name that a field gives has been converted before; so one of two
names that fall together is always that of a typedef. -/

namespace HeaderBindings

open Output

namespace Job

variable {job : Job}

/-- The names of function types as they are written, in the order of their lines. -/
def functionTypeNames (job : Job) : List String :=
  (AliasTable.collect job.header).functions.map fun entry => Name.convert .pascal entry.1

/-- What is written for an entry of the table. -/
theorem linesFrom_functionAlias {n : Naming} {id : TypeId} {s : Signature} (depth : Nat)
    (name : String) (hs : job.types.node id = .function s) :
    linesFrom depth (Script.functionAlias job n name id) =
      [indented depth (job.functionTypeLine n (Name.convert .pascal name) s), ""] := by
  simp only [Script.functionAlias, hs, linesFrom, indented]

/-- Every entry of the table has a signature, that of the function it is registered for. -/
theorem exists_signatures (job : Job) : ∃ signature : TypeId → Signature,
    ∀ entry ∈ (AliasTable.collect job.header).functions,
      job.types.node entry.2 = .function (signature entry.2) := by
  have hfunction (id : TypeId) (h : (job.types.node id).isFunction) :
      ∃ s, job.types.node id = .function s :=
    exists_signature h
  have hnonempty : Nonempty Signature := ⟨⟨0, [], false⟩⟩
  choose! signature hsignature using hfunction
  exact ⟨signature, fun entry hentry =>
    hsignature entry.2 (AliasTable.isFunction_of_mem_functions hentry)⟩

/-- An entry whose name the conversion changes is one of a typedef. -/
theorem typeAlias_of_convert_ne {h : Header} {entry : String × TypeId}
    (hentry : entry ∈ (AliasTable.collect h).functions)
    (hne : Name.convert .pascal entry.1 ≠ entry.1) :
    ∃ decl ∈ h.typeAliases, decl.name = entry.1 := by
  rw [AliasTable.functions_collect] at hentry
  rcases Header.typeAlias_or_field_of_mem_functionNames (mem_of_mem_firsts hentry) with
    htypedef | ⟨decl, -, f, -, hfield⟩
  · exact htypedef
  · rw [hfield] at hne
    exact absurd (Name.convert_fieldAlias f.name) hne

/-- Every entry of the table gets one line, under its converted name. The names of the lines are
distinct exactly if the conversion gives no two names of the table the same name; where it does, one
of the two is a typedef whose name it changes. -/
theorem functionTypeNames_nodup_iff (job : Job) (d : Draft)
    (hd : d.aliases = AliasTable.collect job.header) :
    (∃ signature : TypeId → Signature,
      (∀ entry ∈ d.aliases.functions,
        job.types.node entry.2 = .function (signature entry.2)) ∧
      ((Stage.functionAliases.write job).run d).2.output.lines.toList =
        d.output.lines.toList ++ d.aliases.functions.flatMap fun entry =>
          [indented d.output.indent (job.functionTypeLine (d.naming job)
            (Name.convert .pascal entry.1) (signature entry.2)), ""]) ∧
    (d.aliases.functions.map Prod.fst).Nodup ∧
    (job.functionTypeNames.Nodup ↔
      ∀ first ∈ d.aliases.functions, ∀ second ∈ d.aliases.functions,
        Name.convert .pascal first.1 = Name.convert .pascal second.1 → first.1 = second.1) ∧
    ∀ first ∈ d.aliases.functions, ∀ second ∈ d.aliases.functions, first.1 ≠ second.1 →
      Name.convert .pascal first.1 = Name.convert .pascal second.1 →
      ∃ decl ∈ job.header.typeAliases, (decl.name = first.1 ∨ decl.name = second.1) ∧
        Name.convert .pascal decl.name ≠ decl.name := by
  have hkeys : (d.aliases.functions.map Prod.fst).Nodup := by
    rw [hd]
    exact (AliasTable.sound_start (some job.header)).distinct
  refine ⟨?_, hkeys, ?_, ?_⟩
  · obtain ⟨signature, hsignature⟩ := job.exists_signatures
    rw [← hd] at hsignature
    refine ⟨signature, hsignature, ?_⟩
    have hwrites : Emit.Writes job (Stage.functionAliases.write job) _ _ :=
      Emit.writes_stage .functionAliases
    rw [hwrites.output_eq d, lines_play, Stage.script, linesFrom_flatMap
      fun entry _ => Script.balanced_functionAlias job _ entry.1 entry.2]
    refine congrArg (d.output.lines.toList ++ ·) (List.flatMap_congr fun entry hentry => ?_)
    exact linesFrom_functionAlias _ _ (hsignature entry hentry)
  · have hentries : d.aliases.functions.Nodup := hkeys.of_map _
    rw [functionTypeNames, ← hd, List.nodup_map_iff_inj_on hentries]
    refine forall₄_congr fun first hfirst second hsecond => imp_congr_right fun _ => ?_
    exact ⟨congrArg Prod.fst, fun hname => List.inj_on_of_nodup_map hkeys hfirst hsecond hname⟩
  · intro first hfirst second hsecond hne hsame
    rw [hd] at hfirst hsecond
    by_cases hchanged : Name.convert .pascal first.1 = first.1
    · -- the first name is the written one, so the second is not
      have hsecondNe : Name.convert .pascal second.1 ≠ second.1 := by
        rw [← hsame, hchanged]
        exact hne
      obtain ⟨decl, hdecl, hname⟩ := typeAlias_of_convert_ne hsecond hsecondNe
      exact ⟨decl, hdecl, .inr hname, hname ▸ hsecondNe⟩
    · obtain ⟨decl, hdecl, hname⟩ := typeAlias_of_convert_ne hfirst hchanged
      exact ⟨decl, hdecl, .inl hname, hname ▸ hchanged⟩

/-- Two typedefs of different signatures whose names differ in spelling alone. -/
def namesakes : Job where
  header :=
    { types := ⟨#[.builtin .void, .builtin .int, .function ⟨0, [⟨"event", 1⟩], false⟩,
        .function ⟨1, [], false⟩]⟩
      units := [⟨"events.h", [.typeAlias ⟨"on_event", 2⟩, .typeAlias ⟨"OnEvent", 3⟩]⟩] }
  options := ⟨"demo.dll", "Demo"⟩
  typeMap := .withRules []

def namesakesDraft : Draft :=
  { aliases := AliasTable.collect namesakes.header }

theorem functions_namesakes : (AliasTable.collect namesakes.header).functions =
    [("on_event", 2), ("OnEvent", 3)] := by
  with_unfolding_all decide

theorem functionTypeNames_nodup_iff_namesakes :
    ((Stage.functionAliases.write namesakes).run namesakesDraft).2.output.lines.toList =
      [namesakes.functionTypeLine (namesakesDraft.naming namesakes) "OnEvent"
          ⟨0, [⟨"event", 1⟩], false⟩, "",
        namesakes.functionTypeLine (namesakesDraft.naming namesakes) "OnEvent"
          ⟨1, [], false⟩, ""] ∧
    ¬namesakes.functionTypeNames.Nodup := by
  obtain ⟨⟨signature, hsignature, hlines⟩, -, hnodup, -⟩ :=
    functionTypeNames_nodup_iff namesakes namesakesDraft rfl
  have hentries : namesakesDraft.aliases.functions = [("on_event", 2), ("OnEvent", 3)] :=
    functions_namesakes
  rw [hentries] at hsignature hlines hnodup
  have hfirst : (⟨0, [⟨"event", 1⟩], false⟩ : Signature) = signature 2 :=
    CType.function.inj (hsignature ("on_event", 2) (by simp))
  have hsecond : (⟨1, [], false⟩ : Signature) = signature 3 :=
    CType.function.inj (hsignature ("OnEvent", 3) (by simp))
  have hconvert : Name.convert .pascal "on_event" = "OnEvent" := by decide
  have hsettled : Name.convert .pascal "OnEvent" = "OnEvent" := by decide
  refine ⟨?_, fun h => ?_⟩
  · rw [hlines, hfirst, hsecond]
    simp only [List.flatMap_cons, List.flatMap_nil, hconvert, hsettled]
    simp [namesakesDraft, indented_zero]
  · have hsame := hnodup.1 h ("on_event", 2) (by simp) ("OnEvent", 3) (by simp)
      (hconvert.trans hsettled.symm)
    revert hsame
    decide

/-- The names of the lines are not always distinct. -/
theorem not_forall_functionTypeNames_nodup : ¬∀ job : Job, job.functionTypeNames.Nodup := by
  intro h
  have hnodup := h namesakes
  rw [functionTypeNames, functions_namesakes] at hnodup
  revert hnodup
  decide

end Job

end HeaderBindings
