import HeaderBindings.Proofs.AliasTable.Registrations
import HeaderBindings.Proofs.Bindings.Enums
import HeaderBindings.Proofs.Bindings.Typedefs
import Mathlib.Data.List.Nodup

/-! The names under which a file declares structs, enums and plain types. C keeps the names of tags
apart from those of typedefs; the file does not. Each of the three stages writes a name once, so two
declarations fall together only where a typedef that gets a line has the name of a struct or of an
enum. It gets none where it is written as that name. -/

namespace HeaderBindings

open Output

/-- Names of the enums of a header that have one. -/
def Header.enumNames (h : Header) : List String :=
  (h.enums.map (·.name)).filter (· ≠ "")

/-- Names of the structs and enums that a file declares. -/
def Header.tagNames (h : Header) : List String :=
  h.enumNames ++ h.structNames

namespace Job

/-- Names of all types that a file declares apart from function types, in the order of the lines. -/
def typeNames (job : Job) : List String :=
  job.header.tagNames ++ job.aliasLines.map Prod.fst

variable {job : Job}

theorem block_enums (job : Job) :
    job.block .enums = job.header.enums.flatMap (enumLines Stage.enums.indent) :=
  linesFrom_enums _ job _

theorem block_structs (job : Job) : job.block .structs =
    job.header.writtenStructs.flatMap fun decl =>
      job.structLines job.fileNaming decl.name (job.header.definingStruct decl) := by
  have hbalanced (decl : StructDecl) (_ : decl ∈ job.header.writtenStructs) :
      Balanced (Script.struct job job.fileNaming decl.name (job.header.definingStruct decl)) :=
    Script.balanced_struct job _ decl.name _
  rw [block, Stage.script, linesFrom, linesFrom_flatMap hbalanced]
  simp only [linesFrom_struct]

theorem mem_aliasLines {line : String × String} : line ∈ job.aliasLines ↔
    ∃ id, (line.1, id) ∈ (AliasTable.collect job.header).plain ∧
      job.text job.fileNaming id = line.2 ∧ job.typeMap.knows line.1 = false ∧
      line.2 ≠ line.1 := by
  obtain ⟨name, target⟩ := line
  simp only [aliasLines, List.mem_filter, List.mem_map, Bool.not_eq_true', Bool.or_eq_false_iff,
    beq_eq_false_iff_ne]
  constructor
  · rintro ⟨⟨entry, hentry, heq⟩, hunknown, hne⟩
    cases heq
    exact ⟨entry.2, hentry, rfl, hunknown, hne⟩
  · rintro ⟨id, hentry, rfl, hunknown, hne⟩
    exact ⟨⟨_, hentry, rfl⟩, hunknown, hne⟩

theorem mem_aliasLines_of_entry {name : String} {id : TypeId}
    (hentry : (name, id) ∈ (AliasTable.collect job.header).plain)
    (hunknown : job.typeMap.knows name = false) (hne : job.text job.fileNaming id ≠ name) :
    (name, job.text job.fileNaming id) ∈ job.aliasLines :=
  mem_aliasLines.2 ⟨id, hentry, rfl, hunknown, hne⟩

/-- No plain name gets two lines. -/
theorem nodup_aliasLines (job : Job) : (job.aliasLines.map Prod.fst).Nodup := by
  have hplain : ((AliasTable.collect job.header).plain.map Prod.fst).Nodup :=
    AliasTable.nodup_plain_foldl_add (t := {}) List.nodup_nil job.header.aliases
  have hsublist : (job.aliasLines.map Prod.fst).Sublist
      (((AliasTable.collect job.header).plain.map fun entry =>
        (entry.1, job.text job.fileNaming entry.2)).map Prod.fst) :=
    List.Sublist.map _ List.filter_sublist
  rw [List.map_map] at hsublist
  exact hplain.sublist hsublist

/-- Where the enums have different names and share none with a struct, the tags that are declared
have different names, and so have the typedefs, none of which has its own name as its target. All
these names are different exactly if each typedef with the name of a tag is known to the type table
or written as that name. -/
theorem typeNames_nodup_iff (job : Job) (hspace : job.options.validSpace)
    (hlibrary : job.options.validLibrary) (henums : job.header.enumNames.Nodup)
    (hkinds : ∀ name ∈ job.header.enumNames, name ∉ job.header.structNames) :
    (job.generate.1 = .ok (joined (Stage.all.flatMap job.block)) ∧
      job.block .enums = job.header.enums.flatMap (enumLines 1) ∧
      (job.block .structs = job.header.writtenStructs.flatMap fun decl =>
        job.structLines job.fileNaming decl.name (job.header.definingStruct decl)) ∧
      job.header.writtenStructs.map (·.name) = job.header.structNames ∧
      job.block .typeAliases = job.aliasLines.flatMap fun line =>
        ["public typealias " ++ line.1 ++ " = " ++ line.2 ++ ";", ""]) ∧
    job.header.tagNames.Nodup ∧
    (job.aliasLines.map Prod.fst).Nodup ∧
    (∀ line ∈ job.aliasLines, line.2 ≠ line.1) ∧
    (job.typeNames.Nodup ↔
      ∀ name id, (name, id) ∈ (AliasTable.collect job.header).plain →
        name ∈ job.header.tagNames →
        job.typeMap.knows name ∨ job.text job.fileNaming id = name) := by
  have htags : job.header.tagNames.Nodup := by
    refine List.nodup_append.2 ⟨henums, job.header.nodup_structNames, ?_⟩
    intro name henum other hstruct heq
    exact hkinds name henum (heq ▸ hstruct)
  refine ⟨⟨?_, job.block_enums, job.block_structs, job.header.map_name_writtenStructs,
    job.block_typeAliases⟩, htags, job.nodup_aliasLines, ?_, ?_⟩
  · rw [generate_eq_plainFile, plainFile_of_valid hspace hlibrary]
  · intro line hline
    obtain ⟨id, -, -, -, hne⟩ := mem_aliasLines.1 hline
    exact hne
  · rw [typeNames, List.nodup_append']
    constructor
    · rintro ⟨-, -, hdisjoint⟩ name id hentry htag
      by_contra hwritten
      rw [not_or, Bool.not_eq_true] at hwritten
      have hline := mem_aliasLines_of_entry hentry hwritten.1 hwritten.2
      exact hdisjoint htag (List.mem_map_of_mem hline)
    · intro hshared
      refine ⟨htags, job.nodup_aliasLines, ?_⟩
      intro name htag halias
      obtain ⟨line, hline, rfl⟩ := List.mem_map.1 halias
      obtain ⟨id, hentry, htext, hunknown, hne⟩ := mem_aliasLines.1 hline
      rcases hshared _ id hentry htag with hknown | hsame
      · rw [hunknown] at hknown
        cases hknown
      · exact hne (htext.symm.trans hsame)

/-- A struct and an enum with typedefs of the same names, and a typedef for a pointer. -/
def handles : Job where
  header :=
    { types := ⟨#[.tagged .struct "node", .tagged .enum "mode", .pointer 0 false]⟩
      units :=
        [⟨"node.h", [.struct ⟨"node", .struct, [], false, none⟩, .typeAlias ⟨"node", 0⟩,
          .enum ⟨"mode", [⟨"fast", 1, none⟩], none⟩, .typeAlias ⟨"mode", 1⟩,
          .typeAlias ⟨"handle", 2⟩]⟩] }
  options := ⟨"demo.dll", "Demo"⟩
  typeMap := .withRules []

theorem typeNames_nodup_iff_handles :
    (handles.options.validSpace ∧ handles.options.validLibrary ∧
      handles.header.enumNames.Nodup ∧
      ∀ name ∈ handles.header.enumNames, name ∉ handles.header.structNames) ∧
    handles.typeNames = ["mode", "node", "handle"] ∧ handles.typeNames.Nodup := by
  have hspace : handles.options.validSpace := by decide
  have hlibrary : handles.options.validLibrary := by decide
  have henums : handles.header.enumNames.Nodup := by decide
  have hkinds : ∀ name ∈ handles.header.enumNames, name ∉ handles.header.structNames := by
    decide
  have hlines : handles.aliasLines = [("handle", "node*")] := by with_unfolding_all decide
  obtain ⟨-, -, -, -, hnodup⟩ := typeNames_nodup_iff handles hspace hlibrary henums hkinds
  refine ⟨⟨hspace, hlibrary, henums, hkinds⟩, ?_, hnodup.2 ?_⟩
  · rw [typeNames, hlines]
    decide
  · intro name id hentry htag
    by_contra hwritten
    rw [not_or, Bool.not_eq_true] at hwritten
    have hline := mem_aliasLines_of_entry hentry hwritten.1 hwritten.2
    rw [hlines, List.mem_singleton, Prod.mk.injEq] at hline
    rw [hline.1] at htag
    revert htag
    decide

/-- A struct, and a typedef of its name for a pointer to it. -/
def selfHandle : Job where
  header :=
    { types := ⟨#[.tagged .struct "node", .pointer 0 false]⟩
      units :=
        [⟨"node.h", [.struct ⟨"node", .struct, [], false, none⟩, .typeAlias ⟨"node", 1⟩]⟩] }
  options := ⟨"demo.dll", "Demo"⟩
  typeMap := .withRules []

/-- A typedef with the name of a struct may be declared beside it, and then be its own target but
for the pointers. -/
theorem not_forall_typeNames_nodup :
    (¬∀ job : Job, job.options.validSpace → job.options.validLibrary →
      job.header.enumNames.Nodup →
      (∀ name ∈ job.header.enumNames, name ∉ job.header.structNames) → job.typeNames.Nodup) ∧
    ¬∀ job : Job, job.options.validSpace → job.options.validLibrary →
      job.header.enumNames.Nodup →
      (∀ name ∈ job.header.enumNames, name ∉ job.header.structNames) →
      ∀ line ∈ job.aliasLines, ∀ depth, line.2 ≠ line.1 ++ pointerSuffix depth := by
  have hspace : selfHandle.options.validSpace := by decide
  have hlibrary : selfHandle.options.validLibrary := by decide
  have henums : selfHandle.header.enumNames.Nodup := by decide
  have hkinds : ∀ name ∈ selfHandle.header.enumNames, name ∉ selfHandle.header.structNames := by
    decide
  have hlines : selfHandle.aliasLines = [("node", "node*")] := by with_unfolding_all decide
  constructor
  · intro h
    have hnodup := h selfHandle hspace hlibrary henums hkinds
    rw [typeNames, hlines] at hnodup
    revert hnodup
    decide
  · intro h
    have hline : ("node", "node*") ∈ selfHandle.aliasLines := by simp [hlines]
    exact h selfHandle hspace hlibrary henums hkinds _ hline 1 (by decide)

end Job

end HeaderBindings
