import HeaderBindings.Proofs.Bindings.Generate
import HeaderBindings.Proofs.Firsts
import Mathlib.Data.List.Basic

/-! The structs of a file. For each name there is one block, at the place of its first declaration,
and what stands in it is taken from the first definition of the name, wherever that is; a union or
an enum of the same name has no part in it. -/

namespace HeaderBindings

open Output

namespace Header

/-- A declaration of a struct called `name`, and not of a union or an enum. -/
def isStructNamed (name : String) (s : StructDecl) : Bool :=
  s.kind == .struct && s.name == name

/-- Names of the structs of a header, in the order of their first declarations. -/
def structNames (h : Header) : List String :=
  ((h.structs.filter fun s => s.kind = .struct && !s.name.isEmpty).map (·.name)).eraseDups

/-- The first definition of a struct, or its first declaration where there is none. -/
def structOf? (h : Header) (name : String) : Option StructDecl :=
  (h.structs.find? fun s => s.isDefinition && isStructNamed name s).or
    (h.structs.find? (isStructNamed name))

variable {h : Header} {decl : StructDecl} {name : String}

theorem map_name_writtenStructs (h : Header) : h.writtenStructs.map (·.name) = h.structNames :=
  map_firsts _ _

theorem nodup_structNames (h : Header) : h.structNames.Nodup := by
  rw [← map_name_writtenStructs]
  exact nodup_map_firstsBeyond _ _ _

theorem isStructNamed_iff {s : StructDecl} :
    isStructNamed name s ↔ s.kind = .struct ∧ s.name = name := by
  rw [isStructNamed, Bool.and_eq_true, beq_iff_eq, beq_iff_eq]

theorem mem_structNames :
    name ∈ h.structNames ↔ name ≠ "" ∧ ∃ s ∈ h.structs, s.kind = .struct ∧ s.name = name := by
  simp only [structNames, List.mem_eraseDups, List.mem_map, List.mem_filter, Bool.and_eq_true,
    decide_eq_true_eq, Bool.not_eq_true', String.isEmpty_eq_false_iff]
  constructor
  · rintro ⟨s, ⟨hs, hkind, hne⟩, rfl⟩
    exact ⟨hne, s, hs, hkind, rfl⟩
  · rintro ⟨hne, s, hs, hkind, rfl⟩
    exact ⟨s, ⟨hs, hkind, hne⟩, rfl⟩

/-- What `structOf?` finds is a struct of that name. -/
theorem structOf?_some (hof : h.structOf? name = some decl) :
    decl ∈ h.structs ∧ decl.kind = .struct ∧ decl.name = name := by
  rcases Option.or_eq_some_iff.1 hof with hfind | ⟨-, hfind⟩
  · have hdecl := List.find?_some hfind
    rw [Bool.and_eq_true] at hdecl
    exact ⟨List.mem_of_find?_eq_some hfind, isStructNamed_iff.1 hdecl.2⟩
  · exact ⟨List.mem_of_find?_eq_some hfind, isStructNamed_iff.1 (List.find?_some hfind)⟩

theorem find?_of_mem_writtenStructs (hdecl : decl ∈ h.writtenStructs) :
    h.structs.find? (isStructNamed decl.name) = some decl := by
  have hwritten := (List.mem_filter.1 (mem_of_mem_firsts hdecl)).2
  have hfind := find?_of_mem_firsts hdecl
  rw [List.find?_filter] at hfind
  rw [← hfind]
  refine congrArg (fun p => h.structs.find? p) (funext fun s => ?_)
  simp only [Bool.and_eq_true, decide_eq_true_eq] at hwritten
  rw [Bool.eq_iff_iff, isStructNamed_iff]
  simp only [Bool.and_eq_true, decide_eq_true_eq, beq_iff_eq]
  refine ⟨fun ⟨hkind, hname⟩ => ⟨⟨hkind, ?_⟩, hname⟩, fun ⟨⟨hkind, _⟩, hname⟩ => ⟨hkind, hname⟩⟩
  rw [hname]
  exact hwritten.2

/-- A written struct has the fields of the first definition, which may be a later one. -/
theorem structOf?_of_mem_writtenStructs (hdecl : decl ∈ h.writtenStructs) :
    h.structOf? decl.name = some (h.definingStruct decl) := by
  have hfind := find?_of_mem_writtenStructs hdecl
  unfold structOf? definingStruct
  split
  · next hdefinition =>
    -- nothing before the first declaration defines the struct
    obtain ⟨hnamed, before, after, hstructs, hbefore⟩ := List.find?_eq_some_iff_append.1 hfind
    rw [List.find?_eq_some_iff_append.2 ⟨by rw [hdefinition, hnamed]; rfl, before, after, hstructs,
      fun s hs => by simpa using .inr (by simpa using hbefore s hs)⟩]
    rfl
  · have hkind : decl.kind = .struct := (isStructNamed_iff.1 (List.find?_some hfind)).1
    rw [hfind, Option.or_some]
    simp only [StructDecl.defines, hkind, isStructNamed, Bool.and_assoc]

end Header

namespace Job

variable (job : Job) (n : Naming)

def indented (depth : Nat) (text : String) : String :=
  String.ofList (List.replicate depth '\t') ++ text

def commentLines (depth : Nat) (text : Option String) : List String :=
  (Text.lines (text.getD "").toList).map fun l => indented depth (String.ofList (Text.trim l))

def fieldLines (f : Field) : List String :=
  commentLines 1 f.comment ++
    [indented 1 ("public " ++ job.fieldText n f.name f.type ++ " " ++
      Name.convert .pascal f.name ++ ";"), ""]

def constructorLines (fields : List FieldText) : List String :=
  [indented 1 ("public this(" ++
      String.intercalate ", " (fields.map fun f => f.type ++ " " ++ f.parameter) ++ ")"),
    indented 1 "\x7b"] ++
  ((assignedFields fields).map fun f => "this." ++ f.name ++ " = " ++ f.parameter ++ ";").map
    (indented 2) ++
  [indented 1 "\x7d"]

/-- The lines of a struct called `name` with the comment and the fields of `decl`. -/
def structLines (name : String) (decl : StructDecl) : List String :=
  commentLines 0 decl.comment ++ ["[CRepr]", "public struct " ++ name, "\x7b"] ++
  decl.fields.flatMap (job.fieldLines n) ++
  (if decl.fields = [] then [] else constructorLines (decl.fields.map (job.fieldParts n))) ++
  ["\x7d", ""]

theorem indented_zero (text : String) : indented 0 text = text :=
  String.empty_append

theorem linesFrom_lines (depth : Nat) (texts : List String) :
    linesFrom depth (texts.map .line) = texts.map (indented depth) := by
  induction texts with
  | nil => rfl
  | cons text rest ih =>
    rw [List.map_cons, List.map_cons, linesFrom, ih]
    rfl

theorem linesFrom_comment (depth : Nat) (text : Option String) :
    linesFrom depth (Script.comment text) = commentLines depth text := by
  rw [Script.comment, linesFrom_lines, List.map_map]
  rfl

/-- The lines of a constructor at an indentation. -/
def constructorLinesAt (depth : Nat) (parameters assignments : List String) : List String :=
  [indented depth ("public this(" ++ String.intercalate ", " parameters ++ ")"),
    indented depth "\x7b"] ++
  assignments.map (indented (depth + 1)) ++
  [indented depth "\x7d"]

/-- The lines of a struct called `name` at an indentation, given the texts of its fields and the
fields that the constructor sets. -/
def structLinesAt (depth : Nat) (name : String) (decl : StructDecl)
    (type written parameter : Field → String) (assigned : List Field) : List String :=
  commentLines depth decl.comment ++
  [indented depth "[CRepr]", indented depth ("public struct " ++ name), indented depth "\x7b"] ++
  decl.fields.flatMap (fun f => commentLines (depth + 1) f.comment ++
    [indented (depth + 1) ("public " ++ type f ++ " " ++ written f ++ ";"), ""]) ++
  (if decl.fields = [] then []
  else constructorLinesAt (depth + 1)
    (decl.fields.map fun f => type f ++ " " ++ parameter f)
    (assigned.map fun f => "this." ++ written f ++ " = " ++ parameter f ++ ";")) ++
  [indented depth "\x7d", ""]

theorem linesFrom_field (depth : Nat) (f : Field) :
    linesFrom depth (Script.field job n f) = commentLines depth f.comment ++
      [indented depth ("public " ++ job.fieldText n f.name f.type ++ " " ++
        Name.convert .pascal f.name ++ ";"), ""] := by
  rw [Script.field, linesFrom_append, linesFrom_comment, Script.balanced_comment _ depth]
  rfl

theorem linesFrom_constructor (depth : Nat) (fields : List FieldText) :
    linesFrom depth (Script.constructor fields) =
      constructorLinesAt depth (fields.map fun f => f.type ++ " " ++ f.parameter)
        ((assignedFields fields).map fun f => "this." ++ f.name ++ " = " ++ f.parameter ++ ";") := by
  rw [Script.constructor, linesFrom_append, linesFrom_append]
  simp only [indentAfter_append, indentAfter, balanced_lines _ _, linesFrom_lines]
  rfl

/-- The constructor sets, of the fields with the same name, the first one. -/
theorem linesFrom_structAt (depth : Nat) (name : String) (decl : StructDecl) :
    linesFrom depth (Script.struct job n name decl) =
      structLinesAt depth name decl (fun f => job.fieldText n f.name f.type)
        (fun f => Name.convert .pascal f.name) (fun f => Name.parameter f.name)
        (firsts (fun f => Name.convert .pascal f.name) decl.fields) := by
  have hfields : linesFrom (depth + 1) (decl.fields.flatMap (Script.field job n)) =
      decl.fields.flatMap fun f => commentLines (depth + 1) f.comment ++
        [indented (depth + 1) ("public " ++ job.fieldText n f.name f.type ++ " " ++
          Name.convert .pascal f.name ++ ";"), ""] := by
    rw [linesFrom_flatMap fun f _ => Script.balanced_field job n f]
    simp only [linesFrom_field]
  have hbalanced : Balanced (decl.fields.flatMap (Script.field job n)) :=
    .flatMap _ fun f _ => Script.balanced_field job n f
  have hconstructor : linesFrom (depth + 1)
      (if decl.fields.isEmpty then []
        else Script.constructor (decl.fields.map (job.fieldParts n))) =
      if decl.fields = [] then []
      else constructorLinesAt (depth + 1)
        (decl.fields.map fun f => job.fieldText n f.name f.type ++ " " ++ Name.parameter f.name)
        ((firsts (fun f => Name.convert .pascal f.name) decl.fields).map fun f =>
          "this." ++ Name.convert .pascal f.name ++ " = " ++ Name.parameter f.name ++ ";") := by
    simp only [List.isEmpty_iff]
    split
    · rfl
    · rw [linesFrom_constructor, assignedFields, firsts_map, List.map_map, List.map_map]
      rfl
  have hclose : indentAfter (depth + 1)
      (if decl.fields.isEmpty then []
        else Script.constructor (decl.fields.map (job.fieldParts n))) = depth + 1 := by
    split
    · rfl
    · exact Script.balanced_constructor _ (depth + 1)
  have hopen : linesFrom depth
      [.line "[CRepr]", .line ("public struct " ++ name), .line "\x7b", .deeper] =
      [indented depth "[CRepr]", indented depth ("public struct " ++ name),
        indented depth "\x7b"] := rfl
  have htail : linesFrom (depth + 1) [.shallower, .line "\x7d", .blank] =
      [indented depth "\x7d", ""] := rfl
  simp only [Script.struct, linesFrom_append, indentAfter_append, indentAfter,
    Script.balanced_comment _ depth, hbalanced (depth + 1), hclose, linesFrom_comment, hopen,
    hfields, hconstructor, htail, structLinesAt]

theorem linesFrom_struct (name : String) (decl : StructDecl) :
    linesFrom 0 (Script.struct job n name decl) = job.structLines n name decl := by
  rw [linesFrom_structAt, structLinesAt, structLines, constructorLines, constructorLinesAt,
    assignedFields, firsts_map]
  simp only [indented_zero, List.map_map]
  rfl

end Job

namespace Emit

/-- For each name of a struct there is one block, with what the first definition of the struct says.
The blocks stand in the order in which the names come up, and at the left margin. -/
theorem structs_written_once (job : Job) (d : Draft) :
    job.header.structNames.Nodup ∧
    (∀ name, name ∈ job.header.structNames ↔
      name ≠ "" ∧ ∃ s ∈ job.header.structs, s.kind = .struct ∧ s.name = name) ∧
    (∀ name ∈ job.header.structNames, ∃ decl ∈ job.header.structs,
      job.header.structOf? name = some decl ∧ decl.kind = .struct ∧ decl.name = name) ∧
    (∀ n name decl, decl.fields = [] → job.structLines n name decl =
      Job.commentLines 0 decl.comment ++
        ["[CRepr]", "public struct " ++ name, "\x7b", "\x7d", ""]) ∧
    ((Stage.structs.write job).run d).2.output.lines.toList =
      d.output.lines.toList ++ job.header.structNames.flatMap (fun name =>
        ((job.header.structOf? name).map (job.structLines (d.naming job) name)).getD []) ∧
    ((Stage.structs.write job).run d).2.output.indent = 0 := by
  have hwrites : Writes job (Stage.structs.write job) _ _ := writes_stage .structs
  have houtput := hwrites.output_eq d
  have hbalanced (decl : StructDecl) (_ : decl ∈ job.header.writtenStructs) :
      Balanced (Script.struct job (d.naming job) decl.name (job.header.definingStruct decl)) :=
    Script.balanced_struct job _ decl.name _
  refine ⟨job.header.nodup_structNames, fun name => Header.mem_structNames, fun name hname => ?_,
    fun n name decl hfields => ?_, ?_, ?_⟩
  · rw [← Header.map_name_writtenStructs] at hname
    obtain ⟨decl, hdecl, rfl⟩ := List.mem_map.1 hname
    have hof := Header.structOf?_of_mem_writtenStructs hdecl
    exact ⟨_, (Header.structOf?_some hof).1, hof, (Header.structOf?_some hof).2⟩
  · simp [Job.structLines, hfields]
  · have hblock (decl : StructDecl) (hdecl : decl ∈ job.header.writtenStructs) :
        linesFrom 0
            (Script.struct job (d.naming job) decl.name (job.header.definingStruct decl)) =
          ((job.header.structOf? decl.name).map
            (job.structLines (d.naming job) decl.name)).getD [] := by
      rw [Job.linesFrom_struct, Header.structOf?_of_mem_writtenStructs hdecl]
      rfl
    rw [houtput, lines_play, Stage.script, linesFrom, linesFrom_flatMap hbalanced,
      List.flatMap_congr hblock, ← Header.map_name_writtenStructs, List.flatMap_map]
  · rw [houtput, indent_play, Stage.script, indentAfter]
    exact Balanced.flatMap _ hbalanced 0

/-- Two structs that are announced in one file; one of them is defined in another file, twice, and
has its name in common with a union. -/
def scattered : Job where
  header :=
    { types := ⟨#[.builtin .int, .builtin .float]⟩
      units :=
        [⟨"list.h", [.struct ⟨"node", .struct, [], false, none⟩,
            .struct ⟨"node", .union, [⟨"tag", 1, none⟩], true, none⟩,
            .struct ⟨"peer", .struct, [], false, some "opaque"⟩]⟩,
          ⟨"node.h", [.struct ⟨"node", .struct, [⟨"next", 0, none⟩], true, none⟩,
            .struct ⟨"node", .struct, [⟨"other", 1, none⟩], true, none⟩]⟩] }
  options := ⟨"demo.dll", "Demo"⟩
  typeMap := .withRules []

theorem structs_written_once_scattered :
    ((Stage.structs.write scattered).run { output := ⟨#["using System;"], 1⟩ }).2.output =
      ⟨#["using System;", "[CRepr]", "public struct node", "\x7b", "\tpublic int32 Next;", "",
        "\tpublic this(int32 next)", "\t\x7b", "\t\tthis.Next = next;", "\t\x7d", "\x7d", "",
        "opaque", "[CRepr]", "public struct peer", "\x7b", "\x7d", ""], 0⟩ := by
  obtain ⟨-, -, -, -, hlines, hindent⟩ :=
    structs_written_once scattered { output := ⟨#["using System;"], 1⟩ }
  have houtput (out : Output) {lines : Array String} (hlines : out.lines.toList = lines.toList)
      (hindent : out.indent = 0) : out = ⟨lines, 0⟩ := by
    obtain ⟨_, _⟩ := out
    rw [Output.mk.injEq]
    exact ⟨Array.toList_inj.1 hlines, hindent⟩
  exact houtput _ (hlines.trans (by decide +kernel)) hindent

end Emit

end HeaderBindings
