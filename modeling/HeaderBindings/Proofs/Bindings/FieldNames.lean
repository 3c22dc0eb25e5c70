import HeaderBindings.Proofs.Bindings.Constructor
import HeaderBindings.Proofs.Name.Identifiers

/-! The names of the fields of a struct, where C tells them apart. The conversion may give two
fields one name; where it does not, their names in camel case are distinct too, so that parameters
fall together only where one of those names is replaced because it is reserved. The body sets each
name once, and each field from its own parameter where no two have one name. -/

namespace HeaderBindings.Emit

open Job Output

section Names

variable {fields : List Field}

/-- Names that are distinct in Pascal case are distinct in camel case. -/
theorem nodup_camel (h : (fields.map fun f => Name.convert .pascal f.name).Nodup) :
    (fields.map fun f => Name.convert .camel f.name).Nodup := by
  refine List.Nodup.of_map (Name.convert .pascal) ?_
  rw [List.map_map]
  simpa only [Function.comp_def, Name.convert_convert_camel] using h

/-- Parameters are distinct as long as none is replaced with the name of another. -/
theorem nodup_parameter (hfields : fields.Nodup)
    (hids : ∀ f ∈ fields, Name.isIdentifier f.name)
    (hcamel : (fields.map fun f => Name.convert .camel f.name).Nodup)
    (h : ∀ f ∈ fields, ∀ g ∈ fields,
      Name.parameter f.name = Name.convert .camel g.name → f = g) :
    (fields.map fun f => Name.parameter f.name).Nodup := by
  refine (List.nodup_map_iff_inj_on hfields).2 fun f hf g hg heq => ?_
  have hinj := List.inj_on_of_nodup_map hcamel hf hg
  rcases Name.legalParameter_eq_cases heq with hsame | hfirst | hsecond | ⟨hblank, hblank'⟩
  · exact hinj hsame
  · exact h f hf g hg hfirst
  · exact (h g hg f hf hsecond.symm).symm
  · have hempty := Name.eq_empty_of_isBlank (Name.all_isAlphanum_convert (hids f hf) _) hblank
    have hempty' := Name.eq_empty_of_isBlank (Name.all_isAlphanum_convert (hids g hg) _) hblank'
    exact hinj (hempty.trans hempty'.symm)

end Names

/-- A struct whose fields have distinct names in C. The written names are distinct unless the
conversion gives two fields one name, and in any case each of them is set exactly once. Where they
are distinct, each field is set from its own parameter, and the parameters are distinct too unless
one of them is replaced with the name of another. -/
theorem distinct_fields_assigned (job : Job) (d : Draft) (name : String) (decl : StructDecl)
    (hnames : (decl.fields.map (·.name)).Nodup)
    (hids : ∀ f ∈ decl.fields, Name.isIdentifier f.name) :
    let type (f : Field) := ((fieldTypeText job f.name f.type).run d).1
    let written (f : Field) := Name.convert .pascal f.name
    let camel (f : Field) := Name.convert .camel f.name
    let parameter (f : Field) := Name.legalParameter (camel f)
    let assigned := firsts written decl.fields
    ((structBody job name decl).run d).2.output.lines.toList = d.output.lines.toList ++
      structLinesAt d.output.indent name decl type written parameter assigned ∧
    (assigned.map written).Nodup ∧
    (∀ f ∈ decl.fields, ∃ g ∈ assigned, decl.fields.find? (written · == written f) = some g) ∧
    ((decl.fields.map written).Nodup ↔
      ∀ f ∈ decl.fields, ∀ g ∈ decl.fields, written f = written g → f = g) ∧
    ((decl.fields.map written).Nodup →
      assigned = decl.fields ∧ (decl.fields.map camel).Nodup ∧
      ((∀ f ∈ decl.fields, ∀ g ∈ decl.fields, parameter f = camel g → f = g) →
        (decl.fields.map parameter).Nodup)) := by
  intro type written camel parameter assigned
  have hfields : decl.fields.Nodup := hnames.of_map _
  refine ⟨lines_structBody job d name decl, nodup_map_firstsBeyond _ _ _, fun f hf => ?_,
    List.nodup_map_iff_inj_on hfields, fun hdistinct => ?_⟩
  · have hmem : written f ∈ assigned.map written := by
      rw [map_firsts, List.mem_eraseDups]
      exact List.mem_map_of_mem hf
    obtain ⟨g, hg, heq⟩ := List.mem_map.1 hmem
    exact ⟨g, hg, heq ▸ find?_of_mem_firsts hg⟩
  · have hcamel := nodup_camel hdistinct
    exact ⟨firsts_eq_self hdistinct, hcamel, nodup_parameter hfields hids hcamel⟩

/-- A field with a reserved name, between two whose underscores are dropped. -/
def buffer : StructDecl where
  name := "buffer"
  kind := .struct
  fields := [⟨"max_size", 0, none⟩, ⟨"this", 0, none⟩, ⟨"_next", 0, none⟩]
  isDefinition := true

def buffers : Job where
  header := { types := ⟨#[.builtin .int]⟩, units := [⟨"buffer.h", [.struct buffer]⟩] }
  options := ⟨"demo.dll", "Demo"⟩
  typeMap := .withRules []

theorem distinct_fields_assigned_buffer :
    ((structBody buffers "buffer" buffer).run {}).2.output.lines.toList =
      ["[CRepr]", "public struct buffer", "\x7b", "\tpublic int32 MaxSize;", "",
        "\tpublic int32 This;", "", "\tpublic int32 Next;", "",
        "\tpublic this(int32 maxSize, int32 allocator, int32 Next)", "\t\x7b",
        "\t\tthis.MaxSize = maxSize;", "\t\tthis.This = allocator;", "\t\tthis.Next = Next;",
        "\t\x7d", "\x7d", ""] ∧
    (buffer.fields.map fun f => Name.parameter f.name).Nodup := by
  obtain ⟨hlines, -, -, -, hdistinct⟩ :=
    distinct_fields_assigned buffers {} "buffer" buffer (by decide) (by decide)
  obtain ⟨-, -, hparameters⟩ := hdistinct (by decide +kernel)
  exact ⟨hlines.trans (by decide +kernel), hparameters (by decide +kernel)⟩

/-- Two fields that the conversion gives one name. -/
def sizes : StructDecl where
  name := "sizes"
  kind := .struct
  fields := [⟨"max_size", 0, none⟩, ⟨"maxSize", 0, none⟩]
  isDefinition := true

/-- Not all fields with distinct names are written with distinct names and set from their own
parameters. -/
theorem not_forall_fields_distinct :
    ¬∀ (job : Job) (d : Draft) (decl : StructDecl), (decl.fields.map (·.name)).Nodup →
      (∀ f ∈ decl.fields, Name.isIdentifier f.name) →
      (decl.fields.map fun f => Name.convert .pascal f.name).Nodup ∧
      (decl.fields.map fun f => Name.parameter f.name).Nodup ∧
      ((structBody job decl.name decl).run d).2.output.lines.toList = d.output.lines.toList ++
        structLinesAt d.output.indent decl.name decl
          (fun f => ((fieldTypeText job f.name f.type).run d).1)
          (fun f => Name.convert .pascal f.name) (fun f => Name.parameter f.name) decl.fields := by
  intro h
  obtain ⟨hwritten, -, -⟩ := h buffers {} sizes (by decide) (by decide)
  revert hwritten
  decide +kernel

end HeaderBindings.Emit
