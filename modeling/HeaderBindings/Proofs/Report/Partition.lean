import HeaderBindings.Proofs.Report.Found
import HeaderBindings.Proofs.Report.Units

/-! The units of a header as a partition of what is declared in it. Whatever the walk through the
report goes down into, it only adds declarations at the end, each with the file of its entity, and
the units are made of the whole sequence. So a declaration may stand far from the record in which it
is nested, in the unit of another file, and still no unit has anything out of order. -/

namespace HeaderBindings

namespace TagNames

variable {names : TagNames} {bound : String → Bool} {b e : Entity}

/-- What an entity declares if nothing declared before stands in its way. -/
def candidates (names : TagNames) (e : Entity) : List Entity :=
  if e.info.kind.isTag then names.declaredIn e else [e]

theorem declaredBy_sublist (names : TagNames) (bound : String → Bool) (seen : List String)
    (e : Entity) : (names.declaredBy bound seen e).Sublist (names.candidates e) := by
  by_cases htag : e.info.kind.isTag
  · rw [candidates, if_pos htag, declaredBy_of_isTag htag]
  · rw [candidates, if_neg htag]
    unfold declaredBy
    split
    · split
      · exact List.nil_sublist [e]
      · exact List.Sublist.refl [e]
    · split
      · exact List.Sublist.refl [e]
      · exact List.nil_sublist [e]
    · have hnone : names.declaredIn e = [] := by
        refine List.eq_nil_iff_forall_not_mem.2 fun d hd => ?_
        exact htag (names.mem_declaredIn.1 hd).isTag.1
      rw [hnone]
      exact List.nil_sublist [e]

theorem declaredAlong_sublist (es : List Entity) (seen : List String) :
    (names.declaredAlong bound seen es).Sublist (es.flatMap names.candidates) := by
  induction es generalizing seen with
  | nil => exact List.Sublist.refl []
  | cons e rest ih =>
    rw [declaredAlong, List.flatMap_cons]
    exact (names.declaredBy_sublist bound seen e).append (ih _)

/-- What is declared inside a record stands together in what the record declares. -/
theorem Lifts.infix_declaredIn (h : names.Lifts b e) :
    names.declaredIn e <:+: names.declaredIn b := by
  induction h with
  | enum _ _ => exact List.infix_refl _
  | record _ _ => exact List.infix_refl _
  | @inside b c e kind name hkind hname hdefinition hmem _ ih =>
    have hchild : names.declaredIn c <:+: names.declaredInAll b.children := by
      rw [declaredInAll_eq_flatMap]
      exact List.infix_flatMap_of_mem hmem _
    rw [names.declaredIn_of_named hkind hname, if_pos hdefinition]
    exact ih.trans (hchild.trans (List.prefix_append _ [b]).isInfix)

theorem exists_infix_declaredBy {es : List Entity} {seen : List String}
    (he : e ∈ names.declaredAlong bound seen es) :
    ∃ b seen', e ∈ names.declaredBy bound seen' b ∧
      names.declaredBy bound seen' b <:+: names.declaredAlong bound seen es := by
  induction es generalizing seen with
  | nil => cases he
  | cons b rest ih =>
    rw [declaredAlong] at he ⊢
    rcases List.mem_append.1 he with he | he
    · exact ⟨b, seen, he, (List.prefix_append _ _).isInfix⟩
    · obtain ⟨c, seen', hc, hwithin⟩ := ih he
      exact ⟨c, seen', hc, hwithin.trans (List.suffix_append _ _).isInfix⟩

theorem infix_declaredAlong {es : List Entity} {seen : List String}
    (he : e ∈ names.declaredAlong bound seen es) (htag : e.info.kind.isTag) :
    names.declaredIn e <:+: names.declaredAlong bound seen es := by
  obtain ⟨b, seen', hb, hwithin⟩ := exists_infix_declaredBy he
  have hbtag : b.info.kind.isTag := by
    rcases eq_or_lifts_of_mem_declaredBy hb with rfl | hlifts
    · exact htag
    · exact hlifts.isTag.1
  rw [declaredBy_of_isTag hbtag] at hb hwithin
  exact (Lifts.infix_declaredIn (names.mem_declaredIn.1 hb)).trans hwithin

end TagNames

namespace SourceUnit

variable {found : List (String × Declaration)} {u : SourceUnit} {entry : String × Declaration}

theorem map_file_group (found : List (String × Declaration)) :
    (group found).map SourceUnit.file = (found.map Prod.fst).eraseDups := by
  rw [group_eq, List.map_map]
  exact List.map_id _

theorem eq_ofFile_of_mem_group (h : u ∈ group found) : u = ofFile found u.file := by
  rw [group_eq] at h
  obtain ⟨file, -, rfl⟩ := List.mem_map.1 h
  rfl

theorem exists_unit (h : entry ∈ found) :
    ∃ u ∈ group found, u.file = entry.1 ∧ entry.2 ∈ u.declarations := by
  have hfile : entry.1 ∈ (found.map Prod.fst).eraseDups :=
    List.mem_eraseDups.2 (List.mem_map_of_mem h)
  refine ⟨ofFile found entry.1, ?_, rfl, ?_⟩
  · rw [group_eq]
    exact List.mem_map_of_mem hfile
  · exact List.mem_map_of_mem (List.mem_filter.2 ⟨h, decide_eq_true rfl⟩)

/-- A unit is made for a declaration. -/
theorem declarations_ne_nil (h : u ∈ group found) : u.declarations ≠ [] := by
  have hfile : u.file ∈ (found.map Prod.fst).eraseDups :=
    map_file_group found ▸ List.mem_map_of_mem h
  obtain ⟨entry, hentry, heq⟩ := List.mem_map.1 (List.mem_eraseDups.1 hfile)
  rw [eq_ofFile_of_mem_group h]
  exact List.ne_nil_of_mem
    (List.mem_map_of_mem (List.mem_filter.2 ⟨hentry, decide_eq_true heq⟩))

end SourceUnit

namespace Report

/-- The units of a header are the declarations of the report, sorted by their files and left in
their order. The declarations follow the tree: blocks are opened, a record comes right after what is
declared inside it, and what stands in no file is in the unit without a name. -/
theorem units_partition (report : Report) (skip : Bool) :
    let s := report.reading skip
    let found := s.declarations.toList
    let files := found.map Prod.fst
    let units := s.header.units
    (List.Forall₂ (report.Places report.tagNames s.types) (report.declared skip) found ∧
      (report.declared skip).Sublist
        ((report.visited skip).flatMap report.tagNames.candidates) ∧
      ∀ e ∈ report.declared skip, e.info.kind.isTag →
        report.tagNames.declaredIn e <:+: report.declared skip) ∧
    (units.map SourceUnit.file).Nodup ∧
    (∀ u ∈ units, u.declarations ≠ []) ∧
    (units.map SourceUnit.file).Pairwise (fun f g => files.idxOf f < files.idxOf g) ∧
    (∀ u ∈ units, u.declarations =
      (found.filter fun entry => entry.1 = u.file).map Prod.snd) ∧
    (∀ entry ∈ found, ∃ u ∈ units, u.file = entry.1 ∧ entry.2 ∈ u.declarations) ∧
    (units.flatMap SourceUnit.declarations).Perm (found.map Prod.snd) := by
  intro s found files units
  have hunits : units.map SourceUnit.file = files.eraseDups := SourceUnit.map_file_group found
  refine ⟨⟨report.forall₂_places skip, TagNames.declaredAlong_sublist _ _,
    fun e he htag => TagNames.infix_declaredAlong he htag⟩, ?_, ?_, ?_, ?_, ?_, ?_⟩
  · rw [hunits]
    exact SourceUnit.nodup_files found
  · exact fun u hu => SourceUnit.declarations_ne_nil hu
  · rw [hunits]
    exact pairwise_idxOf_eraseDups files
  · exact fun u hu => congrArg SourceUnit.declarations (SourceUnit.eq_ofFile_of_mem_group hu)
  · exact fun entry hentry => SourceUnit.exists_unit hentry
  · exact SourceUnit.group_perm found

/-- A struct with an enum inside that stands in another file, and a function that stands in none. -/
def included : Report where
  root :=
    let fast : Entity := .mk { kind := .enumConstantDecl, name := some "fast" } [] []
    let mode : EntityInfo :=
      { kind := .enumDecl, name := some "mode", location := some ⟨"mode.h", 1, 6⟩,
        isDefinition := true }
    let engine : EntityInfo :=
      { kind := .structDecl, name := some "engine", location := some ⟨"engine.h", 1, 8⟩,
        isDefinition := true }
    let start : Entity := .mk { kind := .functionDecl, name := some "start" } [] []
    .mk { kind := .translationUnit }
      [start, .mk { kind := .linkageSpec } [.mk engine [.mk mode [fast] []] []] []] []
  declarations := #[]

-- The enum comes before the struct, and so does its file.
example : (included.reading true).header.units =
    [⟨"", [.function ⟨"start", 0, [], false, false, false, none⟩]⟩,
      ⟨"mode.h", [.enum ⟨"mode", [⟨"fast", 0, none⟩], none⟩]⟩,
      ⟨"engine.h", [.struct ⟨"engine", .struct, [], true, none⟩]⟩] := by
  decide +kernel

end Report

end HeaderBindings
