import HeaderBindings.Proofs.Bindings.FunctionTypes
import HeaderBindings.Proofs.Bindings.Options
import HeaderBindings.Proofs.Output.Nesting
import HeaderBindings.Proofs.Text.Digits
import HeaderBindings.Proofs.TypeMap

/-! Where the braces and line feeds of a file can come from. A header whose names and comments have
none, with options and a type table that have none, puts none into the text of a type, a name or a
line. Names are converted, replaced, numbered and put together on the way, and each of these steps
adds letters and signs of its own; no letter turns into a brace. -/

namespace HeaderBindings

open Output Text

/-- The names that a layer of a type holds. -/
def CType.names : CType → List String
  | .typedef name _ | .tagged _ name => [name]
  | .function s => s.parameters.map (·.name)
  | .builtin _ | .pointer _ _ | .array _ _ | .unresolved _ => []

namespace Declaration

/-- The names that a declaration holds. -/
def names : Declaration → List String
  | .enum decl => decl.name :: decl.items.map (·.name)
  | .struct decl => decl.name :: decl.fields.map (·.name)
  | .typeAlias decl => [decl.name]
  | .function decl => decl.name :: decl.parameters.map (·.name)

/-- The comments at a declaration and in it. -/
def comments : Declaration → List String
  | .enum decl => decl.comment.toList ++ decl.items.filterMap (·.comment)
  | .struct decl => decl.comment.toList ++ decl.fields.filterMap (·.comment)
  | .typeAlias _ => []
  | .function decl => decl.comment.toList

end Declaration

/-- A text without braces. -/
def BraceFree (text : String) : Prop :=
  '\x7b' ∉ text.toList ∧ '\x7d' ∉ text.toList

instance (text : String) : Decidable (BraceFree text) :=
  inferInstanceAs (Decidable (_ ∧ _))

/-- No name, comment, library name or replacement has a brace in it, and but for the comments none
has a line feed. -/
structure Job.Plain (job : Job) : Prop where
  names : ∀ d ∈ job.header.declarations, ∀ name ∈ d.names, Inert name
  typeNames : ∀ type ∈ job.types.nodes.toList, ∀ name ∈ type.names, Inert name
  comments : ∀ d ∈ job.header.declarations, ∀ comment ∈ d.comments, BraceFree comment
  library : Inert job.options.library
  replacements : ∀ rule ∈ job.typeMap.rules, Inert rule.replacement

section Texts

theorem caseless_of_isLayout {c : Char} (h : isLayout c) : Caseless c := by
  simp only [isLayout, Bool.or_eq_true, beq_iff_eq] at h
  refine caseless_of_mem ?_
  obtain (rfl | rfl) | rfl := h
  · simp
  · simp
  · simp

theorem inert_convertName {name : String} (h : Inert name) (casing : Name.Casing) :
    Inert (Name.convert casing name) := by
  intro c hc
  refine Bool.eq_false_iff.2 fun hlayout => ?_
  rw [Name.convert, String.toList_ofList] at hc
  have hname := h c (Name.mem_of_mem_joinParts (caseless_of_isLayout hlayout) hc)
  rw [hname] at hlayout
  cases hlayout

theorem inert_parameter {name : String} (h : Inert name) : Inert (Name.parameter name) := by
  unfold Name.parameter Name.legalParameter
  split
  · decide
  · split
    · decide
    · split
      · exact (inert_convertName h _).append (by decide)
      · exact inert_convertName h _

theorem inert_fieldAlias {field : String} (h : Inert field) : Inert (Name.fieldAlias field) :=
  (inert_convertName h _).append (by decide)

theorem inert_natCast (n : Nat) : Inert (toString n) :=
  inert_iff.2 ⟨notMem_toString_nat rfl n, notMem_toString_nat rfl n, notMem_toString_nat rfl n⟩

theorem inert_intCast (i : Int) : Inert (toString i) := by
  have hnot {c : Char} (hdigit : c.isDigit = false) (hminus : c ≠ '-') : c ∉ (toString i).toList :=
    notMem_toString_int hdigit hminus i
  exact inert_iff.2 ⟨hnot rfl (by decide), hnot rfl (by decide), hnot rfl (by decide)⟩

theorem inert_distinctNames {names used : List String} (h : ∀ name ∈ names, Inert name)
    (position : Nat) : ∀ written ∈ distinctNames position used names, Inert written := by
  induction names generalizing position used with
  | nil => exact fun _ hmem => nomatch hmem
  | cons name rest ih =>
    obtain ⟨hname, hrest⟩ := List.forall_mem_cons.1 h
    refine List.forall_mem_cons.2 ⟨?_, ih hrest _⟩
    split
    · exact hname.append (inert_natCast position)
    · exact hname

theorem inert_parameterNames {names : List String} (h : ∀ name ∈ names, Inert name) :
    ∀ written ∈ parameterNames names, Inert written := by
  refine inert_distinctNames (fun written hwritten => ?_) 1
  obtain ⟨name, hname, rfl⟩ := List.mem_map.1 hwritten
  exact inert_parameter (h name hname)

theorem inert_intercalate {sep : String} {items : List String} (hsep : Inert sep)
    (h : ∀ item ∈ items, Inert item) : Inert (sep.intercalate items) := by
  induction items with
  | nil => exact fun _ hc => nomatch hc
  | cons item rest ih =>
    obtain ⟨hitem, hrest⟩ := List.forall_mem_cons.1 h
    cases rest with
    | nil => rwa [String.intercalate_singleton]
    | cons other rest =>
      rw [String.intercalate_cons_cons]
      exact (hitem.append hsep).append (ih hrest)

theorem inert_pointerSuffix (depth : Nat) : Inert (pointerSuffix depth) := by
  intro c hc
  rw [pointerSuffix, String.toList_ofList] at hc
  rw [List.eq_of_mem_replicate hc]
  decide

theorem inert_spelling (type : BuiltinType) : Inert type.spelling := by
  cases type <;> decide

/-- A line of a comment stands alone on a line of the file. -/
theorem inline_trim {text line : List Char} (hline : line ∈ Text.lines text)
    (h : '\x7b' ∉ text ∧ '\x7d' ∉ text) : Inline (String.ofList (trim line)) where
  inert := by
    have hkept {c : Char} (hc : c ∈ trim line) : c ∈ text ∧ c ≠ '\n' :=
      mem_of_mem_lines hline (trim_subset line hc)
    rw [inert_iff, String.toList_ofList]
    exact ⟨fun hc => h.1 (hkept hc).1, fun hc => h.2 (hkept hc).1, fun hc => (hkept hc).2 rfl⟩
  head_ne := by
    rw [String.toList_ofList]
    intro htab
    obtain ⟨rest, hrest⟩ := List.head?_eq_some_iff.1 htab
    have hblank := isBlank_of_trim_eq_cons hrest
    revert hblank
    decide

end Texts

namespace Options

variable {o : Options}

/-- A name that is accepted for the namespace is made of word characters and dots. -/
theorem inert_space (h : o.NamesSpace) : Inert o.space := by
  have hword {c : Char} (hc : c ∈ o.space.toList) (hdot : c ≠ '.') :
      (('a' ≤ c ∧ c ≤ 'z') ∨ ('A' ≤ c ∧ c ≤ 'Z') ∨ c = '_') ∨ isWordChar c := by
    obtain ⟨segment, hsegment, hmem⟩ := exists_mem_splitAt hc hdot
    rw [splitAt_eq_splitOn] at hsegment
    obtain ⟨first, rest, rfl, hfirst, hrest⟩ := h segment hsegment
    rcases List.mem_cons.1 hmem with rfl | hmem
    · exact .inl hfirst
    · exact .inr (hrest c hmem)
  refine inert_iff.2 ⟨fun hc => ?_, fun hc => ?_, fun hc => ?_⟩
  · exact absurd (hword hc (by decide)) (by decide)
  · exact absurd (hword hc (by decide)) (by decide)
  · exact absurd (hword hc (by decide)) (by decide)

theorem inert_wrapperClass (h : o.NamesSpace) : Inert o.wrapperClass := by
  refine Inert.append (fun c hc => ?_) (by decide)
  rw [String.toList_ofList] at hc
  cases hlast : o.segments.getLast? with
  | none => simp [List.getLastD_eq_getLast?, hlast] at hc
  | some segment =>
    rw [List.getLastD_eq_getLast?, hlast] at hc
    exact inert_space h c (mem_of_mem_splitAt (List.mem_of_getLast? hlast) hc).1

end Options

namespace Job

variable {job : Job} {n : Naming}

theorem inert_text (hn : ∀ id, Inert (n.name id)) (id : TypeId) : Inert (job.text n id) := by
  have hsuffixed (id : TypeId) : Inert (job.suffixedText n id) :=
    (hn id).append (inert_pointerSuffix _)
  induction id using text_induction job with
  | array id element size hnode hlt ih =>
    rw [text_of_array hnode hlt]
    exact ih.append (by decide)
  | other id hnone =>
    rw [text_of_not_array hnone]
    exact hsuffixed id

theorem inert_fieldText (hn : ∀ id, Inert (n.name id)) {field : String} (hfield : Inert field)
    (id : TypeId) : Inert (job.fieldText n field id) := by
  have hdirect {id : TypeId} (hd : job.types.isDirectFunctionPointer id) :
      Inert (job.fieldText n field id) := by
    rw [fieldText_of_direct hd]
    exact inert_fieldAlias hfield
  induction id using fieldText_induction job with
  | array id element size hnode hlt ih =>
    by_cases hd : job.types.isDirectFunctionPointer id
    · exact hdirect hd
    · rw [fieldText_of_array hd hnode hlt]
      exact ih.append ((Inert.append (by decide) (inert_natCast size)).append (by decide))
  | other id hnone =>
    by_cases hd : job.types.isDirectFunctionPointer id
    · exact hdirect hd
    · rw [fieldText_of_not_array hd hnone]
      exact inert_text hn id

theorem inert_parameterText (hn : ∀ id, Inert (n.name id)) {parameters : List Parameter}
    (h : ∀ name ∈ parameters.map (·.name), Inert name) (variadic : Bool) :
    Inert (job.parameterText n parameters variadic) := by
  have hitems : ∀ item ∈ List.zipWith (fun type name => type ++ " " ++ name)
      (parameters.map fun p => job.text n p.type) (parameterNames (parameters.map (·.name))),
      Inert item := by
    intro item hitem
    rw [← List.map_uncurry_zip_eq_zipWith] at hitem
    obtain ⟨⟨type, name⟩, hpair, rfl⟩ := List.mem_map.1 hitem
    obtain ⟨htype, hname⟩ := List.of_mem_zip hpair
    obtain ⟨p, -, rfl⟩ := List.mem_map.1 htype
    exact ((inert_text hn p.type).append (by decide)).append (inert_parameterNames h name hname)
  refine inert_intercalate (by decide) fun item hitem => ?_
  rcases List.mem_append.1 hitem with hitem | hitem
  · exact hitems item hitem
  · cases variadic with
    | true => rw [List.mem_singleton.1 hitem]; decide
    | false => cases hitem

end Job

namespace Header

variable {h : Header}

/-- What is picked from the declarations is one of them. -/
theorem mem_declarations {α : Type} {pick : Declaration → Option α} {wrap : α → Declaration}
    {a : α} (hpick : ∀ d, pick d = some a → d = wrap a)
    (ha : a ∈ h.declarations.filterMap pick) : wrap a ∈ h.declarations := by
  obtain ⟨d, hd, heq⟩ := List.mem_filterMap.1 ha
  rwa [← hpick d heq]

theorem enum_mem {decl : EnumDecl} (hd : decl ∈ h.enums) : .enum decl ∈ h.declarations :=
  mem_declarations (fun d hpick => by cases d <;> cases hpick; rfl) hd

theorem struct_mem {decl : StructDecl} (hd : decl ∈ h.structs) : .struct decl ∈ h.declarations :=
  mem_declarations (fun d hpick => by cases d <;> cases hpick; rfl) hd

theorem typeAlias_mem {decl : TypeAliasDecl} (hd : decl ∈ h.typeAliases) :
    .typeAlias decl ∈ h.declarations :=
  mem_declarations (fun d hpick => by cases d <;> cases hpick; rfl) hd

theorem function_mem {decl : FunctionDecl} (hd : decl ∈ h.functions) :
    .function decl ∈ h.declarations :=
  mem_declarations (fun d hpick => by cases d <;> cases hpick; rfl) hd

end Header

namespace Job.Plain

variable {job : Job} {id : TypeId}

theorem layer (h : job.Plain) (id : TypeId) : ∀ name ∈ (job.types.node id).names, Inert name := by
  intro name hname
  rw [TypeGraph.node, Array.getD_eq_getD_getElem?] at hname
  cases hnode : job.types.nodes[id]? with
  | none => rw [hnode] at hname; cases hname
  | some type =>
    rw [hnode] at hname
    exact h.typeNames type (Array.mem_def.1 (Array.mem_of_getElem? hnode)) name hname

theorem converted (h : job.Plain) {spelling : String} (hs : Inert spelling) :
    Inert (job.typeMap.convert spelling) := by
  intro c hc
  rcases TypeMap.mem_of_mem_convert hc with hc | ⟨rule, hrule, hc⟩ | hc
  · exact hs c hc
  · exact h.replacements rule hrule c hc
  · have hdefault : Inert "uint32" := by decide
    exact hdefault c hc

/-- Every name of a function type is that of a typedef, or it comes from a field. -/
theorem functionEntry (h : job.Plain) {name : String}
    (hentry : (name, id) ∈ (AliasTable.collect job.header).functions) : Inert name := by
  rw [AliasTable.functions_collect] at hentry
  rcases Header.typeAlias_or_field_of_mem_functionNames (mem_of_mem_firsts hentry) with
    ⟨decl, hdecl, rfl⟩ | ⟨decl, hdecl, f, hf, rfl⟩
  · exact h.names _ (Header.typeAlias_mem hdecl) _ List.mem_cons_self
  · exact inert_fieldAlias (h.names _ (Header.struct_mem hdecl) _
      (List.mem_cons_of_mem _ (List.mem_map_of_mem hf)))

theorem plainEntry (h : job.Plain) {name : String}
    (hentry : (name, id) ∈ (AliasTable.collect job.header).plain) : Inert name :=
  h.names _ (Header.typeAlias_mem (AliasTable.typeAlias_of_mem_plain hentry).1) _ List.mem_cons_self

theorem functionName (h : job.Plain) (id : TypeId) :
    Inert (functionName (AliasTable.collect job.header) id) := by
  unfold Job.functionName
  cases hname : (AliasTable.collect job.header).nameOf? id with
  | none => decide
  | some name =>
    have hentry := (AliasTable.consistent_collect job.header).mem_functions hname
    exact inert_convertName (h.functionEntry hentry) _

/-- The name of a type is put together from names of the header and replacements. -/
theorem name (h : job.Plain) (id : TypeId) : Inert (job.fileNaming.name id) := by
  have hlayer (id : TypeId) : Inert (job.layerName (AliasTable.collect job.header) id) := by
    have hnames := h.layer id
    unfold layerName
    cases hnode : job.types.node id with
    | builtin type => exact h.converted (inert_spelling type)
    | typedef name target =>
      rw [hnode] at hnames
      dsimp only
      split
      · decide
      · exact h.converted (hnames name List.mem_cons_self)
    | tagged kind name =>
      rw [hnode] at hnames
      dsimp only
      split
      · decide
      · exact h.converted (hnames name List.mem_cons_self)
    | function s => exact h.functionName id
    | pointer pointee isConst => exact (by decide : Inert nameless)
    | array element size => exact (by decide : Inert nameless)
    | unresolved spelling => exact (by decide : Inert nameless)
  change Inert (job.typeName (AliasTable.collect job.header) id)
  unfold typeName
  split
  · exact h.functionName _
  · exact hlayer _

end Job.Plain

end HeaderBindings
