import HeaderBindings.AliasTable
import HeaderBindings.Proofs.Firsts
import HeaderBindings.Proofs.Lookup
import HeaderBindings.Proofs.TypeGraph.Descent

/-! The registry of type names as a fold of registrations. It holds the first registration of each
name in their order, and the name that it gives for a function type is the first of those that it
holds for it. Every name of a function type in the table of a header leads to a function. -/

namespace HeaderBindings

/-- A name of a function type, with the type. -/
def Alias.function? : Alias → Option (String × TypeId)
  | .function name id => some (name, id)
  | .plain _ _ => none

namespace AliasTable

variable {t : AliasTable} {id : TypeId} {name : String}

/-- The name for a function type is the first one that the table holds for it. -/
def Consistent (t : AliasTable) : Prop :=
  ∀ id, t.nameOf? id = (t.functions.find? (·.2 = id)).map (·.1)

theorem consistent_empty : Consistent {} := fun _ => rfl

theorem addFunction_of_taken {other : TypeId} (h : t.function? name = some other) :
    t.addFunction name id = (false, t) := by
  rw [AliasTable.addFunction, h]

theorem addFunction_of_free (h : t.function? name = none) :
    t.addFunction name id =
      (true,
        { t with
          functions := t.functions ++ [(name, id)]
          firstNames :=
            if (t.nameOf? id).isSome then t.firstNames else t.firstNames ++ [(id, name)] }) := by
  rw [AliasTable.addFunction, h]

/-- A plain name leaves the names of function types as they are. -/
theorem addPlain_functions (t : AliasTable) (name : String) (id : TypeId) :
    (t.addPlain name id).2.functions = t.functions ∧
      (t.addPlain name id).2.firstNames = t.firstNames := by
  unfold addPlain
  split
  · exact ⟨rfl, rfl⟩
  · exact ⟨rfl, rfl⟩

/-- The name of a new function type among those of the table. -/
theorem find?_functions_append (functions : List (String × TypeId)) (other : TypeId) :
    ((functions ++ [(name, id)]).find? (·.2 = other)).map (·.1) =
      ((functions.find? (·.2 = other)).map (·.1)).or (if other = id then some name else none) := by
  rw [List.find?_append, Option.map_or]
  congr 1
  by_cases hid : other = id
  · subst hid; simp
  · simp [hid, Ne.symm hid]

theorem Consistent.addFunction (h : t.Consistent) (name : String) (id : TypeId) :
    (t.addFunction name id).2.Consistent := by
  cases hfree : t.function? name with
  | some other => rw [addFunction_of_taken hfree]; exact h
  | none =>
    intro other
    rw [addFunction_of_free hfree]
    simp only [find?_functions_append, ← h other]
    cases hname : t.nameOf? id with
    | some first =>
      -- the type keeps its name, so the new one must not be found for it
      have hkept : (if other = id then some name else none) = none ∨ (t.nameOf? other).isSome := by
        by_cases hid : other = id
        · rw [hid, hname]; exact .inr rfl
        · exact .inl (if_neg hid)
      rcases hkept with hnone | hsome
      · rw [hnone, Option.or_none]; rfl
      · rw [Option.or_of_isSome hsome]; rfl
    | none =>
      have hlast : [(id, name)].lookup other = if other = id then some name else none := by
        by_cases hid : other = id
        · rw [hid, List.lookup_cons_self, if_pos rfl]
        · rw [List.lookup_cons, beq_eq_false_iff_ne.2 hid, if_neg hid, List.lookup_nil]
      simp only [nameOf?, Option.isSome_none, Bool.false_eq_true, if_false, List.lookup_append,
        hlast]

theorem Consistent.add (h : t.Consistent) (a : Alias) : (t.add a).Consistent := by
  cases a with
  | function name id => exact h.addFunction name id
  | plain name id =>
    obtain ⟨hfunctions, hnames⟩ := t.addPlain_functions name id
    intro other
    simp only [AliasTable.add, nameOf?, hfunctions, hnames]
    exact h other

theorem Consistent.foldl_add (h : t.Consistent) (registrations : List Alias) :
    (registrations.foldl AliasTable.add t).Consistent := by
  induction registrations generalizing t with
  | nil => exact h
  | cons a rest ih => exact ih (h.add a)

theorem Consistent.mem_functions (h : t.Consistent) (hname : t.nameOf? id = some name) :
    (name, id) ∈ t.functions := by
  rw [h id, Option.map_eq_some_iff] at hname
  obtain ⟨entry, hfind, rfl⟩ := hname
  have hid : entry.2 = id := by simpa using List.find?_some hfind
  rw [← hid]
  exact List.mem_of_find?_eq_some hfind

theorem mem_functions_iff : name ∈ t.functions.map Prod.fst ↔ (t.function? name).isSome :=
  mem_map_fst_iff

/-- A table holds the first registration of every name that it did not hold before. -/
theorem functions_foldl_add (registrations : List Alias) (t : AliasTable) :
    (registrations.foldl add t).functions =
      t.functions ++ firstsBeyond Prod.fst (t.functions.map Prod.fst)
        (registrations.filterMap Alias.function?) := by
  induction registrations generalizing t with
  | nil => rw [List.filterMap_nil, firstsBeyond, List.append_nil]; rfl
  | cons a rest ih =>
    rw [List.foldl_cons, ih]
    cases a with
    | plain name id =>
      rw [add, (t.addPlain_functions name id).1]
      rfl
    | function name id =>
      rw [List.filterMap_cons, Alias.function?, firstsBeyond, add]
      cases hfree : t.function? name with
      | some other =>
        rw [addFunction_of_taken hfree, if_pos (mem_functions_iff.2 (by rw [hfree]; rfl))]
      | none =>
        have hnew : name ∉ t.functions.map Prod.fst := by
          rw [mem_functions_iff, hfree]
          exact Bool.false_ne_true
        rw [addFunction_of_free hfree, if_neg hnew, List.append_assoc]
        -- the table lists the names it holds in their order, `firstsBeyond` the newest first
        refine congrArg (t.functions ++ (name, id) :: ·) (firstsBeyond_congr (fun k => ?_) _)
        simp [or_comm]

/-- A name of a function type leaves the plain names as they are. -/
theorem addFunction_plain (t : AliasTable) (name : String) (id : TypeId) :
    (t.addFunction name id).2.plain = t.plain := by
  unfold addFunction
  split
  · rfl
  · rfl

theorem mem_plain_addPlain {entry : String × TypeId} (h : entry ∈ (t.addPlain name id).2.plain) :
    entry ∈ t.plain ∨ entry = (name, id) := by
  unfold addPlain at h
  split at h
  · exact .inl h
  · rcases List.mem_append.1 h with h | h
    · exact .inl h
    · exact .inr (List.mem_singleton.1 h)

/-- Every plain name that a table holds has been registered. -/
theorem mem_plain_foldl_add {entry : String × TypeId} (registrations : List Alias)
    (t : AliasTable) (h : entry ∈ (registrations.foldl add t).plain) :
    entry ∈ t.plain ∨ .plain entry.1 entry.2 ∈ registrations := by
  induction registrations generalizing t with
  | nil => exact .inl h
  | cons a rest ih =>
    rcases ih (t.add a) h with hadd | hrest
    · cases a with
      | function name id =>
        rw [add, addFunction_plain] at hadd
        exact .inl hadd
      | plain name id =>
        rcases mem_plain_addPlain hadd with hplain | rfl
        · exact .inl hplain
        · exact .inr List.mem_cons_self
    · exact .inr (List.mem_cons_of_mem _ hrest)

end AliasTable

namespace Header

/-- The names that a header gives to function types, in the order in which they are registered. -/
def functionNames (h : Header) : List (String × TypeId) :=
  h.aliases.filterMap Alias.function?

variable {h : Header} {id : TypeId} {name : String}

theorem mem_functionNames : (name, id) ∈ h.functionNames ↔ .function name id ∈ h.aliases := by
  rw [functionNames, List.mem_filterMap]
  constructor
  · rintro ⟨_ | _, ha, hentry⟩
    · cases hentry; exact ha
    · cases hentry
  · exact fun ha => ⟨_, ha, rfl⟩

/-- A name of a function type is registered for a function. -/
theorem isFunction_of_mem_functionNames (hmem : (name, id) ∈ h.functionNames) :
    (h.types.node id).isFunction := by
  obtain ⟨decl, -, halias⟩ := List.mem_flatMap.1 (mem_functionNames.1 hmem)
  cases decl with
  | enum decl => cases halias
  | function decl => cases halias
  | typeAlias decl =>
    rw [aliasesOf] at halias
    split at halias
    · next f hf =>
      cases List.mem_singleton.1 halias
      exact (TypeGraph.function?_eq_some_iff.1 hf).2
    · cases List.mem_singleton.1 halias
  | struct decl =>
    rw [aliasesOf] at halias
    split at halias
    · obtain ⟨field, -, hfield⟩ := List.mem_filterMap.1 halias
      obtain ⟨f, hf, heq⟩ := Option.map_eq_some_iff.1 hfield
      cases heq
      exact (TypeGraph.function?_eq_some_iff.1 hf).2
    · cases halias

/-- A name of a function type is that of a typedef, or it is made from the name of a field. -/
theorem typeAlias_or_field_of_mem_functionNames (hmem : (name, id) ∈ h.functionNames) :
    (∃ decl ∈ h.typeAliases, decl.name = name) ∨
      ∃ decl ∈ h.structs, ∃ f ∈ decl.fields, name = Name.fieldAlias f.name := by
  obtain ⟨d, hd, halias⟩ := List.mem_flatMap.1 (mem_functionNames.1 hmem)
  cases d with
  | enum decl => cases halias
  | function decl => cases halias
  | typeAlias decl =>
    have hdecl : decl ∈ h.typeAliases := List.mem_filterMap.2 ⟨_, hd, rfl⟩
    rw [aliasesOf] at halias
    split at halias
    · cases List.mem_singleton.1 halias
      exact .inl ⟨decl, hdecl, rfl⟩
    · cases List.mem_singleton.1 halias
  | struct decl =>
    have hdecl : decl ∈ h.structs := List.mem_filterMap.2 ⟨_, hd, rfl⟩
    rw [aliasesOf] at halias
    split at halias
    · obtain ⟨f, hf, hfield⟩ := List.mem_filterMap.1 halias
      obtain ⟨own, -, heq⟩ := Option.map_eq_some_iff.1 hfield
      cases heq
      exact .inr ⟨decl, hdecl, f, hf, rfl⟩
    · cases halias

/-- A plain name is given by a typedef for a type that leads to no function. -/
theorem typeAlias_of_plain_mem_aliases (halias : .plain name id ∈ h.aliases) :
    ⟨name, id⟩ ∈ h.typeAliases ∧ h.types.function? id = none := by
  obtain ⟨decl, hdecl, halias⟩ := List.mem_flatMap.1 halias
  cases decl with
  | enum decl => cases halias
  | function decl => cases halias
  | struct decl =>
    rw [aliasesOf] at halias
    split at halias
    · obtain ⟨field, -, hfield⟩ := List.mem_filterMap.1 halias
      obtain ⟨f, -, heq⟩ := Option.map_eq_some_iff.1 hfield
      cases heq
    · cases halias
  | typeAlias decl =>
    rw [aliasesOf] at halias
    split at halias
    · cases List.mem_singleton.1 halias
    · next hnone =>
      cases List.mem_singleton.1 halias
      exact ⟨List.mem_filterMap.2 ⟨_, hdecl, rfl⟩, hnone⟩

/-- Every field of a struct that leads to a function registers a name for it. -/
theorem mem_functionNames_of_field {decl : StructDecl} {f : Field} (hdecl : decl ∈ h.structs)
    (hkind : decl.kind = .struct) (hf : f ∈ decl.fields)
    (hid : h.types.function? f.type = some id) :
    (Name.fieldAlias f.name, id) ∈ h.functionNames := by
  obtain ⟨d, hd, hstruct⟩ := List.mem_filterMap.1 hdecl
  cases d with
  | struct _ =>
    cases hstruct
    refine mem_functionNames.2 (List.mem_flatMap.2 ⟨_, hd, ?_⟩)
    rw [aliasesOf, if_pos hkind]
    exact List.mem_filterMap.2 ⟨f, hf, by rw [hid]; rfl⟩
  | enum _ => cases hstruct
  | typeAlias _ => cases hstruct
  | function _ => cases hstruct

end Header

namespace AliasTable

variable {h : Header} {id : TypeId} {name : String}

/-- The table of a header holds the first registration of each name. -/
theorem functions_collect : (collect h).functions = firsts Prod.fst h.functionNames :=
  functions_foldl_add h.aliases {}

theorem function?_collect : (collect h).function? name = h.functionNames.lookup name := by
  rw [function?, functions_collect, lookup_firsts]

theorem typeAlias_of_mem_plain (hmem : (name, id) ∈ (collect h).plain) :
    ⟨name, id⟩ ∈ h.typeAliases ∧ h.types.function? id = none :=
  Header.typeAlias_of_plain_mem_aliases
    ((mem_plain_foldl_add h.aliases {} hmem).resolve_left List.not_mem_nil)

theorem consistent_collect (h : Header) : (collect h).Consistent :=
  consistent_empty.foldl_add h.aliases

/-- Every name of a function type in the table of a header is one of a function. -/
theorem isFunction_of_mem_functions (hmem : (name, id) ∈ (collect h).functions) :
    (h.types.node id).isFunction := by
  rw [functions_collect] at hmem
  exact Header.isFunction_of_mem_functionNames (mem_of_mem_firsts hmem)

/-- The name that a field registers is in the table, whichever function it was registered for
first. -/
theorem exists_function?_of_mem_functionNames (hmem : (name, id) ∈ h.functionNames) :
    ∃ first, (collect h).function? name = some first := by
  rw [function?_collect, ← Option.isSome_iff_exists, List.lookup_isSome_iff]
  exact ⟨_, hmem, beq_self_eq_true name⟩

end AliasTable

end HeaderBindings
