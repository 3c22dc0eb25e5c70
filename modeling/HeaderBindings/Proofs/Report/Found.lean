import HeaderBindings.Proofs.Report.Declarations
import HeaderBindings.Proofs.Report.Declared
import HeaderBindings.Proofs.Report.Visited

/-! What is found while a report is read. One entity after the other, what it declares is put at the
end of the declarations; all the rest stays, but for types, typedefs and functions that come to be
known. Whether a typedef stands for something is settled where it is first read, so it may be asked
of the graph at the end. -/

namespace HeaderBindings

namespace Report

variable {report : Report} {tagNames : TagNames}

/-- The entities `found` are declared, in this order. -/
structure Finds (report : Report) (tagNames : TagNames) (found : List Entity) (s s' : Reading) :
    Prop where
  tidy : s'.Tidy
  grows : report.Grows tagNames s s'
  declared : ∃ entries, s'.declarations.toList = s.declarations.toList ++ entries ∧
    List.Forall₂ (report.Places tagNames s'.types) found entries

variable {s s' s'' : Reading} {found found' : List Entity} {α β : Type}

theorem Learns.finds (h : report.Learns tagNames s s') : report.Finds tagNames [] s s' :=
  ⟨h.tidy, h.grows, [], by rw [h.declarations_eq, List.append_nil], .nil⟩

theorem Finds.trans (h : report.Finds tagNames found s s')
    (h' : report.Finds tagNames found' s' s'') :
    report.Finds tagNames (found ++ found') s s'' := by
  obtain ⟨entries, hentries, hfound⟩ := h.declared
  obtain ⟨entries', hentries', hfound'⟩ := h'.declared
  refine ⟨h'.tidy, h.grows.trans h'.grows, entries ++ entries', ?_, ?_⟩
  · rw [hentries', hentries, List.append_assoc]
  · have hkept := hfound.imp fun _ _ h => And.intro h.1 (h.2.keeps h'.grows.keeps)
    exact List.rel_append hkept hfound'

/-- From tidy states `e` declares `found`, no function is found, and `Q` holds of what it gives. -/
def Adds (report : Report) (tagNames : TagNames) (found : List Entity) (P : TypeGraph → Prop)
    (e : Read α) (Q : α → TypeGraph → Prop) : Prop :=
  ∀ s : Reading, s.Tidy → P s.types → report.Finds tagNames found s (e.run s).2 ∧
    (e.run s).2.functions = s.functions ∧ Q (e.run s).1 (e.run s).2.types

variable {P F : TypeGraph → Prop} {Q : α → TypeGraph → Prop} {R : β → TypeGraph → Prop}

theorem Reads.adds {e : Read α} (h : report.Reads tagNames report.declarations.size P e Q) :
    report.Adds tagNames [] P e Q := by
  intro s hs hP
  obtain ⟨hlearns, hQ⟩ := h s hs (report.card_pending_le s) hP
  exact ⟨hlearns.finds, hlearns.functions_eq, hQ⟩

theorem Adds.pure (a : α) (h : ∀ g, P g → Q a g) : report.Adds tagNames [] P (Pure.pure a) Q :=
  Reads.adds (.pure a h)

theorem adds_record (level : Log.Level) (text : String) :
    report.Adds tagNames [] P (Read.record level text) fun _ => P :=
  Reads.adds (reads_record level text)

theorem Adds.bind {e : Read α} {f : α → Read β} (he : report.Adds tagNames found P e Q)
    (hf : ∀ a, report.Adds tagNames found' (Q a) (f a) R) :
    report.Adds tagNames (found ++ found') P (e >>= f) R := by
  intro s hs hP
  obtain ⟨hfinds, hfunctions, hQ⟩ := he s hs hP
  obtain ⟨hfinds', hfunctions', hR⟩ := hf (e.run s).1 (e.run s).2 hfinds.tidy hQ
  exact ⟨hfinds.trans hfinds', hfunctions'.trans hfunctions, hR⟩

theorem Adds.bind_nil {e : Read α} {f : α → Read β} (he : report.Adds tagNames found P e Q)
    (hf : ∀ a, report.Adds tagNames [] (Q a) (f a) R) :
    report.Adds tagNames found P (e >>= f) R :=
  found.append_nil ▸ he.bind hf

theorem Adds.frame {e : Read α} (h : report.Adds tagNames found (fun _ => True) e Q)
    (hF : ∀ g g' : TypeGraph, g.Keeps g' → F g → F g') :
    report.Adds tagNames found F e fun a g => Q a g ∧ F g := by
  intro s hs hs'
  obtain ⟨hfinds, hfunctions, hQ⟩ := h s hs trivial
  exact ⟨hfinds, hfunctions, hQ, hF _ _ hfinds.grows.keeps hs'⟩

theorem Adds.imp {e : Read α} {Q' : α → TypeGraph → Prop}
    (h : report.Adds tagNames found P e Q) (hQ : ∀ a g, Q a g → Q' a g) :
    report.Adds tagNames found P e Q' :=
  fun s hs hP => ⟨(h s hs hP).1, (h s hs hP).2.1, hQ _ _ (h s hs hP).2.2⟩

theorem adds_declare {e : Entity} {declaration : Declaration}
    (h : ∀ g, P g → report.Declares tagNames g e declaration) :
    report.Adds tagNames [e] P (Read.declare e declaration) fun _ _ => True :=
  fun s hs hP => ⟨⟨⟨hs.nodup, hs.holds, hs.mem⟩,
    ⟨.refl s.types, .refl, .refl s.log, [], rfl, List.forall_mem_nil _⟩,
    [(e.file, declaration)], Array.toList_push, .cons ⟨rfl, h _ hP⟩ .nil⟩, rfl, trivial⟩

theorem adds_mapM {l : List α} {f : α → Read β} {R : α → TypeGraph → β → Prop}
    (h : ∀ a, report.Adds tagNames [] (fun _ => True) (f a) fun b g => R a g b)
    (hR : ∀ a b (g g' : TypeGraph), g.Keeps g' → R a g b → R a g' b) :
    report.Adds tagNames [] (fun _ => True) (l.mapM f) fun bs g =>
      List.Forall₂ (fun a b => R a g b) l bs := by
  induction l with
  | nil => exact .pure [] fun _ _ => .nil
  | cons a rest ih =>
    rw [List.mapM_cons]
    refine (h a).bind fun b => ?_
    refine (ih.frame fun g g' hg h => hR a b g g' hg h).bind fun bs => ?_
    exact .pure (b :: bs) fun g h => .cons h.2 h.1

/-- The functions that were found do not matter. -/
theorem Finds.of_functions {functions : List String}
    (h : report.Finds tagNames found { s with functions } s') :
    report.Finds tagNames found s s' :=
  ⟨h.tidy, ⟨h.grows.keeps, h.grows.steps, h.grows.logs, h.grows.typedefs⟩, h.declared⟩

theorem adds_readType (names : List String) (type : ReportedType) :
    report.Adds tagNames [] (fun _ => True) (report.readType tagNames names type) fun id g =>
      report.Shows tagNames g names type id :=
  Reads.adds fun _ hs _ _ => learns_readType hs names type

end Report

namespace Reader

variable (r : Reader)

theorem adds_enum {e : Entity} (hkind : e.info.kind = .enumDecl) :
    r.report.Adds r.tagNames (r.tagNames.declaredIn e) (fun _ => True) (enum r e)
      fun _ _ => True := by
  rw [r.tagNames.declaredIn_of_enum hkind, enum]
  split
  · next hdefinition => exact Report.adds_declare fun _ _ => .enum hkind hdefinition
  · exact .pure () fun _ _ => trivial

/-- A field that is kept shows what it was read from. -/
theorem adds_field {e : Entity} (hkind : e.info.kind = .fieldDecl) :
    r.report.Adds r.tagNames [] (fun _ => True) (field r e) fun fields g =>
      List.Forall₂ (r.report.ShowsField r.tagNames g) ([e].filter Entity.isField) fields := by
  unfold field
  split
  · next name type hname htype =>
    have hfield : [e].filter Entity.isField = [e] := by
      simp [Entity.isField, hkind, hname, htype]
    rw [hfield]
    refine (Report.adds_readType e.parameterNames type).bind fun id => .pure _ fun g hg => ?_
    refine .cons ⟨hname, rfl, fun other hother => ?_⟩ .nil
    rw [htype] at hother
    exact Option.mem_some.1 hother ▸ hg
  · next h =>
    have hfield : [e].filter Entity.isField = [] := by
      cases hname : e.info.name <;> cases htype : e.info.type <;>
        simp_all [Entity.isField]
    rw [hfield]
    exact .pure [] fun _ _ => .nil

mutual

theorem adds_record (kind : TagKind) : ∀ e : Entity, e.info.kind.record? = some kind →
    r.report.Adds r.tagNames (r.tagNames.declaredIn e) (fun _ => True) (record r kind e)
      fun _ _ => True
  | .mk info children arguments, hkind => by
    have hmembers := adds_members children
    unfold record
    dsimp only
    split
    · next hname =>
      rw [r.tagNames.declaredIn_of_nameless hkind hname]
      exact Report.adds_record _ _
    · next name hname =>
      have hdeclare {found : List Entity} {e : Read (List Field)}
          (h : r.report.Adds r.tagNames found (fun _ => True) e fun fields g =>
            List.Forall₂ (r.report.ShowsField r.tagNames g)
              (if info.isDefinition then children.filter Entity.isField else []) fields) :
          r.report.Adds r.tagNames (found ++ [.mk info children arguments]) (fun _ => True)
            (do
              let fields ← e
              Read.declare (.mk info children arguments)
                (.struct ⟨name, kind, fields, info.isDefinition, info.comment⟩)) fun _ _ => True :=
        h.bind fun fields => Report.adds_declare fun g hfields => .record hkind hname hfields
      rw [r.tagNames.declaredIn_of_named hkind hname]
      change r.report.Adds r.tagNames
        ((if info.isDefinition then r.tagNames.declaredInAll children else []) ++ _) _ _ _
      cases hdefinition : info.isDefinition with
      | true =>
        rw [hdefinition] at hdeclare
        exact hdeclare hmembers
      | false =>
        rw [hdefinition] at hdeclare
        exact hdeclare (.pure [] fun _ _ => .nil)

/-- What stands inside a struct or union is declared, and its fields are kept. -/
theorem adds_members : ∀ children, r.report.Adds r.tagNames (r.tagNames.declaredInAll children)
    (fun _ => True) (members r children) fun fields g =>
      List.Forall₂ (r.report.ShowsField r.tagNames g) (children.filter Entity.isField) fields
  | [] => .pure [] fun _ _ => .nil
  | .mk info children arguments :: rest => by
    have hstruct := adds_record .struct (.mk info children arguments)
    have hunion := adds_record .union (.mk info children arguments)
    have hrest := adds_members rest
    have hother (hk : info.kind ≠ .fieldDecl) :
        r.report.Adds r.tagNames (r.tagNames.declaredInAll rest) (fun _ => True)
          (do return [] ++ (← members r rest)) fun fields g =>
            List.Forall₂ (r.report.ShowsField r.tagNames g)
              ((.mk info children arguments :: rest).filter Entity.isField) fields := by
      rw [List.filter_cons_of_neg (by simp [Entity.isField, Entity.info, hk])]
      exact hrest.bind_nil fun others => .pure _ fun _ h => h
    unfold members
    dsimp only
    split
    · next hk =>
      have hfield := r.adds_field (e := .mk info children arguments) hk
      rw [TagNames.declaredInAll, r.tagNames.declaredIn_of_other (by rw [Entity.info, hk]; rfl)
        (by rw [Entity.info, hk]; decide)]
      refine hfield.bind fun fields => ?_
      have hkept := hrest.frame (F := fun g => List.Forall₂ (r.report.ShowsField r.tagNames g)
        ([.mk info children arguments].filter Entity.isField) fields)
        fun g g' hg h => h.imp fun _ _ h => h.keeps hg
      refine hkept.bind_nil fun others => .pure _ fun g h => ?_
      rw [← List.singleton_append, List.filter_append]
      exact List.rel_append h.2 h.1
    · next hk => exact (hstruct (by rw [Entity.info, hk]; rfl)).bind fun _ => hother (by simp [hk])
    · next hk => exact (hunion (by rw [Entity.info, hk]; rfl)).bind fun _ => hother (by simp [hk])
    · next hk =>
      have henum := r.adds_enum (e := .mk info children arguments) hk
      exact henum.bind fun _ => hother (by simp [hk])
    · next hfield hstruct hunion henum =>
      have hnothing := r.tagNames.declaredIn_of_other (e := .mk info children arguments)
        (EntityKind.record?_of_ne hstruct hunion) henum
      rw [TagNames.declaredInAll, hnothing]
      exact hother hfield

end

theorem typedef_run {e : Entity} {name : String} (hname : e.info.name = some name) (s : Reading) :
    (typedef r e).run s =
      let t := (r.report.typedefType r.tagNames r.report.nesting e).run s
      (match t.2.types.node t.1 with
        | .typedef _ (some target) => Read.declare e (.typeAlias ⟨name, target⟩)
        | _ => Read.record .debug ("typedef without underlying type: " ++ name)).run t.2 := by
  unfold typedef
  rw [hname]
  rfl

/-- An alias is declared where the typedef stands for something by then. -/
theorem finds_typedef {e : Entity} {s : Reading} (hs : s.Tidy) (he : r.report.Contains e)
    (hkind : e.info.kind = .typedefDecl) :
    ∃ found, r.report.Finds r.tagNames found s ((typedef r e).run s).2 ∧
      ((typedef r e).run s).2.functions = s.functions ∧
      ∀ bound, ((typedef r e).run s).2.types.Bounds bound →
        found = if e.info.name.any bound then [e] else [] := by
  cases hname : e.info.name with
  | none =>
    unfold typedef
    rw [hname]
    exact ⟨[], (Report.Learns.refl hs).finds, rfl, fun _ _ => rfl⟩
  | some name =>
    have hread : r.report.Learns r.tagNames s _ ∧ _ := Report.learns_typedefType hs he
    rw [r.typedef_run hname]
    generalize (r.report.typedefType r.tagNames r.report.nesting e).run s = t at hread ⊢
    obtain ⟨id, s'⟩ := t
    obtain ⟨hlearns, target, hid⟩ := hread
    rw [show Report.typedefName e = name by rw [Report.typedefName, hname]; rfl] at hid
    dsimp only at hlearns hid ⊢
    rw [hid.node_eq]
    cases target with
    | none =>
      have hrecord : r.report.Adds r.tagNames [] (fun _ => True) (Read.record _ _) _ :=
        Report.adds_record .debug ("typedef without underlying type: " ++ name)
      obtain ⟨hfinds, hfunctions, -⟩ := hrecord s' hlearns.tidy trivial
      refine ⟨[], hlearns.finds.trans hfinds, hfunctions.trans hlearns.functions_eq,
        fun bound hbound => ?_⟩
      rw [Option.any_some, hbound _ _ _ hid]
      rfl
    | some target =>
      have hdeclare : r.report.Adds r.tagNames [e]
          (fun g => g.Holds id (.typedef name (some target)))
          (Read.declare e (.typeAlias ⟨name, target⟩)) fun _ _ => True :=
        Report.adds_declare fun g hg => .typeAlias hkind hname hg
      obtain ⟨hfinds, hfunctions, -⟩ := hdeclare s' hlearns.tidy hid
      refine ⟨[e], hlearns.finds.trans hfinds, hfunctions.trans hlearns.functions_eq,
        fun bound hbound => ?_⟩
      rw [Option.any_some, hbound _ _ _ hid]
      rfl

theorem adds_parameter (e : Entity) :
    r.report.Adds r.tagNames [] (fun _ => True) (parameter r e) fun p g =>
      r.report.ShowsParameter r.tagNames g e p := by
  unfold parameter
  dsimp only
  split
  · next type htype =>
    refine (Report.adds_readType e.parameterNames type).bind fun id => .pure _ fun g hg => ?_
    refine ⟨rfl, fun other hother => ?_, fun hnone => ?_⟩
    · rw [htype] at hother
      exact Option.mem_some.1 hother ▸ hg
    · exact absurd (htype.symm.trans hnone) (Option.some_ne_none type)
  · next htype =>
    have hadd : r.report.Adds r.tagNames [] (fun _ => True) (Read.add (.unresolved "")) fun id g =>
        g.Holds id (.unresolved "") :=
      Report.Reads.adds (Report.reads_add (by simp) fun g _ => g.holds_add_self _)
    refine hadd.bind fun id => .pure _ fun g hg => ⟨rfl, fun other hother => ?_, fun _ => hg⟩
    rw [htype] at hother
    exact absurd hother (Option.not_mem_none other)

/-- A function is read to its declaration, whichever way its result is read. -/
theorem adds_signature {e : Entity} {name : String} {read : Read TypeId}
    (hkind : e.info.kind = .functionDecl) (hname : e.info.name = some name)
    (hread : r.report.Adds r.tagNames [] (fun _ => True) read fun id g =>
      r.report.ShowsResult r.tagNames g e.info.result id) :
    r.report.Adds r.tagNames [e] (fun _ => True)
      (do
        let result ← read
        let parameters ← e.arguments.mapM (parameter r)
        Read.declare e (.function
          ⟨name, result, parameters, e.info.isInline, isOperatorName name, e.info.variadic,
            e.info.comment⟩)) fun _ _ => True := by
  refine hread.bind fun result => ?_
  have hparameters := Report.adds_mapM (l := e.arguments) r.adds_parameter
    fun _ _ _ _ hg h => h.keeps hg
  refine (hparameters.frame fun _ _ hg h => h.keeps hg).bind fun parameters => ?_
  exact Report.adds_declare fun g h => .function hkind hname h.2 h.1

/-- A function is declared if none of its name was before. -/
theorem finds_function {e : Entity} {s : Reading} (hs : s.Tidy)
    (hkind : e.info.kind = .functionDecl) :
    r.report.Finds r.tagNames (if e.info.name.all (· ∈ s.functions) then [] else [e]) s
      ((function r e).run s).2 ∧ ((function r e).run s).2.functions = e.seenAfter s.functions := by
  have hsignature {name : String} {read : Read TypeId} (hname : e.info.name = some name)
      (hread : r.report.Adds r.tagNames [] (fun _ => True) read fun id g =>
        r.report.ShowsResult r.tagNames g e.info.result id) :=
    r.adds_signature hkind hname hread { s with functions := name :: s.functions }
      ⟨hs.nodup, hs.holds, hs.mem⟩ trivial
  unfold function Entity.seenAfter
  rw [hkind]
  cases hname : e.info.name with
  | none => exact ⟨(Report.Learns.refl hs).finds, rfl⟩
  | some name =>
    dsimp only
    by_cases hseen : name ∈ s.functions
    · have hrecord : r.report.Adds r.tagNames [] (fun _ => True) (Read.record _ _) _ :=
        Report.adds_record .trace ("function already declared: " ++ name)
      obtain ⟨hfinds, hfunctions, -⟩ := hrecord s hs trivial
      have hcontains : s.functions.contains name = true := by simpa using hseen
      rw [StateT.run_bind, StateT.run_get, pure_bind, hcontains, if_pos rfl, if_pos hseen,
        Option.all_some, if_pos (decide_eq_true hseen)]
      exact ⟨hfinds, hfunctions⟩
    · have hcontains : s.functions.contains name = false := by simpa using hseen
      rw [StateT.run_bind, StateT.run_get, pure_bind, hcontains, if_neg Bool.false_ne_true,
        if_neg hseen, Option.all_some, if_neg (by simpa using hseen)]
      cases hresult : e.info.result with
      | none =>
        have hvoid : r.report.Adds r.tagNames [] (fun _ => True) (Read.add (.builtin .void))
            fun id g => r.report.ShowsResult r.tagNames g e.info.result id := by
          rw [hresult]
          exact Report.Reads.adds
            (Report.reads_add (by simp) fun g _ => .of_none (g.holds_add_self _))
        obtain ⟨hfinds, hfunctions, -⟩ := hsignature hname hvoid
        exact ⟨hfinds.of_functions, hfunctions⟩
      | some type =>
        have htype : r.report.Adds r.tagNames [] (fun _ => True)
            (r.report.readType r.tagNames [] type)
            fun id g => r.report.ShowsResult r.tagNames g e.info.result id := by
          rw [hresult]
          exact (Report.adds_readType [] type).imp fun _ _ => .of_some
        obtain ⟨hfinds, hfunctions, -⟩ := hsignature hname htype
        exact ⟨hfinds.of_functions, hfunctions⟩

/-- One step: an entity that is neither a block nor left out. -/
theorem finds_entity {e : Entity} {s : Reading} (hs : s.Tidy)
    (he : e ∈ r.report.visited r.skipSystemHeaders) :
    ∃ found, r.report.Finds r.tagNames found s ((entity r e).run s).2 ∧
      ((entity r e).run s).2.functions = e.seenAfter s.functions ∧
      ∀ bound, ((entity r e).run s).2.types.Bounds bound →
        found = r.tagNames.declaredBy bound s.functions e := by
  have hdeclares (hfunction : e.info.kind ≠ .functionDecl) (htypedef : e.info.kind ≠ .typedefDecl)
      {read : Read Unit} (hread : r.report.Adds r.tagNames (r.tagNames.declaredIn e)
        (fun _ => True) read fun _ _ => True) :
      ∃ found, r.report.Finds r.tagNames found s (read.run s).2 ∧
        (read.run s).2.functions = e.seenAfter s.functions ∧
        ∀ bound, (read.run s).2.types.Bounds bound →
          found = r.tagNames.declaredBy bound s.functions e := by
    obtain ⟨hfinds, hfunctions, -⟩ := hread s hs trivial
    refine ⟨_, hfinds, ?_, fun bound _ => ?_⟩
    · rw [hfunctions, Entity.seenAfter_of_ne hfunction]
    · rw [TagNames.declaredBy_of_ne hfunction htypedef]
  have hcontains := Report.contains_of_mem_visited he
  obtain ⟨hblock, hskip⟩ := (Entity.mem_openedAll.1 he).isBlock_eq_false
  obtain ⟨info, children, arguments⟩ := e
  change info.kind.isBlock = false at hblock
  change (r.skipSystemHeaders && info.inSystemHeader) = false at hskip
  change info.kind ≠ _ → info.kind ≠ _ → _ at hdeclares
  unfold entity
  dsimp only
  rw [if_neg (Bool.eq_false_iff.1 hskip)]
  split
  · next hkind => exact hdeclares (by simp [hkind]) (by simp [hkind]) (r.adds_enum hkind)
  · next hkind =>
    have hrecord : info.kind.record? = some .struct := by rw [hkind]; rfl
    exact hdeclares (by simp [hkind]) (by simp [hkind]) (r.adds_record _ _ hrecord)
  · next hkind =>
    have hrecord : info.kind.record? = some .union := by rw [hkind]; rfl
    exact hdeclares (by simp [hkind]) (by simp [hkind]) (r.adds_record _ _ hrecord)
  · next hkind =>
    obtain ⟨found, hfinds, hfunctions, hfound⟩ :=
      r.finds_typedef (e := .mk info children arguments) hs hcontains hkind
    refine ⟨found, hfinds, ?_, fun bound hbound => ?_⟩
    · rw [hfunctions, Entity.seenAfter_of_ne (by rw [Entity.info, hkind]; decide)]
    · rw [hfound bound hbound, TagNames.declaredBy]
      simp only [Entity.info, hkind]
  · next hkind =>
    obtain ⟨hfinds, hfunctions⟩ := r.finds_function (e := .mk info children arguments) hs hkind
    refine ⟨_, hfinds, hfunctions, fun bound _ => ?_⟩
    rw [TagNames.declaredBy]
    simp only [Entity.info, hkind]
  · next hkind => rw [hkind] at hblock; cases hblock
  · next hkind => rw [hkind] at hblock; cases hblock
  · next henum hstruct hunion htypedef hfunction _ _ =>
    have hnothing := r.tagNames.declaredIn_of_other (e := .mk info children arguments)
      (EntityKind.record?_of_ne hstruct hunion) henum
    refine hdeclares hfunction htypedef ?_
    rw [hnothing]
    exact Report.adds_record _ _

/-- The run: entities are read one after the other. -/
theorem finds_forM (es : List Entity) (hes : ∀ e ∈ es, e ∈ r.report.visited r.skipSystemHeaders)
    {s : Reading} (hs : s.Tidy) :
    ∃ found, r.report.Finds r.tagNames found s ((es.forM (entity r)).run s).2 ∧
      ∀ bound, ((es.forM (entity r)).run s).2.types.Bounds bound →
        found = r.tagNames.declaredAlong bound s.functions es := by
  induction es generalizing s with
  | nil => exact ⟨[], (Report.Learns.refl hs).finds, fun _ _ => rfl⟩
  | cons e rest ih =>
    obtain ⟨found, hfinds, hfunctions, hfound⟩ := r.finds_entity hs (hes e List.mem_cons_self)
    obtain ⟨found', hfinds', hfound'⟩ :=
      ih (fun e he => hes e (List.mem_cons_of_mem _ he)) hfinds.tidy
    refine ⟨found ++ found', hfinds.trans hfinds', fun bound hbound => ?_⟩
    have hearlier : ((entity r e).run s).2.types.Bounds bound := fun id name target hid =>
      hbound id name target (hfinds'.grows.keeps _ _ hid)
    rw [TagNames.declaredAlong, hfound bound hearlier, hfound' bound hbound, hfunctions]

end Reader

namespace Report

variable (report : Report) (skip : Bool)

/-- What the header declares, in the order in which it is found. -/
def declared : List Entity :=
  report.tagNames.declaredAlong (fun name => ((report.reading skip).target? name).isSome) []
    (report.visited skip)

end Report

namespace Reading

variable {s : Reading} {id : TypeId} {name : String} {target : Option TypeId}

/-- A typedef is found by its name. -/
theorem Tidy.lookup_eq (hs : s.Tidy) (hid : s.types.Holds id (.typedef name target)) :
    s.typedefs.lookup name = some id := by
  have hmem := hs.mem id name target hid
  cases hknown : s.typedefs.lookup name with
  | none => exact absurd (List.lookup_eq_none_iff.1 hknown _ hmem) (by simp)
  | some other =>
    cases List.inj_on_of_nodup_map hs.nodup hmem (mem_of_lookup hknown) rfl
    rfl

theorem Tidy.target?_eq (hs : s.Tidy) (hid : s.types.Holds id (.typedef name target)) :
    s.target? name = target := by
  rw [target?, hs.lookup_eq hid, Option.bind_some, hid.node_eq]

theorem Tidy.bounds (hs : s.Tidy) : s.types.Bounds fun name => (s.target? name).isSome :=
  fun _ _ _ hid => congrArg Option.isSome (hs.target?_eq hid)

end Reading

namespace Report

variable (report : Report) (skip : Bool)

theorem tidy_empty : ({} : Reading).Tidy :=
  ⟨List.nodup_nil, List.forall_mem_nil _, fun _ _ _ hid => nomatch hid⟩

/-- All of a report, read from the beginning. -/
theorem finds_reading :
    report.Finds report.tagNames (report.declared skip) {} (report.reading skip) := by
  obtain ⟨found, hfinds, hfound⟩ :=
    (report.reader skip).finds_forM (report.visited skip) (fun _ he => he) tidy_empty
  rw [← reading_eq_forM] at hfinds hfound
  rw [hfound _ hfinds.tidy.bounds] at hfinds
  exact hfinds

/-- What is declared stands with its file. -/
theorem forall₂_places :
    List.Forall₂ (report.Places report.tagNames (report.reading skip).types)
      (report.declared skip) (report.reading skip).declarations.toList := by
  obtain ⟨entries, hentries, hplaces⟩ := (report.finds_reading skip).declared
  rw [hentries]
  exact hplaces

variable {report skip}

theorem exists_rel_of_mem {α β : Type} {R : α → β → Prop} {l : List α} {l' : List β} {b : β}
    (h : List.Forall₂ R l l') (hb : b ∈ l') : ∃ a ∈ l, R a b := by
  induction h with
  | nil => cases hb
  | cons hfirst _ ih =>
    rcases List.mem_cons.1 hb with rfl | hb
    · exact ⟨_, List.mem_cons_self, hfirst⟩
    · obtain ⟨a, ha, hab⟩ := ih hb
      exact ⟨a, List.mem_cons_of_mem _ ha, hab⟩

/-- Every declaration of the header is read from an entity. -/
theorem exists_declares {d : Declaration} (h : d ∈ (report.reading skip).header.declarations) :
    ∃ e ∈ report.declared skip,
      report.Declares report.tagNames (report.reading skip).types e d := by
  obtain ⟨entry, hentry, rfl⟩ := List.mem_map.1 ((SourceUnit.group_perm _).mem_iff.1 h)
  obtain ⟨e, he, -, hdeclares⟩ := exists_rel_of_mem (report.forall₂_places skip) hentry
  exact ⟨e, he, hdeclares⟩

/-- Every entity that the header declares is read to a declaration. -/
theorem exists_declaration {e : Entity} (h : e ∈ report.declared skip) :
    ∃ d ∈ (report.reading skip).header.declarations,
      report.Declares report.tagNames (report.reading skip).types e d := by
  obtain ⟨entry, hentry, -, hdeclares⟩ := exists_rel_of_mem (report.forall₂_places skip).flip h
  exact ⟨entry.2, (SourceUnit.group_perm _).mem_iff.2 (List.mem_map_of_mem hentry), hdeclares⟩

end Report

end HeaderBindings
