import HeaderBindings.Report.Declarations

/-! The entities at the top of a report: blocks are opened, and system headers are left out if that
is asked for. A report is read by reading these one after the other, and it is among these that
names for tags are looked for. -/

namespace HeaderBindings

namespace Entity

mutual

/-- What stands for an entity where blocks are opened. -/
def opened (skip : Bool) : Entity → List Entity
  | .mk info children arguments =>
    if skip && info.inSystemHeader then []
    else if info.kind.isBlock then openedAll skip children
    else [.mk info children arguments]

def openedAll (skip : Bool) : List Entity → List Entity
  | [] => []
  | e :: rest => opened skip e ++ openedAll skip rest

end

/-- From some entities one comes to another through blocks alone, and none on the way is left
out. -/
inductive Reached (skip : Bool) : List Entity → Entity → Prop
  | here {es : List Entity} {e : Entity} (hmem : e ∈ es)
      (hskip : (skip && e.info.inSystemHeader) = false) (hkind : e.info.kind.isBlock = false) :
      Reached skip es e
  | block {es : List Entity} {b e : Entity} (hmem : b ∈ es)
      (hskip : (skip && b.info.inSystemHeader) = false) (hkind : b.info.kind.isBlock = true)
      (h : Reached skip b.children e) : Reached skip es e

variable {skip : Bool} {e : Entity}

theorem openedAll_eq_flatMap (es : List Entity) : openedAll skip es = es.flatMap (opened skip) := by
  induction es with
  | nil => rfl
  | cons e rest ih => rw [openedAll, ih, List.flatMap_cons]

theorem opened_of_skipped (hskip : (skip && e.info.inSystemHeader) = true) :
    opened skip e = [] := by
  obtain ⟨info, children, arguments⟩ := e
  exact if_pos hskip

theorem opened_of_block (hskip : (skip && e.info.inSystemHeader) = false)
    (hkind : e.info.kind.isBlock = true) : opened skip e = openedAll skip e.children := by
  obtain ⟨info, children, arguments⟩ := e
  exact (if_neg (Bool.eq_false_iff.1 hskip)).trans (if_pos hkind)

theorem opened_of_not_block (hskip : (skip && e.info.inSystemHeader) = false)
    (hkind : e.info.kind.isBlock = false) : opened skip e = [e] := by
  obtain ⟨info, children, arguments⟩ := e
  exact (if_neg (Bool.eq_false_iff.1 hskip)).trans (if_neg (Bool.eq_false_iff.1 hkind))

mutual

theorem reached_of_mem_opened : ∀ b es, b ∈ es → e ∈ opened skip b → Reached skip es e
  | .mk info children arguments, es, hb, he => by
    have hinside := reached_of_mem_openedAll children children fun _ h => h
    generalize hblock : Entity.mk info children arguments = b at hb he
    obtain rfl : b.children = children := congrArg Entity.children hblock.symm
    cases hskip : skip && b.info.inSystemHeader with
    | true =>
      rw [opened_of_skipped hskip] at he
      cases he
    | false =>
      cases hkind : b.info.kind.isBlock with
      | true =>
        rw [opened_of_block hskip hkind] at he
        exact .block hb hskip hkind (hinside he)
      | false =>
        rw [opened_of_not_block hskip hkind] at he
        obtain rfl := List.mem_singleton.1 he
        exact .here hb hskip hkind

theorem reached_of_mem_openedAll : ∀ rest es, (∀ b ∈ rest, b ∈ es) → e ∈ openedAll skip rest →
    Reached skip es e
  | b :: rest, es, hsub, he => by
    rw [openedAll] at he
    rcases List.mem_append.1 he with he | he
    · exact reached_of_mem_opened b es (hsub b List.mem_cons_self) he
    · exact reached_of_mem_openedAll rest es (fun b hb => hsub b (List.mem_cons_of_mem _ hb)) he

end

theorem mem_openedAll {es : List Entity} : e ∈ openedAll skip es ↔ Reached skip es e := by
  refine ⟨reached_of_mem_openedAll es es fun _ h => h, fun h => ?_⟩
  induction h with
  | here hmem hskip hkind =>
    rw [openedAll_eq_flatMap]
    refine List.mem_flatMap.2 ⟨_, hmem, ?_⟩
    rw [opened_of_not_block hskip hkind]
    exact List.mem_singleton_self _
  | block hmem hskip hkind _ ih =>
    rw [openedAll_eq_flatMap]
    refine List.mem_flatMap.2 ⟨_, hmem, ?_⟩
    rw [opened_of_block hskip hkind]
    exact ih

/-- What is reached past system headers is reached with them. -/
theorem Reached.of_skip {es : List Entity} (h : Reached skip es e) : Reached false es e := by
  induction h with
  | here hmem _ hkind => exact .here hmem rfl hkind
  | block hmem _ hkind _ ih => exact .block hmem rfl hkind ih

theorem Reached.isBlock_eq_false {es : List Entity} (h : Reached skip es e) :
    e.info.kind.isBlock = false ∧ (skip && e.info.inSystemHeader) = false := by
  induction h with
  | here _ hskip hkind => exact ⟨hkind, hskip⟩
  | block _ _ _ _ ih => exact ih

end Entity

namespace Reader

theorem entity_of_skipped (r : Reader) {e : Entity}
    (hskip : (r.skipSystemHeaders && e.info.inSystemHeader) = true) : entity r e = pure () := by
  obtain ⟨info, children, arguments⟩ := e
  rw [entity]
  exact if_pos hskip

theorem entity_of_block (r : Reader) {e : Entity}
    (hskip : (r.skipSystemHeaders && e.info.inSystemHeader) = false)
    (hkind : e.info.kind.isBlock = true) : entity r e = entities r e.children := by
  obtain ⟨info, children, arguments⟩ := e
  rw [entity]
  refine (if_neg (Bool.eq_false_iff.1 hskip)).trans ?_
  change info.kind.isBlock = true at hkind
  cases hk : info.kind <;> simp_all [EntityKind.isBlock, Entity.children]

mutual

/-- An entity is read as what stands for it. -/
theorem entity_eq_forM (r : Reader) :
    ∀ e, entity r e = (e.opened r.skipSystemHeaders).forM (entity r)
  | .mk info children arguments => by
    have hinside := entities_eq_forM r children
    generalize hblock : Entity.mk info children arguments = e
    obtain rfl : e.children = children := congrArg Entity.children hblock.symm
    cases hskip : r.skipSystemHeaders && e.info.inSystemHeader with
    | true =>
      rw [Entity.opened_of_skipped hskip, entity_of_skipped r hskip]
      rfl
    | false =>
      cases hkind : e.info.kind.isBlock with
      | true => rw [Entity.opened_of_block hskip hkind, entity_of_block r hskip hkind, hinside]
      | false =>
        rw [Entity.opened_of_not_block hskip hkind]
        exact bind_pure_unit.symm

theorem entities_eq_forM (r : Reader) :
    ∀ es, entities r es = (Entity.openedAll r.skipSystemHeaders es).forM (entity r)
  | [] => rfl
  | e :: rest => by
    rw [entities, entity_eq_forM r e, entities_eq_forM r rest]
    exact List.forM_append.symm

end

end Reader

namespace Report

variable (report : Report) (skip : Bool)

/-- The entities that are read, in order. -/
def visited : List Entity :=
  Entity.openedAll skip report.root.children

/-- An entity at the top of the report, or one that its types refer to. -/
def Contains (e : Entity) : Prop :=
  e ∈ report.declarations ∨ e ∈ report.visited false

def reader : Reader :=
  ⟨report, report.tagNames, skip⟩

theorem reading_eq_forM :
    report.reading skip =
      (((report.visited skip).forM (Reader.entity (report.reader skip))).run {}).2 :=
  congrArg (fun e : Read Unit => (e.run {}).2) (Reader.entities_eq_forM (report.reader skip) _)

variable {report}

theorem contains_of_mem_visited {skip : Bool} {e : Entity} (he : e ∈ report.visited skip) :
    report.Contains e :=
  .inr (Entity.mem_openedAll.2 (Entity.mem_openedAll.1 he).of_skip)

mutual

theorem tagNamesIn_eq : ∀ e, report.tagNamesIn e = (e.opened false).flatMap fun e =>
    if e.info.kind = .typedefDecl then report.tagNameOf e else []
  | .mk info children arguments => by
    have hinside := tagNamesInAll_eq children
    have hif : report.tagNamesIn (.mk info children arguments) =
        if info.kind = .typedefDecl then report.tagNameOf (.mk info children arguments)
        else if info.kind.isBlock then report.tagNamesInAll children else [] := by
      rw [tagNamesIn]
    generalize hblock : Entity.mk info children arguments = e at hif
    obtain rfl : e.children = children := congrArg Entity.children hblock.symm
    obtain rfl : e.info = info := congrArg Entity.info hblock.symm
    rw [hif]
    cases hkind : e.info.kind.isBlock with
    | true =>
      have hne : e.info.kind ≠ .typedefDecl := fun h => by rw [h] at hkind; cases hkind
      rw [Entity.opened_of_block rfl hkind, if_neg hne, if_pos rfl, hinside]
    | false =>
      rw [Entity.opened_of_not_block rfl hkind, List.flatMap_singleton, if_neg Bool.false_ne_true]

theorem tagNamesInAll_eq : ∀ es, report.tagNamesInAll es =
    (Entity.openedAll false es).flatMap fun e =>
      if e.info.kind = .typedefDecl then report.tagNameOf e else []
  | [] => rfl
  | e :: rest => by
    rw [tagNamesInAll, Entity.openedAll, List.flatMap_append, tagNamesIn_eq e,
      tagNamesInAll_eq rest]

end

end Report

end HeaderBindings
